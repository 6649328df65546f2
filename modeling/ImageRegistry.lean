import ImageRegistry.AccessToken
import ImageRegistry.Calendar.Date
import ImageRegistry.Calendar.Reader
import ImageRegistry.Calendar.Timestamp
import ImageRegistry.Challenge.Basic
import ImageRegistry.Challenge.Bearer
import ImageRegistry.Challenge.Header
import ImageRegistry.Challenge.Lexeme
import ImageRegistry.Challenge.Registration
import ImageRegistry.Client.Basic
import ImageRegistry.Client.OneShot
import ImageRegistry.Client.Steps
import ImageRegistry.Client.Walkthrough
import ImageRegistry.Decimal.Double
import ImageRegistry.Decimal.Notation
import ImageRegistry.Decimal.Shortest
import ImageRegistry.DecodeError
import ImageRegistry.Digest
import ImageRegistry.ErrorKind
import ImageRegistry.Exchange.Manifest
import ImageRegistry.Exchange.Token
import ImageRegistry.Exchange.Version
import ImageRegistry.Exchange.Wire
import ImageRegistry.Fault
import ImageRegistry.Json.Body
import ImageRegistry.Json.Coerce
import ImageRegistry.Json.Display
import ImageRegistry.Json.Reader
import ImageRegistry.Json.Value
import ImageRegistry.Manifest.Basic
import ImageRegistry.Manifest.Descriptor
import ImageRegistry.Manifest.ErrorEnvelope
import ImageRegistry.Proofs.AccessToken
import ImageRegistry.Proofs.Calendar.RoundTrip
import ImageRegistry.Proofs.Calendar.Validity
import ImageRegistry.Proofs.Challenge.Names
import ImageRegistry.Proofs.Challenge.Outcome
import ImageRegistry.Proofs.Challenge.Registrations
import ImageRegistry.Proofs.Challenge.Rendering
import ImageRegistry.Proofs.Challenge.Repeats
import ImageRegistry.Proofs.Challenge.RoundTrip
import ImageRegistry.Proofs.Challenge.Table
import ImageRegistry.Proofs.Client.Deletion
import ImageRegistry.Proofs.Client.Entry
import ImageRegistry.Proofs.Client.Fields
import ImageRegistry.Proofs.Client.Handshake
import ImageRegistry.Proofs.Client.Operation
import ImageRegistry.Proofs.Client.Privilege
import ImageRegistry.Proofs.Client.Pull
import ImageRegistry.Proofs.Client.RootAnswer
import ImageRegistry.Proofs.Client.Run
import ImageRegistry.Proofs.Client.Secrecy
import ImageRegistry.Proofs.Client.Sessions
import ImageRegistry.Proofs.Client.Token
import ImageRegistry.Proofs.Client.Visit
import ImageRegistry.Proofs.Client.Walk
import ImageRegistry.Proofs.Exchange.Classification
import ImageRegistry.Proofs.Exchange.Conversation
import ImageRegistry.Proofs.Exchange.Diagnostics
import ImageRegistry.Proofs.Exchange.Faults
import ImageRegistry.Proofs.Exchange.Handshake
import ImageRegistry.Proofs.Exchange.ManifestRequest
import ImageRegistry.Proofs.Exchange.Run
import ImageRegistry.Proofs.Exchange.Secrecy
import ImageRegistry.Proofs.Exchange.Single
import ImageRegistry.Proofs.Exchange.TokenRequest
import ImageRegistry.Proofs.Exchange.Transcript
import ImageRegistry.Proofs.Json.Body
import ImageRegistry.Proofs.Json.Members
import ImageRegistry.Proofs.Json.Reader
import ImageRegistry.Proofs.Manifest.Decoding
import ImageRegistry.Proofs.Manifest.Envelope
import ImageRegistry.Proofs.Manifest.Refusal
import ImageRegistry.Proofs.Manifest.Shape
import ImageRegistry.Proofs.Manifest.Validity
import ImageRegistry.Proofs.Reference.Address
import ImageRegistry.Proofs.Reference.Canonical
import ImageRegistry.Proofs.Reference.Digest
import ImageRegistry.Proofs.Reference.Distinct
import ImageRegistry.Proofs.Reference.Grammar
import ImageRegistry.Proofs.Reference.HubNames
import ImageRegistry.Proofs.Reference.Parts
import ImageRegistry.Proofs.Reference.Pinning
import ImageRegistry.Proofs.Reference.Soundness
import ImageRegistry.Proofs.Reference.Spelling
import ImageRegistry.Proofs.Reference.Tag
import ImageRegistry.Proofs.Text.Digits
import ImageRegistry.Proofs.Text.Encoding
import ImageRegistry.Proofs.Text.Pieces
import ImageRegistry.Proofs.Text.Stripping
import ImageRegistry.Proofs.Text.Utf8
import ImageRegistry.Proofs.Url.Form
import ImageRegistry.Proofs.Url.Join
import ImageRegistry.Proofs.Url.Query
import ImageRegistry.Proofs.Url.Split
import ImageRegistry.Reference.Basic
import ImageRegistry.Reference.Grammar
import ImageRegistry.Reference.Parser
import ImageRegistry.RegistryConfig
import ImageRegistry.Report
import ImageRegistry.Text.Blank
import ImageRegistry.Text.Charset
import ImageRegistry.Text.Cut
import ImageRegistry.Text.Digits
import ImageRegistry.Text.Encoding
import ImageRegistry.Text.Fold
import ImageRegistry.Text.Printable
import ImageRegistry.Text.Quoted
import ImageRegistry.Text.Ranges
import ImageRegistry.Text.Symbol
import ImageRegistry.Text.Utf8
import ImageRegistry.Text.Wide
import ImageRegistry.Text.Word
import ImageRegistry.TokenStore
import ImageRegistry.TokenUrl
import ImageRegistry.Url.Basic
import ImageRegistry.Url.Form
import ImageRegistry.Url.Host
import ImageRegistry.Url.Percent
