import ImageRegistry.Challenge.Basic
import ImageRegistry.ErrorKind
import ImageRegistry.Manifest.Basic
import ImageRegistry.Manifest.ErrorEnvelope
import ImageRegistry.Reference.Parser
import ImageRegistry.Text.Charset
import ImageRegistry.TokenUrl

namespace ImageRegistry

open Text

inductive Endpoint where
  | api (url : String)
  | token (realm : List Symbol)
  | manifest (url : String)
  deriving DecidableEq, Repr

def Endpoint.failure : Endpoint → String
  | api url => "Failed to reach " ++ url
  | token realm => "Failed to reach token endpoint " ++ textOf realm
  | manifest url => "Failed to fetch manifest " ++ url

inductive Fault where
  | outOfSession
  | unreachable (endpoint : Endpoint) (reason : String)
  | reference (error : ReferenceError)
  | undecodable (error : DecodeError)
  | noVersion (registry : String)
  | challenge (error : ChallengeError)
  | rejected (reason : List Symbol) (status : Int)
  | refused (entry : ErrorEntry) (url : String)
  | server (url : String)
  | unexpected (status : Int) (url body : String)
  | namelessChallenge
  | tokenUrl (error : TokenUrlError)
  | charset (error : CharsetError)
  | conversion (error : Json.ConversionError)
  | badPlatform
  deriving Repr

namespace Fault

def kind? : Fault → Option ErrorKind
  | outOfSession => some .registry
  | unreachable _ _ => some .connection
  | reference _ => some .validation
  | undecodable _ => some .decode
  | noVersion _ => some .missingVersion
  | challenge _ => some .malformedChallenge
  | rejected _ _ => some .authentication
  | refused _ _ => some .manifestClient
  | server _ => some .manifestServer
  | unexpected _ _ _ => some .unexpectedStatus
  | namelessChallenge | tokenUrl _ | charset _ | conversion _ | badPlatform => none

def isReported (fault : Fault) : Bool :=
  fault.kind?.isSome

def message : Fault → String
  | outOfSession => "RegistryClient must be used as an async context manager"
  | unreachable endpoint reason => endpoint.failure ++ ": " ++ reason
  | reference error => error.message
  | undecodable error => error.message
  | noVersion registry =>
      "Registry at " ++ registry ++ " does not advertise a distribution API version"
  | challenge error => error.message
  | rejected reason _ => "failed to authenticate: " ++ textOf reason
  | refused entry url => entry.display ++ " on " ++ url
  | server url => "Server error at " ++ url
  | unexpected status url body =>
      "An unexpected error occurred: code=" ++ toString status ++ ", url=" ++ url ++
        ", message='" ++ body ++ "'"
  | namelessChallenge => "A challenge has no name"
  | tokenUrl .badAuthority => "The realm has no valid authority"
  | tokenUrl .unencodable => "A text of the challenge cannot be encoded"
  | charset _ => "A body cannot be read as a text"
  | conversion _ => "A member is no list or table"
  | badPlatform => "A platform is no object"

def ofManifest : ManifestFault → Fault
  | .undecodable error => undecodable error
  | .conversion error => conversion error

def ofChallenge : ChallengeFault → Fault
  | .malformed error => challenge error
  | .nameless => namelessChallenge

end Fault

end ImageRegistry
