import ImageRegistry.Json.Body
import ImageRegistry.Json.Display

namespace ImageRegistry

inductive Shape where
  | descriptor
  | manifest
  | errorEnvelope
  | errorEntry
  | tokenResponse
  deriving DecidableEq, Repr

def Shape.name : Shape → String
  | .descriptor => "Descriptor"
  | .manifest => "Manifest"
  | .errorEnvelope => "Error envelope"
  | .errorEntry => "Error entry"
  | .tokenResponse => "Token response"

inductive DecodeError where
  | malformed (reason : Json.Malformed)
  | notObject (shape : Shape)
  | notText (member : String)
  | missing (member : String)
  | size (value : Json)
  | digest (value : Json)
  | schemaVersion (value : Json)
  | notLists
  | noErrors
  | noCode (entry : Json)
  | noAccessToken
  | lifetime (value : Json)
  | issueTime (value : Json)
  | timestamp (text : List Text.Symbol)
  deriving DecidableEq, Repr

def DecodeError.malformedLead : String := "Invalid JSON response"

def DecodeError.message : DecodeError → String
  | malformed reason => malformedLead ++ ": " ++ reason.message
  | notObject shape => shape.name ++ " must be a JSON object"
  | notText member => member ++ " must be a string"
  | missing member => "Descriptor is missing " ++ member
  | size value => "Descriptor size must be an integer: " ++ value.shown
  | digest value => "Descriptor digest must be a string: " ++ value.shown
  | schemaVersion value => "Invalid schemaVersion: " ++ value.shown
  | notLists => "layers and manifests must be lists"
  | noErrors => "Error envelope has no errors"
  | noCode entry => "Error entry has no code: " ++ entry.shown
  | noAccessToken => "Token response has no access_token"
  | lifetime value => "Invalid expires_in value: " ++ value.shown
  | issueTime value => "Invalid issued_at value: " ++ value.shown
  | timestamp text => "Invalid issued_at timestamp: " ++ (Json.str text).shown

def Json.decode (body : List UInt8) : Except DecodeError Json :=
  (Json.ofBytes body).mapError .malformed

def Json.members (shape : Shape) : Json → Except DecodeError Json.Members
  | .obj members => .ok members
  | _ => .error (.notObject shape)

def Json.text? (name : String) (members : Json.Members) : Except DecodeError (Option String) :=
  match Json.given? name members with
  | none => .ok none
  | some (.str text) => .ok (some (Text.textOf text))
  | some _ => .error (.notText name)

end ImageRegistry
