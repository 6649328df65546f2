import ImageRegistry.Calendar.Reader
import ImageRegistry.DecodeError

namespace ImageRegistry

open Calendar Text

structure AccessToken where
  value : List Symbol
  expiresIn : Option Int
  issuedAt : Option Timestamp
  deriving DecidableEq, Repr

variable (form : NumberForm)

def readIssueTime (text : List Symbol) : Except DecodeError Timestamp :=
  match Timestamp.read? form (charsOf text) with
  | some time => .ok time
  | none => .error (.timestamp text)

namespace AccessToken

def value? (members : Json.Members) : Option Json :=
  match Json.member? "access_token" members with
  | some value => if value.isTruthy then some value else Json.member? "token" members
  | none => Json.member? "token" members

def decodeValue (members : Json.Members) : Except DecodeError (List Symbol) :=
  match value? members with
  | some (.str value) => if value.isEmpty then .error .noAccessToken else .ok value
  | _ => .error .noAccessToken

def decodeLifetime (members : Json.Members) : Except DecodeError (Option Int) :=
  match Json.given? "expires_in" members with
  | none => .ok none
  | some (.int seconds) => .ok (some seconds)
  | some value => .error (.lifetime value)

def decodeIssueTime (members : Json.Members) : Except DecodeError (Option Timestamp) :=
  match Json.given? "issued_at" members with
  | none => .ok none
  | some (.str text) => (readIssueTime form text).map some
  | some value => .error (.issueTime value)

def ofJson (value : Json) : Except DecodeError AccessToken := do
  let members ← value.members .tokenResponse
  let value ← decodeValue members
  let expiresIn ← decodeLifetime members
  let issuedAt ← decodeIssueTime form members
  pure ⟨value, expiresIn, issuedAt⟩

def decode (body : List UInt8) : Except DecodeError AccessToken := do
  ofJson form (← Json.decode body)

def bearer (token : AccessToken) : List Symbol :=
  symbols "Bearer " ++ token.value

def display (token : AccessToken) : String :=
  "AccessToken(access_token='***', expires_in=" ++ (token.expiresIn.map toString).getD "None" ++
    ", issued_at=" ++ (token.issuedAt.map Timestamp.display).getD "None" ++ ")"

end AccessToken

end ImageRegistry
