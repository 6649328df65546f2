import ImageRegistry.DecodeError

namespace ImageRegistry

structure ErrorEntry where
  code : String
  message : String
  detail : Json
  deriving Repr

namespace ErrorEntry

def display (entry : ErrorEntry) : String :=
  if entry.message.isEmpty then entry.code else entry.code ++ ": " ++ entry.message

def ofJson (value : Json) : Except DecodeError ErrorEntry := do
  let members ← value.members .errorEntry
  match Json.member? "code" members with
  | some (.str code) =>
      let message ← Json.text? "message" members
      pure ⟨Text.textOf code, message.getD "", (Json.member? "detail" members).getD .null⟩
  | _ => throw (.noCode value)

end ErrorEntry

structure ErrorEnvelope where
  first : ErrorEntry
  others : List ErrorEntry
  deriving Repr

namespace ErrorEnvelope

def entries (envelope : ErrorEnvelope) : List ErrorEntry :=
  envelope.first :: envelope.others

def ofJson (value : Json) : Except DecodeError ErrorEnvelope := do
  let members ← value.members .errorEnvelope
  match Json.member? "errors" members with
  | some (.arr (first :: others)) =>
      let first ← ErrorEntry.ofJson first
      let others ← others.mapM ErrorEntry.ofJson
      pure ⟨first, others⟩
  | _ => throw .noErrors

def decode (body : List UInt8) : Except DecodeError ErrorEnvelope := do
  ofJson (← Json.decode body)

end ErrorEnvelope

end ImageRegistry
