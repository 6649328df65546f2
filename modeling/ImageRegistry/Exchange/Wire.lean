import ImageRegistry.Fault

namespace ImageRegistry

open Text

inductive TransportFailure where
  | broken (reason : String)
  | timedOut (reason : String)
  deriving DecidableEq, Repr

def TransportFailure.reason : TransportFailure → String
  | broken reason => reason
  | timedOut reason => reason

-- Names are seven-bit texts, as the transport has them; values may hold lone halves.
abbrev Headers := List (String × List Symbol)

-- The Kelvin sign is the one letter outside the seven-bit range with a small form inside it.
def smallLetter (c : Char) : Char :=
  if c = '\u212A' then 'k' else c.toLower

def smallLetters (name : String) : String :=
  name.map smallLetter

def header? (headers : Headers) (name : String) : Option (List Symbol) :=
  (headers.find? fun header => smallLetters header.1 == smallLetters name).map Prod.snd

structure Response where
  status : Int
  headers : Headers
  charset : Charset
  body : Except TransportFailure (List UInt8)
  deriving Repr

inductive Answer where
  | arrived (response : Response)
  | failed (cause : TransportFailure)
  deriving Repr

structure Request where
  url : List Symbol
  headers : Option Headers
  read : Bool
  deriving DecidableEq, Repr

structure Wire where
  pending : List Answer
  sent : List Request
  deriving Repr

structure Arrival where
  status : Int
  headers : Headers
  charset : Charset
  body : List UInt8
  deriving Repr

def noAnswer : TransportFailure := .broken "no response scripted"

def Answer.take (reads : Int → Bool) : Answer → Except TransportFailure Arrival × Bool
  | .failed cause => (.error cause, false)
  | .arrived response =>
      if reads response.status then
        (response.body.map fun body =>
          ⟨response.status, response.headers, response.charset, body⟩, true)
      else (.ok ⟨response.status, response.headers, response.charset, []⟩, false)

def Wire.send (wire : Wire) (url : List Symbol) (headers : Option Headers) (reads : Int → Bool) :
    Except TransportFailure Arrival × Wire :=
  let (result, read) := (wire.pending.head?.getD (.failed noAnswer)).take reads
  (result, ⟨wire.pending.drop 1, wire.sent ++ [⟨url, headers, read⟩]⟩)

abbrev Exchange := ExceptT Fault (StateM Wire)

namespace Exchange

def send (endpoint : Endpoint) (url : List Symbol) (headers : Option Headers) (reads : Int → Bool) :
    Exchange Arrival :=
  ExceptT.mk fun wire =>
    let (result, wire) := wire.send url headers reads
    (result.mapError fun failure => .unreachable endpoint failure.reason, wire)

def ofResult {α : Type} (result : Except Fault α) : Exchange α :=
  ExceptT.mk (pure result)

def onWire {α : Type} (exchange : Exchange α) (wire : Wire) : Except Fault α × Wire :=
  exchange.run.run wire

variable {α β : Type}

theorem onWire_ofResult (result : Except Fault α) (wire : Wire) :
    (ofResult result).onWire wire = (result, wire) := rfl

theorem onWire_bind (exchange : Exchange α) (next : α → Exchange β) (wire : Wire) :
    (exchange >>= next).onWire wire =
      match exchange.onWire wire with
      | (.ok a, wire) => (next a).onWire wire
      | (.error fault, wire) => (.error fault, wire) := by
  unfold onWire ExceptT.run StateT.run
  simp only [bind, ExceptT.bind, ExceptT.mk, StateT.bind, ExceptT.bindCont]
  cases exchange wire with
  | mk result wire => cases result <;> rfl

theorem onWire_send (endpoint : Endpoint) (url : List Symbol) (headers : Option Headers)
    (reads : Int → Bool) (wire : Wire) :
    (send endpoint url headers reads).onWire wire =
      ((wire.send url headers reads).1.mapError fun failure => .unreachable endpoint failure.reason,
        (wire.send url headers reads).2) := rfl

end Exchange

structure Outcome (α : Type) where
  result : Except Fault α
  requests : List Request
  unused : Nat

def Exchange.run {α : Type} (exchange : Exchange α) (answers : List Answer) : Outcome α :=
  let (result, wire) := exchange.onWire ⟨answers, []⟩
  ⟨result, wire.sent, wire.pending.length⟩

end ImageRegistry
