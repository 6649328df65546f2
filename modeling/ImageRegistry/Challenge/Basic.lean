import ImageRegistry.Challenge.Header
import ImageRegistry.Text.Quoted

namespace ImageRegistry

open Text Challenge

inductive ChallengeError where
  | unreadable (header : List Symbol)
  | noRealm
  | noService
  deriving DecidableEq, Repr

def ChallengeError.message : ChallengeError → String
  | unreadable header =>
      "Cannot parse WWW-Authenticate header " ++ String.ofList (quotedSymbols header) ++
        ": Failed to parse value"
  | noRealm => "Bearer challenge has no realm"
  | noService => "Bearer challenge has no service"

inductive ChallengeFault where
  | malformed (error : ChallengeError)
  | nameless
  deriving DecidableEq, Repr

namespace Challenge

abbrev Decoder (α : Type) := Raw → Option α

structure Decoders (α : Type) where
  entries : List (List Symbol × Decoder α)

namespace Decoders

variable {α : Type}

def schemes (decoders : Decoders α) : List (List Symbol) :=
  decoders.entries.map Prod.fst

def register (decoders : Decoders α) (scheme : List Symbol) (decoder : Decoder α) : Decoders α :=
  ⟨putPair (· == ·) (foldCase scheme) decoder decoders.entries⟩

def find? (decoders : Decoders α) (scheme : List Symbol) : Option (Decoder α) :=
  decoders.entries.lookup scheme

def decode (decoders : Decoders α) (challenges : List (List Symbol × Raw)) : List α :=
  challenges.filterMap fun challenge =>
    (decoders.find? challenge.1).bind fun decoder => decoder challenge.2

def read (decoders : Decoders α) (header : Option (List Symbol)) :
    Except ChallengeFault (List α) :=
  match header with
  | none => .ok []
  | some text =>
      if text.all (Symbol.is isBlank) then .ok []
      else
        match readHeader text with
        | .ok challenges => .ok (decoders.decode challenges)
        | .error .unreadable => .error (.malformed (.unreadable text))
        | .error .nameless => .error .nameless

end Decoders

end Challenge

end ImageRegistry
