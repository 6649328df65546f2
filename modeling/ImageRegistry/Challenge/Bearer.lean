import ImageRegistry.Challenge.Basic

namespace ImageRegistry

open Text Challenge

structure Bearer (α : Type) where
  realm : Option α
  service : Option α
  scope : Option α
  deriving DecidableEq, Repr

namespace Bearer

variable {α : Type}

def lastNamed? (name : String) (fields : List (List Symbol × α)) : Option α :=
  (fields.reverse.find? fun field => foldCase field.1 == symbols name).map Prod.snd

def ofFields (fields : List (List Symbol × α)) : Option (Bearer α) :=
  if fields.isEmpty then none
  else
    some
      { realm := lastNamed? "realm" fields
        service := lastNamed? "service" fields
        scope := lastNamed? "scope" fields }

def ofRaw : Raw → Option (Bearer (List Symbol))
  | .fields fields => ofFields fields
  | _ => none

def ofJson : Json → Option (Bearer Json)
  | .obj members => ofFields members
  | _ => none

def decoders : Decoders (Bearer (List Symbol)) := ⟨[(symbols "bearer", ofRaw)]⟩

def ofHeader (header : Option (List Symbol)) :
    Except ChallengeFault (Option (Bearer (List Symbol))) :=
  (decoders.read header).map List.head?

end Bearer

end ImageRegistry
