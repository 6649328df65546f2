import ImageRegistry.Challenge.Bearer

namespace ImageRegistry

open Text Challenge

structure Registration where
  scheme : List Symbol
  skipsBare : Bool
  deriving DecidableEq, Repr

structure Echo where
  registration : Nat
  scheme : List Symbol
  raw : Raw
  deriving DecidableEq, Repr

inductive DecodedChallenge where
  | bearer (challenge : Bearer (List Symbol))
  | echo (challenge : Echo)
  deriving DecidableEq, Repr

def Registration.decoder (registration : Registration) (number : Nat) :
    Decoder DecodedChallenge := fun raw =>
  if registration.skipsBare && raw == .bare then none
  else some (.echo ⟨number, registration.scheme, raw⟩)

namespace DecodedChallenge

def decoders : Decoders DecodedChallenge :=
  ⟨[(symbols "bearer", fun raw => (Bearer.ofRaw raw).map .bearer)]⟩

def registered (registrations : List Registration) : Decoders DecodedChallenge :=
  registrations.zipIdx.foldl
    (fun decoders registration =>
      decoders.register registration.1.scheme (registration.1.decoder registration.2))
    decoders

def isOf (number : Nat) : DecodedChallenge → Bool
  | .echo challenge => challenge.registration == number
  | .bearer _ => false

def firstOf? (number : Nat) (challenges : List DecodedChallenge) : Option DecodedChallenge :=
  challenges.find? (isOf number)

end DecodedChallenge

end ImageRegistry
