import Mathlib.Data.List.Forall2
import ImageRegistry.Proofs.Exchange.Handshake

namespace ImageRegistry

open Text (Symbol Charset symbols)

section Logic

variable {ε α β γ δ : Type}

inductive ResultsAlike (R : α → β → Prop) : Except ε α → Except ε β → Prop
  | ok {a : α} {b : β} : R a b → ResultsAlike R (.ok a) (.ok b)
  | error (fault : ε) : ResultsAlike R (.error fault) (.error fault)

theorem ResultsAlike.refl {R : α → α → Prop} (h : ∀ a, R a a) (result : Except ε α) :
    ResultsAlike R result result := by
  cases result with
  | ok a => exact .ok (h a)
  | error fault => exact .error fault

theorem ResultsAlike.map {R : α → β → Prop} {Q : γ → δ → Prop} {result : Except ε α}
    {other : Except ε β} (h : ResultsAlike R result other) {f : α → γ} {g : β → δ}
    (hf : ∀ a b, R a b → Q (f a) (g b)) : ResultsAlike Q (result.map f) (other.map g) := by
  cases h with
  | ok h => exact .ok (hf _ _ h)
  | error fault => exact .error fault

theorem ResultsAlike.mapError {R : α → β → Prop} {result : Except ε α} {other : Except ε β}
    (h : ResultsAlike R result other) (f : ε → γ) :
    ResultsAlike R (result.mapError f) (other.mapError f) := by
  cases h with
  | ok h => exact .ok h
  | error fault => exact .error (f fault)

variable {σ : Type}

variable {S : σ → σ → Prop} {R : α → β → Prop} {Q : γ → δ → Prop}

end Logic

section Grants

structure Json.SameButToken (members others : Json.Members) : Prop where
  token : ∃ value, value ≠ [] ∧ Json.member? "access_token" members = some (.str value)
  otherToken : ∃ value, value ≠ [] ∧ Json.member? "access_token" others = some (.str value)
  rest : ∀ name, name ≠ "access_token" → Json.member? name members = Json.member? name others

inductive Answer.Alike : Answer → Answer → Prop
  | same (answer : Answer) : Alike answer answer
  | granting {headers : Headers} {charset : Charset} {body other : List UInt8}
      {members others : Json.Members} :
      Json.decode body = .ok (.obj members) → Json.decode other = .ok (.obj others) →
      Json.SameButToken members others →
      Alike (.arrived ⟨200, headers, charset, .ok body⟩)
        (.arrived ⟨200, headers, charset, .ok other⟩)

inductive Arrival.Alike : Arrival → Arrival → Prop
  | same (arrival : Arrival) : Alike arrival arrival
  | granting {headers : Headers} {charset : Charset} {body other : List UInt8}
      {members others : Json.Members} :
      Json.decode body = .ok (.obj members) → Json.decode other = .ok (.obj others) →
      Json.SameButToken members others →
      Alike ⟨200, headers, charset, body⟩ ⟨200, headers, charset, other⟩

structure AccessToken.Alike (token other : AccessToken) : Prop where
  expiresIn : token.expiresIn = other.expiresIn
  issuedAt : token.issuedAt = other.issuedAt

variable {members others : Json.Members}

end Grants

section Wires

inductive HeadersAlike : Option Headers → Option Headers → Prop
  | same (headers : Option Headers) : HeadersAlike headers headers
  | authorized (token other : AccessToken) :
      HeadersAlike (some (manifestHeaders (some token.bearer)))
        (some (manifestHeaders (some other.bearer)))

structure Request.Alike (request other : Request) : Prop where
  url : request.url = other.url
  headers : HeadersAlike request.headers other.headers
  read : request.read = other.read

structure Wire.Alike (wire other : Wire) : Prop where
  pending : List.Forall₂ Answer.Alike wire.pending other.pending
  sent : List.Forall₂ Request.Alike wire.sent other.sent

theorem Answer.Alike.take {answer other : Answer} (h : Answer.Alike answer other)
    (reads : Int → Bool) :
    ResultsAlike Arrival.Alike (answer.take reads).1 (other.take reads).1 ∧
      (answer.take reads).2 = (other.take reads).2 := by
  cases h with
  | same => exact ⟨.refl .same _, rfl⟩
  | @granting headers charset body other members others hd hd' hm =>
      simp only [Answer.take]
      by_cases hr : reads 200 = true
      · simp only [hr, if_true]
        exact ⟨.ok (.granting hd hd' hm), trivial⟩
      · simp only [hr]
        exact ⟨.ok (.same _), rfl⟩

namespace Exchange

variable {α β : Type} {R : α → β → Prop}

section Send

variable {headers others : Option Headers} (h : HeadersAlike headers others)
  (endpoint : Endpoint) (url : List Symbol) (reads : Int → Bool)

include h

end Send

end Exchange

open Exchange

end Wires

end ImageRegistry
