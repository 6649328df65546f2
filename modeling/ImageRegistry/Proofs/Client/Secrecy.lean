import ImageRegistry.Proofs.Client.Run
import ImageRegistry.Proofs.Client.Walk
import ImageRegistry.Proofs.Exchange.Secrecy

namespace ImageRegistry

open Text (Symbol symbols)

structure Outcome.Alike {α β : Type} (R : α → β → Prop) (outcome : Outcome α) (other : Outcome β) :
    Prop where
  result : ResultsAlike R outcome.result other.result
  requests : List.Forall₂ Request.Alike outcome.requests other.requests
  unused : outcome.unused = other.unused

theorem Outcome.Alike.map {α β γ δ : Type} {R : α → β → Prop} {Q : γ → δ → Prop}
    {outcome : Outcome α} {other : Outcome β} (h : Outcome.Alike R outcome other) {f : α → γ}
    {g : β → δ} (hf : ∀ a b, R a b → Q (f a) (g b)) :
    Outcome.Alike Q (outcome.map f) (other.map g) :=
  ⟨h.result.map hf, h.requests, h.unused⟩

inductive Client.Alike : Client → Client → Prop
  | intro (client : Client) {store : TokenStore} :
      Option.Rel AccessToken.Alike client.store.token store.token →
      Alike client { client with store }

inductive Step.Alike : Step → Step → Prop
  | enter : Alike .enter .enter
  | leave : Alike .leave .leave
  | close : Alike .close .close
  | closeSession : Alike .closeSession .closeSession
  | version (host : String) {answers others : List Answer} :
      List.Forall₂ Answer.Alike answers others →
      Alike (.version host answers) (.version host others)
  | auth (image : Image) {answers others : List Answer} :
      List.Forall₂ Answer.Alike answers others → Alike (.auth image answers) (.auth image others)
  | pull (image : Image) {answers others : List Answer} :
      List.Forall₂ Answer.Alike answers others → Alike (.pull image answers) (.pull image others)

structure Row.Alike (row other : Row) : Prop where
  outcome : Outcome.Alike Eq row.outcome other.outcome
  token : Option.Rel AccessToken.Alike row.store.token other.store.token
  display : row.store.token.map AccessToken.display = other.store.token.map AccessToken.display
  openness : row.openness = other.openness
  sessions : row.sessions = other.sessions

namespace Client

variable {client other : Client}

section Exchanges

variable {α β : Type} {R : α → β → Prop} {exchange : Exchange α} {exchange' : Exchange β}

end Exchanges

end Client

structure Progress.Alike (progress other : Progress) : Prop where
  wire : Wire.Alike progress.wire other.wire
  log : progress.log = other.log

namespace Walk

end Walk

structure Walkthrough.Alike (walk other : Walkthrough) : Prop where
  outcome : Outcome.Alike Eq walk.outcome other.outcome
  sessions : walk.sessions = other.sessions
  log : walk.log = other.log

end ImageRegistry
