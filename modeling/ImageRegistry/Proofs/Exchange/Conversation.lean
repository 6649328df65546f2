import ImageRegistry.Proofs.Exchange.Faults

namespace ImageRegistry

open Exchange
open Text (Symbol)

inductive Stage where
  | api
  | token
  | manifest
  deriving DecidableEq, Repr

def Stage.reads : Stage → Int → Bool
  | api => fun _ => false
  | token => fun _ => true
  | manifest => fun status => !isServerError status

def Fault.IsConnection (fault : Fault) : Prop :=
  fault.kind? = some .connection

def Connected {α : Type} (result : Except Fault α) : Prop :=
  ∀ fault, result = .error fault → ¬ fault.IsConnection

inductive Conversation {α : Type} : List Stage → Exchange α → Prop
  | returned (a : α) : Conversation [] (pure a)
  | stopped {stages : List Stage} {fault : Fault} :
      ¬ fault.IsConnection → Conversation stages (throw fault)
  | unasked {stages : List Stage} {exchange : Exchange α} :
      Conversation stages exchange → Conversation (.token :: stages) exchange
  | asked {stage : Stage} {stages : List Stage} (endpoint : Endpoint) (url : List Symbol)
      {headers : Option Headers} {next : Arrival → Exchange α} :
      (headers.isSome ↔ stage = .manifest) → (∀ arrival, Conversation stages (next arrival)) →
      Conversation (stage :: stages) (send endpoint url headers stage.reads >>= next)

namespace Conversation

variable {α β : Type} {stages : List Stage} {exchange : Exchange α}

theorem framed (h : Conversation stages exchange) : Framed exchange := by
  induction h with
  | returned a => exact framed_pure a
  | stopped => exact framed_throw _
  | unasked _ ih => exact ih
  | asked endpoint url _ _ ih => exact framed_bind (framed_send endpoint url _ _) ih

theorem bind {more : List Stage} {next : α → Exchange β} (h : Conversation stages exchange)
    (hn : ∀ a, Conversation more (next a)) : Conversation (stages ++ more) (exchange >>= next) := by
  induction h with
  | returned a =>
      rw [pure_bind]
      exact hn a
  | stopped hf => exact .stopped hf
  | unasked _ ih => exact .unasked ih
  | asked endpoint url hh _ ih =>
      rw [bind_assoc]
      exact .asked endpoint url hh ih

theorem map (h : Conversation stages exchange) (f : α → β) :
    Conversation stages (f <$> exchange) := by
  rw [map_eq_pure_bind, ← List.append_nil stages]
  exact h.bind fun a => .returned (f a)

theorem ofResult {result : Except Fault α} (h : Connected result) :
    Conversation [] (Exchange.ofResult result) := by
  cases result with
  | ok a => exact .returned a
  | error fault => exact .stopped (h fault rfl)

theorem single (stage : Stage) (endpoint : Endpoint) (url : List Symbol) {headers : Option Headers}
    {judge : Arrival → Except Fault α} (hh : headers.isSome ↔ stage = .manifest)
    (hj : ∀ arrival, Connected (judge arrival)) :
    Conversation [stage] (single endpoint url headers stage.reads judge) :=
  .asked endpoint url hh fun arrival => .ofResult (hj arrival)

end Conversation

theorem connected_of_raisesOnly {α : Type} {kinds : List (Option ErrorKind)}
    {result : Except Fault α} (h : RaisesOnly kinds result) (hk : some .connection ∉ kinds) :
    Connected result := fun fault hf hc => hk (hc ▸ h fault hf)

section Requests

theorem conversation_fetchVersion (config : RegistryConfig) :
    Conversation [.api] (fetchVersion config) := by
  rw [fetchVersion_eq]
  exact .single .api _ _ (by decide) fun arrival =>
    connected_of_raisesOnly (raisesOnly_judgeVersion config arrival) (by decide)

theorem conversation_discoverChallenge (config : RegistryConfig) :
    Conversation [.api] (discoverChallenge config) := by
  rw [discoverChallenge_eq]
  exact .single .api _ _ (by decide) fun arrival =>
    connected_of_raisesOnly (raisesOnly_challengeIn arrival) (by decide)

theorem conversation_requestToken (challenge : Bearer (List Symbol)) (repository : List Symbol) :
    Conversation [.token] (requestToken challenge repository) := by
  rw [requestToken_eq]
  cases ha : tokenAddress challenge repository with
  | ok address =>
      exact .single .token _ _ (by decide) fun arrival =>
        connected_of_raisesOnly (raisesOnly_tokenOf arrival) (by decide)
  | error fault =>
      have hc := connected_of_raisesOnly (raisesOnly_tokenAddress challenge repository) (by decide)
      exact .stopped (hc fault ha)

theorem conversation_authenticate (config : RegistryConfig) (repository : List Symbol) :
    Conversation [.api, .token] (authenticate config repository) := by
  rw [authenticate_eq]
  refine (conversation_discoverChallenge config).bind fun challenge => ?_
  cases challenge with
  | none => exact .unasked (.returned none)
  | some challenge => exact (conversation_requestToken challenge repository).map some

theorem conversation_fetchManifest (r : Reference) (authorization : Option (List Symbol))
    (scheme : String) : Conversation [.manifest] (fetchManifest r authorization scheme) := by
  rw [fetchManifest_eq]
  exact .single .manifest _ _ (by simp) fun _ =>
    connected_of_raisesOnly (raisesOnly_classifyManifest _ _ _) (by decide)

end Requests

end ImageRegistry
