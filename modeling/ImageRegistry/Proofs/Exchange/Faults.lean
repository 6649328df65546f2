import ImageRegistry.Proofs.Exchange.Handshake

namespace ImageRegistry

open Exchange Text

def RaisesOnly {α : Type} (kinds : List (Option ErrorKind)) (result : Except Fault α) : Prop :=
  ∀ fault, result = .error fault → fault.kind? ∈ kinds

section Results

variable {α β : Type} {kinds more : List (Option ErrorKind)} {result : Except Fault α}

theorem raisesOnly_ok (a : α) : RaisesOnly kinds (.ok a) :=
  nofun

theorem raisesOnly_error {fault : Fault} (h : fault.kind? ∈ kinds) :
    RaisesOnly kinds (.error fault : Except Fault α) := by
  rintro _ ⟨⟩
  exact h

theorem RaisesOnly.mono (h : RaisesOnly kinds result) (hk : kinds ⊆ more) :
    RaisesOnly more result := fun fault hf => hk (h fault hf)

theorem RaisesOnly.map (h : RaisesOnly kinds result) (f : α → β) :
    RaisesOnly kinds (result.map f) := by
  cases result with
  | ok a => exact raisesOnly_ok (f a)
  | error fault => exact raisesOnly_error (h fault rfl)

theorem raisesOnly_bind {next : α → Except Fault β} (h : RaisesOnly kinds result)
    (hn : ∀ a, RaisesOnly kinds (next a)) : RaisesOnly kinds (result >>= next) := by
  cases result with
  | ok a => exact hn a
  | error fault => exact raisesOnly_error (h fault rfl)

theorem raisesOnly_mapError {ε : Type} {f : ε → Fault} (h : ∀ error, (f error).kind? ∈ kinds)
    (result : Except ε α) : RaisesOnly kinds (result.mapError f) := by
  cases result with
  | ok a => exact raisesOnly_ok a
  | error error => exact raisesOnly_error (h error)

theorem raisesOnly_judged {judge : Arrival → Except Fault α}
    (h : ∀ arrival, RaisesOnly kinds (judge arrival)) (endpoint : Endpoint) (reads : Int → Bool)
    (answer : Answer) :
    RaisesOnly (some .connection :: kinds) (answer.judged endpoint reads judge) := by
  unfold Answer.judged
  cases (answer.take reads).1 with
  | ok arrival => exact (h arrival).mono (List.subset_cons_self _ _)
  | error failure => exact raisesOnly_error List.mem_cons_self

end Results

section Judgements

theorem raisesOnly_judgeVersion (config : RegistryConfig) (arrival : Arrival) :
    RaisesOnly [some .missingVersion] (judgeVersion config arrival) := by
  unfold judgeVersion
  split
  · exact raisesOnly_ok _
  · exact raisesOnly_error List.mem_cons_self

theorem raisesOnly_challengeIn (arrival : Arrival) :
    RaisesOnly [none, some .malformedChallenge] (challengeIn arrival) := by
  refine raisesOnly_mapError (fun fault => ?_) _
  cases fault with
  | malformed error => exact List.mem_cons_of_mem _ List.mem_cons_self
  | nameless => exact List.mem_cons_self

theorem raisesOnly_filledField (error : ChallengeError) (value : Option (List Symbol)) :
    RaisesOnly [some .malformedChallenge] (filledField error value) := by
  unfold filledField
  split
  · exact raisesOnly_ok _
  · exact raisesOnly_error List.mem_cons_self

theorem raisesOnly_tokenAddress (challenge : Bearer (List Symbol)) (repository : List Symbol) :
    RaisesOnly [none, some .malformedChallenge] (tokenAddress challenge repository) := by
  have hfield (error : ChallengeError) (value : Option (List Symbol)) :=
    (raisesOnly_filledField error value).mono (List.subset_cons_self none _)
  refine raisesOnly_bind (hfield .noRealm challenge.realm) fun realm =>
    raisesOnly_bind (hfield .noService challenge.service) fun service => ?_
  split
  · exact raisesOnly_ok _
  · exact raisesOnly_error List.mem_cons_self

theorem raisesOnly_tokenOf (arrival : Arrival) :
    RaisesOnly [none, some .authentication, some .decode] (tokenOf arrival) := by
  unfold tokenOf
  split
  · refine raisesOnly_mapError (fun error => ?_) _
    simp [Fault.kind?]
  · split
    · exact raisesOnly_error (by simp [Fault.kind?])
    · exact raisesOnly_error List.mem_cons_self

def refusalKinds : List (Option ErrorKind) :=
  [none, some .decode, some .manifestClient, some .manifestServer, some .unexpectedStatus]

theorem raisesOnly_classifyManifest (status : Int) (body : List UInt8) (url : String) :
    RaisesOnly refusalKinds (classifyManifest status body url) := by
  unfold classifyManifest
  split
  · refine raisesOnly_mapError (fun fault => ?_) _
    cases fault with
    | undecodable error => simp [Fault.ofManifest, Fault.kind?, refusalKinds]
    | conversion error => simp [Fault.ofManifest, Fault.kind?, refusalKinds]
  · split
    · split
      · exact raisesOnly_error (by simp [Fault.kind?, refusalKinds])
      · exact raisesOnly_error (by simp [Fault.kind?, refusalKinds])
    · split
      · exact raisesOnly_error (by simp [Fault.kind?, refusalKinds])
      · exact raisesOnly_error (by simp [Fault.kind?, refusalKinds])

end Judgements

def tokenKinds : List (Option ErrorKind) :=
  [some .malformedChallenge, some .authentication, some .connection, some .decode]

section Exchanges

variable (answers : List Answer)

theorem raisesOnly_fetchVersion (config : RegistryConfig) :
    RaisesOnly [some .connection, some .missingVersion]
      ((fetchVersion config).run answers).result := by
  rw [fetchVersion_eq, run_single]
  exact raisesOnly_judged (raisesOnly_judgeVersion config) _ _ _

theorem raisesOnly_requestToken {challenge : Bearer (List Symbol)} {repository : List Symbol}
    {kinds : List (Option ErrorKind)} (ha : RaisesOnly kinds (tokenAddress challenge repository))
    (hj : ∀ realm url, tokenAddress challenge repository = .ok (realm, url) →
      RaisesOnly kinds ((nextAnswer answers).judged (.token realm) (fun _ => true) tokenOf)) :
    RaisesOnly kinds ((requestToken challenge repository).run answers).result := by
  rw [run_requestToken]
  cases h : tokenAddress challenge repository with
  | error fault => exact raisesOnly_error (ha fault h)
  | ok address => exact hj address.1 address.2 h

theorem raisesOnly_authenticate (config : RegistryConfig) (repository : List Symbol) :
    RaisesOnly (none :: tokenKinds) ((authenticate config repository).run answers).result := by
  have hfound := raisesOnly_judged raisesOnly_challengeIn (.api config.apiUrl) (fun _ => false)
    (nextAnswer answers)
  rw [run_authenticate]
  cases hj : (nextAnswer answers).judged (.api config.apiUrl) (fun _ => false) challengeIn with
  | error fault =>
      rw [hj] at hfound
      exact raisesOnly_error (hfound.mono (by decide) fault rfl)
  | ok found =>
      cases found with
      | none => exact raisesOnly_ok none
      | some challenge =>
          have haddress := raisesOnly_tokenAddress challenge repository
          refine (raisesOnly_requestToken (answers.drop 1) (haddress.mono (by decide)) ?_).map some
          exact fun _ _ _ => (raisesOnly_judged raisesOnly_tokenOf _ _ _).mono (by decide)

theorem raisesOnly_fetchManifest (r : Reference) (authorization : Option (List Symbol))
    (scheme : String) :
    RaisesOnly (some .connection :: refusalKinds)
      ((fetchManifest r authorization scheme).run answers).result := by
  rw [fetchManifest_eq, run_single]
  exact raisesOnly_judged (fun _ => raisesOnly_classifyManifest _ _ _) _ _ _

end Exchanges

end ImageRegistry
