import ImageRegistry.Client.OneShot
import ImageRegistry.Proofs.Exchange.Faults
import ImageRegistry.Proofs.Url.Join

namespace ImageRegistry

open Exchange Text

inductive Bearer.Unsendable (challenge : Bearer (List Symbol)) (repository : List Symbol) :
    TokenUrlError → Prop
  | badAuthority {realm service : List Symbol} :
      challenge.Filled realm service → Url.split? realm = none →
      Unsendable challenge repository .badAuthority
  | unencodable {realm service : List Symbol} {parts : Url} :
      challenge.Filled realm service → Url.split? realm = some parts →
      ¬ Encodable parts.query service (pullScope repository) →
      Unsendable challenge repository .unencodable

section TokenAddress

variable {challenge : Bearer (List Symbol)} {repository : List Symbol}

theorem tokenAddress_unsendable {error : TokenUrlError}
    (h : challenge.Unsendable repository error) :
    tokenAddress challenge repository = .error (.tokenUrl error) := by
  cases h with
  | badAuthority hf hs =>
      rw [tokenAddress_filled hf, tokenUrl, hs]
  | unencodable hf hs he =>
      rw [tokenAddress_filled hf, tokenUrl_of_not_encodable hs he]

theorem tokenAddress_sendable (h : ∀ error, ¬ challenge.Unsendable repository error)
    {realm service : List Symbol} (hf : challenge.Filled realm service) :
    ∃ url, tokenAddress challenge repository = .ok (realm, url) := by
  cases hs : Url.split? realm with
  | none => exact absurd (.badAuthority hf hs) (h _)
  | some parts =>
      by_cases he : Encodable parts.query service (pullScope repository)
      · obtain ⟨url, -, ha⟩ := tokenAddress_of_parts hf hs he
        exact ⟨url, ha⟩
      · exact absurd (.unencodable hf hs he) (h _)

theorem raisesOnly_tokenAddress_sendable (h : ∀ error, ¬ challenge.Unsendable repository error) :
    RaisesOnly [some .malformedChallenge] (tokenAddress challenge repository) := by
  rcases challenge.blank_or_filled with hb | ⟨realm, service, hf⟩
  · obtain ⟨error, he⟩ := tokenAddress_blank hb repository
    rw [he]
    exact raisesOnly_error List.mem_cons_self
  · obtain ⟨url, ha⟩ := tokenAddress_sendable h hf
    rw [ha]
    exact raisesOnly_ok _

theorem run_requestToken_unsendable {error : TokenUrlError}
    (h : challenge.Unsendable repository error) (answers : List Answer) :
    (requestToken challenge repository).run answers =
      ⟨.error (.tokenUrl error), [], answers.length⟩ := by
  rw [run_requestToken, tokenAddress_unsendable h]

theorem not_badAuthority_of_plain {realm : List Symbol} (hr : challenge.realm = some realm)
    (h : ∀ c ∈ charsOf realm, c ≠ '[' ∧ c ≠ ']' ∧ c.toNat ∉ Url.unfolding) :
    ¬ challenge.Unsendable repository .badAuthority := by
  rintro (⟨hf, hs⟩)
  obtain rfl := Option.some.inj (hr.symm.trans hf.realm_eq)
  obtain ⟨parts, hp⟩ := Option.isSome_iff_exists.1 (Url.isSome_split?_of_plain h)
  rw [hs] at hp
  cases hp

end TokenAddress

inductive Answer.Unreadable : Answer → CharsetError → Prop
  | intro {status : Int} {headers : Headers} {charset : Charset} {body : List UInt8}
      {error : CharsetError} :
      status ≠ 200 → charset.read body = .error error →
      Unreadable (.arrived ⟨status, headers, charset, .ok body⟩) error

section Judgement

variable {answer : Answer} (realm : List Symbol)

theorem Answer.Unreadable.judged {error : CharsetError} (h : answer.Unreadable error) :
    answer.judged (.token realm) (fun _ => true) tokenOf = .error (.charset error) := by
  obtain ⟨hs, he⟩ := h
  rw [judged_read _ _ _ _ _ _ _ rfl, tokenOf, if_neg hs]
  simp only [he]

theorem raisesOnly_judged_readable (h : ∀ error, ¬ answer.Unreadable error) :
    RaisesOnly tokenKinds (answer.judged (.token realm) (fun _ => true) tokenOf) := by
  have hlost (cause : TransportFailure) :
      RaisesOnly tokenKinds
        (.error (.unreachable (.token realm) cause.reason) : Except Fault AccessToken) :=
    raisesOnly_error (by simp [Fault.kind?, tokenKinds])
  rcases answer with ⟨status, headers, charset, cause | body⟩ | cause
  · rw [Answer.judged_broken _ _ _ _ _ _ _ rfl]
    exact hlost cause
  · rw [Answer.judged_read _ _ _ _ _ _ _ rfl, tokenOf]
    split
    · refine raisesOnly_mapError (fun error => ?_) _
      simp [Fault.kind?, tokenKinds]
    · next hs =>
        cases hr : charset.read body with
        | ok reason => exact raisesOnly_error (by simp [Fault.kind?, tokenKinds])
        | error error => exact absurd (.intro hs hr) (h error)
  · exact hlost cause

end Judgement

def Outcome.Foreseen (outcome : Outcome AccessToken) : Prop :=
  (∃ token, outcome.result = .ok token) ∨
    ∃ fault, outcome.result = .error fault ∧
      (fault.kind? = some .malformedChallenge ∨ fault.kind? = some .authentication ∨
        fault.kind? = some .connection ∨ fault.kind? = some .decode)

theorem Outcome.foreseen_iff (outcome : Outcome AccessToken) :
    outcome.Foreseen ↔ RaisesOnly tokenKinds outcome.result := by
  unfold Foreseen
  cases outcome.result with
  | ok token => exact ⟨fun _ => raisesOnly_ok token, fun _ => .inl ⟨token, rfl⟩⟩
  | error fault => simp [RaisesOnly, tokenKinds]

theorem Outcome.not_foreseen {outcome : Outcome AccessToken} {fault : Fault}
    (h : outcome.result = .error fault) (hk : fault.kind? = none) : ¬ outcome.Foreseen := by
  rw [foreseen_iff]
  intro hr
  have hm := hr fault h
  simp [hk, tokenKinds] at hm

theorem token_request_foreseen_iff (challenge : Bearer (List Symbol)) (repository : List Symbol)
    (timeout : TimeLimit) (answers : List Answer) :
    let outcome := ((requestToken challenge repository).onSession timeout answers).outcome
    let sendable := ∀ error, ¬ challenge.Unsendable repository error
    (outcome.Foreseen ↔ sendable ∧ ∀ realm service, challenge.Filled realm service →
      ∀ error, ¬ (nextAnswer answers).Unreadable error) ∧
    (∀ error, challenge.Unsendable repository error →
      outcome = ⟨.error (.tokenUrl error), [], answers.length⟩) ∧
    (sendable → ∀ realm service, challenge.Filled realm service →
      ∀ error, (nextAnswer answers).Unreadable error →
      outcome.result = .error (.charset error)) ∧
    ∀ realm, challenge.realm = some realm →
      (∀ c ∈ charsOf realm, c ≠ '[' ∧ c ≠ ']' ∧ c.toNat ∉ Url.unfolding) →
      ¬ challenge.Unsendable repository .badAuthority := by
  intro outcome sendable
  have hunsent (error : TokenUrlError) (h : challenge.Unsendable repository error) :
      outcome = ⟨.error (.tokenUrl error), [], answers.length⟩ :=
    run_requestToken_unsendable h answers
  have hunread (h : sendable) (realm service : List Symbol) (hf : challenge.Filled realm service)
      (error : CharsetError) (hr : (nextAnswer answers).Unreadable error) :
      outcome.result = .error (.charset error) := by
    obtain ⟨url, ha⟩ := tokenAddress_sendable h hf
    have hrun := run_requestToken challenge repository answers
    rw [ha] at hrun
    exact (congrArg Outcome.result hrun).trans (hr.judged realm)
  refine ⟨⟨fun hforeseen => ?_, ?_⟩, hunsent, hunread, fun realm => not_badAuthority_of_plain⟩
  · have hsendable : sendable := fun error h =>
      Outcome.not_foreseen (congrArg Outcome.result (hunsent error h)) rfl hforeseen
    refine ⟨hsendable, fun realm service hf error hr => ?_⟩
    exact Outcome.not_foreseen (hunread hsendable realm service hf error hr) rfl hforeseen
  · rintro ⟨hsendable, hread⟩
    rw [outcome.foreseen_iff]
    have haddress := raisesOnly_tokenAddress_sendable hsendable
    refine raisesOnly_requestToken answers (haddress.mono (by decide)) fun realm url ha => ?_
    obtain ⟨service, hf, -⟩ := tokenAddress_ok ha
    exact raisesOnly_judged_readable realm (hread realm service hf)

theorem half_bracketed_realm_escapes :
    ¬ ∀ (challenge : Bearer (List Symbol)) (repository : List Symbol) (timeout : TimeLimit)
      (answers : List Answer),
      ((requestToken challenge repository).onSession timeout answers).outcome.Foreseen := by
  intro h
  let challenge : Bearer (List Symbol) :=
    ⟨some (symbols "https://[::1/token"), some (symbols "reg"), none⟩
  have hf : challenge.Filled (symbols "https://[::1/token") (symbols "reg") :=
    ⟨rfl, by decide, rfl, by decide⟩
  have hs : Url.split? (symbols "https://[::1/token") = none := by decide +kernel
  have hn : challenge.Unsendable (symbols "org/app") .badAuthority := .badAuthority hf hs
  have hrun := congrArg Outcome.result (run_requestToken_unsendable hn [])
  exact Outcome.not_foreseen hrun rfl (h challenge (symbols "org/app") (.int 30) [])

end ImageRegistry
