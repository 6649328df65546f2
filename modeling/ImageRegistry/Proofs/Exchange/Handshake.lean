import ImageRegistry.Exchange.Token
import ImageRegistry.Proofs.Exchange.Single
import ImageRegistry.Proofs.Url.Query

namespace ImageRegistry

open Exchange Text

def challengeIn (arrival : Arrival) : Except Fault (Option (Bearer (List Symbol))) :=
  (Bearer.ofHeader (header? arrival.headers challengeHeader)).mapError .ofChallenge

theorem discoverChallenge_eq (config : RegistryConfig) :
    discoverChallenge config =
      single (.api config.apiUrl) (symbols config.apiUrl) none (fun _ => false) challengeIn := rfl

def tokenAddress (challenge : Bearer (List Symbol)) (repository : List Symbol) :
    Except Fault (List Symbol × List Symbol) := do
  let realm ← filledField .noRealm challenge.realm
  let service ← filledField .noService challenge.service
  match tokenUrl realm service (pullScope repository) with
  | .ok url => .ok (realm, url)
  | .error error => .error (.tokenUrl error)

theorem requestToken_eq (challenge : Bearer (List Symbol)) (repository : List Symbol) :
    requestToken challenge repository =
      match tokenAddress challenge repository with
      | .ok (realm, url) => single (.token realm) url none (fun _ => true) tokenOf
      | .error fault => throw fault := by
  unfold requestToken tokenAddress
  cases filledField .noRealm challenge.realm with
  | error fault => rfl
  | ok realm =>
      rw [ofResult_ok_bind]
      cases filledField .noService challenge.service with
      | error fault => rfl
      | ok service =>
          rw [ofResult_ok_bind]
          simp only [bind, Except.bind]
          cases tokenUrl realm service (pullScope repository) with
          | error error => rfl
          | ok url => rfl

theorem framed_requestToken (challenge : Bearer (List Symbol)) (repository : List Symbol) :
    Framed (requestToken challenge repository) := by
  rw [requestToken_eq]
  cases tokenAddress challenge repository with
  | ok address => exact framed_single _ _ _ _ _
  | error fault => exact framed_throw fault

theorem run_requestToken (challenge : Bearer (List Symbol)) (repository : List Symbol)
    (answers : List Answer) :
    (requestToken challenge repository).run answers =
      match tokenAddress challenge repository with
      | .ok (realm, url) =>
          ⟨(nextAnswer answers).judged (.token realm) (fun _ => true) tokenOf,
            [⟨url, none, ((nextAnswer answers).take fun _ => true).2⟩], answers.length - 1⟩
      | .error fault => ⟨.error fault, [], answers.length⟩ := by
  rw [requestToken_eq]
  cases tokenAddress challenge repository with
  | ok address => exact run_single _ _ _ _ _ answers
  | error fault => exact run_throw fault answers

def apiRequest (config : RegistryConfig) : Request := ⟨symbols config.apiUrl, none, false⟩

theorem run_discoverChallenge (config : RegistryConfig) (answers : List Answer) :
    (discoverChallenge config).run answers =
      ⟨(nextAnswer answers).judged (.api config.apiUrl) (fun _ => false) challengeIn,
        [apiRequest config], answers.length - 1⟩ := by
  rw [discoverChallenge_eq, run_single, Answer.take_unread]
  rfl

theorem framed_discoverChallenge (config : RegistryConfig) :
    Framed (discoverChallenge config) :=
  framed_single _ _ _ _ _

def answerChallenge (repository : List Symbol) :
    Option (Bearer (List Symbol)) → Exchange (Option AccessToken)
  | none => pure none
  | some challenge => some <$> requestToken challenge repository

theorem authenticate_eq (config : RegistryConfig) (repository : List Symbol) :
    authenticate config repository = discoverChallenge config >>= answerChallenge repository := rfl

theorem framed_answerChallenge (repository : List Symbol)
    (challenge : Option (Bearer (List Symbol))) :
    Framed (answerChallenge repository challenge) := by
  cases challenge with
  | none => exact framed_pure none
  | some challenge => exact framed_map some (framed_requestToken challenge repository)

theorem run_authenticate (config : RegistryConfig) (repository : List Symbol)
    (answers : List Answer) :
    (authenticate config repository).run answers =
      match (nextAnswer answers).judged (.api config.apiUrl) (fun _ => false) challengeIn with
      | .error fault => ⟨.error fault, [apiRequest config], answers.length - 1⟩
      | .ok none => ⟨.ok none, [apiRequest config], answers.length - 1⟩
      | .ok (some challenge) =>
          (((requestToken challenge repository).run (answers.drop 1)).map some).after
            [apiRequest config] := by
  rw [authenticate_eq, run_bind (framed_discoverChallenge config)
    (framed_answerChallenge repository), run_discoverChallenge]
  cases (nextAnswer answers).judged (.api config.apiUrl) (fun _ => false) challengeIn with
  | error fault => rfl
  | ok challenge =>
      cases challenge with
      | none => simp [answerChallenge, run_pure, Outcome.after]
      | some challenge => simp [answerChallenge, run_map]

inductive Answer.Grants : Answer → AccessToken → Prop
  | intro {headers : Headers} {charset : Charset} {body : List UInt8} {token : AccessToken} :
      AccessToken.decode .literal body = .ok token →
      Grants (.arrived ⟨200, headers, charset, .ok body⟩) token

theorem Answer.grants_of_judged {answer : Answer} {realm : List Symbol} {token : AccessToken}
    (h : answer.judged (.token realm) (fun _ => true) tokenOf = .ok token) :
    answer.Grants token := by
  cases answer with
  | failed cause => simp [judged_failed] at h
  | arrived response =>
      obtain ⟨status, headers, charset, body⟩ := response
      cases body with
      | error cause => simp [judged_broken] at h
      | ok body =>
          rw [judged_read _ _ _ _ _ _ _ rfl, tokenOf] at h
          split at h
          · next hs =>
              obtain rfl : status = 200 := hs
              cases hd : AccessToken.decode .literal body with
              | error error =>
                  rw [hd] at h
                  cases h
              | ok granted =>
                  rw [hd] at h
                  cases h
                  exact .intro hd
          · cases hr : charset.read body <;> simp [hr] at h

def Answer.received : Answer → Except TransportFailure (Int × Charset × List UInt8)
  | .failed cause => .error cause
  | .arrived response => response.body.map fun body => (response.status, response.charset, body)

theorem Answer.judged_token (realm : List Symbol) (answer : Answer) :
    answer.judged (.token realm) (fun _ => true) tokenOf =
      match answer.received with
      | .error failure => .error (.unreachable (.token realm) failure.reason)
      | .ok (status, charset, body) => tokenOf ⟨status, [], charset, body⟩ := by
  cases answer with
  | failed cause => rfl
  | arrived response =>
      obtain ⟨status, headers, charset, body⟩ := response
      cases body with
      | ok body => rfl
      | error cause => rfl

def Blank (field : Option (List Symbol)) : Prop :=
  field = none ∨ field = some []

theorem filledField_some (error : ChallengeError) {value : List Symbol} (h : value ≠ []) :
    filledField error (some value) = .ok value := by
  simp [filledField, Option.filter, h]

theorem filledField_blank (error : ChallengeError) {field : Option (List Symbol)}
    (h : Blank field) : filledField error field = .error (.challenge error) := by
  rcases h with rfl | rfl
  · rfl
  · rfl

theorem filledField_eq (error : ChallengeError) (field : Option (List Symbol)) :
    filledField error field = .error (.challenge error) ∨
      ∃ value, filledField error field = .ok value := by
  cases field with
  | none => exact .inl rfl
  | some text =>
      by_cases h : text = []
      · exact .inl (filledField_blank error (.inr (congrArg some h)))
      · exact .inr ⟨text, filledField_some error h⟩

theorem filledField_ok {error : ChallengeError} {field : Option (List Symbol)}
    {value : List Symbol} (h : filledField error field = .ok value) :
    field = some value ∧ value ≠ [] := by
  cases field with
  | none => cases h
  | some text =>
      by_cases ht : text = []
      · rw [filledField_blank error (.inr (congrArg some ht))] at h
        cases h
      · rw [filledField_some error ht] at h
        cases h
        exact ⟨rfl, ht⟩

theorem tokenAddress_blank {challenge : Bearer (List Symbol)}
    (h : Blank challenge.realm ∨ Blank challenge.service) (repository : List Symbol) :
    ∃ error, tokenAddress challenge repository = .error (.challenge error) := by
  unfold tokenAddress
  rcases filledField_eq .noRealm challenge.realm with hr | ⟨realm, hr⟩
  · rw [hr]
    exact ⟨.noRealm, rfl⟩
  -- A realm that was read is filled, so it is the service that is blank.
  · rcases h with h | h
    · rw [filledField_blank .noRealm h] at hr
      cases hr
    · rw [hr, filledField_blank .noService h]
      exact ⟨.noService, rfl⟩

structure Bearer.Filled (challenge : Bearer (List Symbol)) (realm service : List Symbol) :
    Prop where
  realm_eq : challenge.realm = some realm
  realm_ne_nil : realm ≠ []
  service_eq : challenge.service = some service
  service_ne_nil : service ≠ []

theorem Bearer.blank_or_filled (challenge : Bearer (List Symbol)) :
    (Blank challenge.realm ∨ Blank challenge.service) ∨
      ∃ realm service, challenge.Filled realm service := by
  have hfield (field : Option (List Symbol)) :
      Blank field ∨ ∃ value, field = some value ∧ value ≠ [] := by
    rcases field with - | value
    · exact .inl (.inl rfl)
    · by_cases h : value = []
      · exact .inl (.inr (congrArg some h))
      · exact .inr ⟨value, rfl, h⟩
  rcases hfield challenge.realm with hb | ⟨realm, hr, hr'⟩
  · exact .inl (.inl hb)
  · rcases hfield challenge.service with hb | ⟨service, hs, hs'⟩
    · exact .inl (.inr hb)
    · exact .inr ⟨realm, service, hr, hr', hs, hs'⟩

theorem tokenAddress_filled {challenge : Bearer (List Symbol)} {realm service : List Symbol}
    (h : challenge.Filled realm service) (repository : List Symbol) :
    tokenAddress challenge repository =
      match tokenUrl realm service (pullScope repository) with
      | .ok url => .ok (realm, url)
      | .error error => .error (.tokenUrl error) := by
  rw [tokenAddress, h.realm_eq, h.service_eq, filledField_some _ h.realm_ne_nil,
    filledField_some _ h.service_ne_nil]
  rfl

theorem tokenAddress_of_parts {challenge : Bearer (List Symbol)}
    {realm service repository : List Symbol} {parts : Url} (hf : challenge.Filled realm service)
    (hs : Url.split? realm = some parts)
    (he : Encodable parts.query service (pullScope repository)) :
    ∃ url, tokenUrl realm service (pullScope repository) = .ok url ∧
      tokenAddress challenge repository = .ok (realm, url) := by
  obtain ⟨url, hu⟩ := tokenUrl_of_encodable hs he
  rw [tokenAddress_filled hf, hu]
  exact ⟨url, rfl, rfl⟩

theorem tokenAddress_ok {challenge : Bearer (List Symbol)} {repository realm url : List Symbol}
    (h : tokenAddress challenge repository = .ok (realm, url)) :
    ∃ service, challenge.Filled realm service ∧
      tokenUrl realm service (pullScope repository) = .ok url := by
  simp only [tokenAddress, bind, Except.bind] at h
  cases hr : filledField .noRealm challenge.realm with
  | error fault => simp [hr] at h
  | ok named =>
      cases hs : filledField .noService challenge.service with
      | error fault => simp [hr, hs] at h
      | ok service =>
          cases hu : tokenUrl named service (pullScope repository) with
          | error error => simp [hr, hs, hu] at h
          | ok address =>
              simp only [hr, hs, hu, Except.ok.injEq, Prod.mk.injEq] at h
              obtain ⟨rfl, rfl⟩ := h
              obtain ⟨hrealm, hrealm'⟩ := filledField_ok hr
              obtain ⟨hservice, hservice'⟩ := filledField_ok hs
              exact ⟨service, ⟨hrealm, hrealm', hservice, hservice'⟩, hu⟩

theorem challengeIn_eq (arrival : Arrival) :
    challengeIn arrival =
      match Bearer.decoders.read (header? arrival.headers challengeHeader) with
      | .ok challenges => .ok challenges.head?
      | .error fault => .error (.ofChallenge fault) := by
  rw [challengeIn, Bearer.ofHeader]
  cases Bearer.decoders.read (header? arrival.headers challengeHeader) with
  | ok challenges => rfl
  | error fault => rfl

def challengesIn (response : Response) : Except ChallengeFault (List (Bearer (List Symbol))) :=
  Bearer.decoders.read (header? response.headers challengeHeader)

theorem Answer.challengesIn_of_judged {answer : Answer} {endpoint : Endpoint}
    {found : Option (Bearer (List Symbol))}
    (h : answer.judged endpoint (fun _ => false) challengeIn = .ok found) :
    ∃ response challenges, answer = .arrived response ∧ challengesIn response = .ok challenges ∧
      challenges.head? = found := by
  cases answer with
  | failed cause => simp [judged_failed] at h
  | arrived response =>
      rw [judged_unread, challengeIn_eq] at h
      cases hc : Bearer.decoders.read (header? response.headers challengeHeader) with
      | error fault => simp [hc] at h
      | ok challenges =>
          simp only [hc, Except.ok.injEq] at h
          exact ⟨response, challenges, rfl, hc, h⟩

inductive Answer.Admits : Answer → Prop
  | intro {response : Response} : challengesIn response = .ok [] → Admits (.arrived response)

inductive Answer.RefersTo (repository : List Symbol) : Answer → List Symbol → Prop
  | intro {response : Response} {challenge : Bearer (List Symbol)}
      {others : List (Bearer (List Symbol))}
      {realm service url : List Symbol} :
      challengesIn response = .ok (challenge :: others) → challenge.realm = some realm →
      challenge.service = some service →
      tokenUrl realm service (pullScope repository) = .ok url →
      RefersTo repository (.arrived response) url

theorem Answer.admits_of_judged {answer : Answer} {endpoint : Endpoint}
    (h : answer.judged endpoint (fun _ => false) challengeIn = .ok none) : answer.Admits := by
  obtain ⟨response, challenges, rfl, hc, hh⟩ := challengesIn_of_judged h
  rw [List.head?_eq_none_iff.1 hh] at hc
  exact .intro hc

theorem Answer.refersTo_of_judged {answer : Answer} {endpoint : Endpoint}
    {challenge : Bearer (List Symbol)} {repository realm url : List Symbol}
    (h : answer.judged endpoint (fun _ => false) challengeIn = .ok (some challenge))
    (ha : tokenAddress challenge repository = .ok (realm, url)) :
    answer.RefersTo repository url := by
  obtain ⟨response, challenges, rfl, hc, hh⟩ := challengesIn_of_judged h
  obtain ⟨others, rfl⟩ := List.head?_eq_some_iff.1 hh
  obtain ⟨service, hf, hu⟩ := tokenAddress_ok ha
  exact .intro hc hf.realm_eq hf.service_eq hu

theorem authenticate_answered (config : RegistryConfig) (repository : List Symbol)
    (answers : List Answer) :
    (∃ fault, (authenticate config repository).run answers =
      ⟨.error fault, [apiRequest config], answers.length - 1⟩) ∨
    ((nextAnswer answers).Admits ∧ (authenticate config repository).run answers =
      ⟨.ok none, [apiRequest config], answers.length - 1⟩) ∨
    ∃ realm url read, (nextAnswer answers).RefersTo repository url ∧
      (authenticate config repository).run answers =
        ⟨((nextAnswer (answers.drop 1)).judged (.token realm) (fun _ => true) tokenOf).map some,
          [apiRequest config, ⟨url, none, read⟩], answers.length - 2⟩ := by
  rw [run_authenticate]
  cases hj : (nextAnswer answers).judged (.api config.apiUrl) (fun _ => false) challengeIn with
  | error fault => exact .inl ⟨fault, rfl⟩
  | ok challenge =>
      cases challenge with
      | none => exact .inr (.inl ⟨Answer.admits_of_judged hj, rfl⟩)
      | some challenge =>
          simp only [run_requestToken]
          cases ha : tokenAddress challenge repository with
          | error fault => exact .inl ⟨fault, by simp [Outcome.map, Outcome.after, Except.map]⟩
          | ok address =>
              refine .inr (.inr ⟨address.1, address.2,
                ((nextAnswer (answers.drop 1)).take fun _ => true).2,
                Answer.refersTo_of_judged hj ha, ?_⟩)
              simp only [Outcome.map, Outcome.after, List.length_drop, Nat.sub_sub]
              rfl

theorem authenticate_cases (config : RegistryConfig) (repository : List Symbol)
    (answers : List Answer) :
    (∃ fault, (authenticate config repository).run answers =
      ⟨.error fault, [apiRequest config], answers.length - 1⟩) ∨
    (authenticate config repository).run answers =
      ⟨.ok none, [apiRequest config], answers.length - 1⟩ ∨
    ∃ realm url read, (authenticate config repository).run answers =
      ⟨((nextAnswer (answers.drop 1)).judged (.token realm) (fun _ => true) tokenOf).map some,
        [apiRequest config, ⟨url, none, read⟩], answers.length - 2⟩ := by
  rcases authenticate_answered config repository answers with
    h | ⟨-, h⟩ | ⟨realm, url, read, -, h⟩
  · exact .inl h
  · exact .inr (.inl h)
  · exact .inr (.inr ⟨realm, url, read, h⟩)

theorem framed_authenticate (config : RegistryConfig) (repository : List Symbol) :
    Framed (authenticate config repository) :=
  framed_bind (framed_discoverChallenge config) (framed_answerChallenge repository)

section Arrived

variable {config : RegistryConfig} {repository : List Symbol} {response : Response}
  {rest : List Answer}

theorem run_authenticate_anonymous
    (h : Bearer.decoders.read (header? response.headers challengeHeader) = .ok []) :
    (authenticate config repository).run (.arrived response :: rest) =
      ⟨.ok none, [apiRequest config], rest.length⟩ := by
  rw [run_authenticate, nextAnswer_cons, Answer.judged_unread, challengeIn_eq]
  simp only [h]
  rfl

theorem run_authenticate_malformed {error : ChallengeError}
    (h : Bearer.decoders.read (header? response.headers challengeHeader) =
      .error (.malformed error)) :
    (authenticate config repository).run (.arrived response :: rest) =
      ⟨.error (.challenge error), [apiRequest config], rest.length⟩ := by
  rw [run_authenticate, nextAnswer_cons, Answer.judged_unread, challengeIn_eq]
  simp only [h]
  rfl

variable {challenge : Bearer (List Symbol)} {others : List (Bearer (List Symbol))}

theorem run_authenticate_challenged
    (h : Bearer.decoders.read (header? response.headers challengeHeader) =
      .ok (challenge :: others)) :
    (authenticate config repository).run (.arrived response :: rest) =
      (((requestToken challenge repository).run rest).map some).after [apiRequest config] := by
  rw [run_authenticate, nextAnswer_cons, Answer.judged_unread, challengeIn_eq]
  simp only [h]
  rfl

theorem run_authenticate_blank
    (h : Bearer.decoders.read (header? response.headers challengeHeader) =
      .ok (challenge :: others))
    (hb : Blank challenge.realm ∨ Blank challenge.service) :
    ∃ error, (authenticate config repository).run (.arrived response :: rest) =
      ⟨.error (.challenge error), [apiRequest config], rest.length⟩ := by
  obtain ⟨error, ha⟩ := tokenAddress_blank hb repository
  rw [run_authenticate_challenged h, run_requestToken, ha]
  exact ⟨error, rfl⟩

theorem run_authenticate_unencodable {realm service : List Symbol} {parts : Url}
    (h : Bearer.decoders.read (header? response.headers challengeHeader) =
      .ok (challenge :: others))
    (hf : challenge.Filled realm service) (hs : Url.split? realm = some parts)
    (he : ¬ Encodable parts.query service (pullScope repository)) :
    (authenticate config repository).run (.arrived response :: rest) =
      ⟨.error (.tokenUrl .unencodable), [apiRequest config], rest.length⟩ := by
  rw [run_authenticate_challenged h, run_requestToken, tokenAddress_filled hf,
    tokenUrl_of_not_encodable hs he]
  rfl

theorem run_authenticate_answered {realm url : List Symbol}
    (h : Bearer.decoders.read (header? response.headers challengeHeader) =
      .ok (challenge :: others))
    (ha : tokenAddress challenge repository = .ok (realm, url)) :
    (authenticate config repository).run (.arrived response :: rest) =
      ⟨((nextAnswer rest).judged (.token realm) (fun _ => true) tokenOf).map some,
        [apiRequest config, ⟨url, none, ((nextAnswer rest).take fun _ => true).2⟩],
        rest.length - 1⟩ := by
  rw [run_authenticate_challenged h, run_requestToken, ha]
  rfl

end Arrived

end ImageRegistry
