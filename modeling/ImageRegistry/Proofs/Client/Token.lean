import Mathlib.Data.List.Induction
import ImageRegistry.Proofs.Client.Run

namespace ImageRegistry

open Client
open Text (Symbol symbols)

def Step.tokenAnswer? (step : Step) (row : Row) : Option Answer :=
  match step, row.outcome.result with
  | .auth _ answers, .ok _ =>
      if row.outcome.requests.length = 2 then some (nextAnswer (answers.drop 1)) else none
  | _, _ => none

def tokenAnswers (steps : List Step) (rows : List Row) : List Answer :=
  (steps.zip rows).filterMap fun done => done.1.tokenAnswer? done.2

theorem tokenAnswers_append {steps : List Step} {rows : List Row}
    (h : steps.length = rows.length) (rest : List Step) (rows' : List Row) :
    tokenAnswers (steps ++ rest) (rows ++ rows') =
      tokenAnswers steps rows ++ tokenAnswers rest rows' := by
  rw [tokenAnswers, List.zip_append h, List.filterMap_append]
  rfl

namespace Client

theorem store_closeSession (client : Client) : client.closeSession.store = client.store := by
  unfold closeSession
  cases client.held with
  | none => rfl
  | some i => rfl

theorem store_enter (client : Client) : client.enter.store = client.store := by
  unfold enter
  split
  · rfl
  · rfl

theorem step_auth_token (client : Client) (image : Image) (answers : List Answer) :
    match (Step.auth image answers).tokenAnswer? (client.step (.auth image answers)).1 with
    | some answer =>
        ∃ token, answer.Grants token ∧ (client.step (.auth image answers)).2.token = some token
    | none => (client.step (.auth image answers)).2.store = client.store := by
  rcases client.step_auth_cases image answers with
    ⟨fault, h⟩ | ⟨config, ⟨fault, h⟩ | h | ⟨realm, url, read, h⟩⟩
  · rw [h]
    rfl
  · rw [h]
    rfl
  · rw [h]
    rfl
  · rw [h]
    cases hj : (nextAnswer (answers.drop 1)).judged (.token realm) (fun _ => true) tokenOf with
    | error fault => rfl
    | ok token =>
        exact ⟨token, Answer.grants_of_judged hj, rfl⟩

theorem step_token (client : Client) (step : Step) :
    match step.tokenAnswer? (client.step step).1 with
    | some answer => ∃ token, answer.Grants token ∧ (client.step step).2.token = some token
    | none => (client.step step).2.store = client.store := by
  cases step with
  | enter => exact store_enter client
  | leave | close | closeSession => exact store_closeSession client
  | version host answers => rw [step_version]; rfl
  | pull image answers => rw [step_pull]; rfl
  | auth image answers => exact step_auth_token client image answers

theorem tokenAnswers_concat (client : Client) (past : List Step) (step : Step)
    (future : List Step) :
    tokenAnswers (past ++ [step]) (client.steps (past ++ step :: future)) =
      tokenAnswers past (client.steps past) ++
        (step.tokenAnswer? ((client.after past).step step).1).toList := by
  rw [steps_append, tokenAnswers_append (client.length_steps past).symm]
  cases h : step.tokenAnswer? ((client.after past).step step).1 with
  | none => simp [tokenAnswers, Client.steps, h]
  | some answer => simp [tokenAnswers, Client.steps, h]

-- The induction is on the last step: either it was granted a token or the store is as before it.
theorem token_after {client : Client} (h : client.token = none) (steps : List Step) :
    Option.Rel Answer.Grants (tokenAnswers steps (client.steps steps)).getLast?
      (client.after steps).token := by
  induction steps using List.reverseRecOn with
  | nil =>
      rw [after_nil, h]
      exact .none
  | append_singleton past step ih =>
      have hs := (client.after past).step_token step
      rw [tokenAnswers_concat, after_concat]
      cases ha : step.tokenAnswer? ((client.after past).step step).1 with
      | none =>
          rw [ha] at hs
          rw [Option.toList_none, List.append_nil, token, hs]
          exact ih
      | some answer =>
          rw [ha] at hs
          obtain ⟨token, hg, ht⟩ := hs
          rw [Option.toList_some, List.getLast?_append, ht]
          exact .some hg

theorem isSome_token_step {client : Client} (h : client.token.isSome) (step : Step) :
    (client.step step).2.token.isSome := by
  have hs := client.step_token step
  cases ha : step.tokenAnswer? (client.step step).1 with
  | none =>
      rw [ha] at hs
      rw [token, hs]
      exact h
  | some answer =>
      rw [ha] at hs
      obtain ⟨token, _, ht⟩ := hs
      rw [ht]
      rfl

end Client

def authorizations (headers : Headers) : List (List Symbol) :=
  (headers.filter fun header => smallLetters header.1 == "authorization").map Prod.snd

theorem authorizations_manifestHeaders (value : Option (List Symbol)) :
    authorizations (manifestHeaders value) = value.toList := by
  have ha : (smallLetters "Accept" == "authorization") = false := by decide +kernel
  have hb : (smallLetters "Authorization" == "authorization") = true := by decide +kernel
  cases value with
  | none => simp [authorizations, manifestHeaders, ha]
  | some value => simp [authorizations, manifestHeaders, ha, hb]

def Step.Authorizes (step : Step) (held : Option AccessToken) (request : Request) : Prop :=
  match step with
  | .pull _ _ =>
      ∃ headers, request.headers = some headers ∧
        authorizations headers = (held.map fun token => symbols "Bearer " ++ token.value).toList
  | _ => request.headers = none

namespace Client

theorem authorizes_version (client : Client) (host : String) (answers : List Answer) :
    ∀ request ∈ ((client.version host).run answers).requests, request.headers = none := by
  intro request hm
  by_cases ho : client.isOpen = true
  · rw [run_version_open ho, fetchVersion_eq, Exchange.run_single] at hm
    rw [List.mem_singleton.1 hm]
  · rw [version, run_inSession, if_neg ho] at hm
    cases hm

theorem authorizes_pull (client : Client) (image : Image) (answers : List Answer) :
    ∀ request ∈ ((about image client.pull).run answers).requests,
      (Step.pull image answers).Authorizes client.token request := by
  intro request hm
  rcases client.run_about_cases answers image fun r =>
    fetchManifest r client.store.authorization client.scheme with ⟨fault, hf⟩ | ⟨ho, r, hr⟩
  · have hf' : (about image client.pull).run answers = ⟨.error fault, [], answers.length⟩ := hf
    rw [hf'] at hm
    cases hm
  · rw [run_pull_open hr ho, fetchManifest_eq, Exchange.run_single] at hm
    rw [List.mem_singleton.1 hm]
    exact ⟨_, rfl, authorizations_manifestHeaders client.store.authorization⟩

theorem authorizes_auth (client : Client) (image : Image) (answers : List Answer) :
    ∀ request ∈ (client.step (.auth image answers)).1.outcome.requests,
      request.headers = none := by
  intro request hm
  rcases client.step_auth_cases image answers with
    ⟨fault, h⟩ | ⟨config, ⟨fault, h⟩ | h | ⟨realm, url, read, h⟩⟩
  · rw [h] at hm
    cases hm
  · rw [h] at hm
    rw [List.mem_singleton.1 hm, apiRequest]
  · rw [h] at hm
    rw [List.mem_singleton.1 hm, apiRequest]
  · rw [h] at hm
    rcases List.mem_cons.1 hm with rfl | hm
    · rfl
    · rw [List.mem_singleton.1 hm]

theorem authorizes_step (client : Client) (step : Step) :
    ∀ request ∈ (client.step step).1.outcome.requests, step.Authorizes client.token request := by
  cases step with
  | enter | leave | close | closeSession =>
      intro request hm
      cases hm
  | version host answers =>
      rw [step_version]
      exact authorizes_version client host answers
  | auth image answers => exact authorizes_auth client image answers
  | pull image answers =>
      rw [step_pull]
      exact authorizes_pull client image answers

end Client

theorem token_of_last_grant (scheme : String) (timeout : TimeLimit) (past : List Step)
    (step : Step) (future : List Step) :
    let fresh := Client.new scheme timeout
    let rows := fresh.steps (past ++ step :: future)
    let held := (fresh.after past).token
    ∃ row, rows[past.length]? = some row ∧
      Option.Rel Answer.Grants (tokenAnswers (past ++ [step]) rows).getLast? row.store.token ∧
      (held.isSome → row.store.token.isSome) ∧
      ∀ request ∈ row.outcome.requests, step.Authorizes held request := by
  intro fresh rows held
  have hrow : ((fresh.after past).step step).1.store.token =
      (fresh.after (past ++ [step])).token := by
    rw [row_step, after_concat]
    rfl
  refine ⟨_, fresh.getElem?_steps past step future, ?_, ?_, ?_⟩
  · have hf : fresh.token = none := rfl
    have ht := token_after hf (past ++ [step])
    rw [tokenAnswers_concat] at ht
    rw [hrow, tokenAnswers_concat]
    exact ht
  · intro hs
    rw [hrow, after_concat]
    exact isSome_token_step hs step
  · exact (fresh.after past).authorizes_step step

end ImageRegistry
