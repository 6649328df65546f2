import ImageRegistry.Proofs.Client.Run

namespace ImageRegistry

namespace Client

structure Orderly (client : Client) : Prop where
  earlier_closed : ∀ (i : Nat) (h : i + 1 < client.sessions.length),
    client.sessions[i].closed = true
  held_latest : ∀ i, client.held = some i → i + 1 = client.sessions.length
  unheld_closed : client.held = none → ∀ session ∈ client.sessions, session.closed = true

theorem orderly_new (scheme : String) (timeout : TimeLimit) : Orderly (new scheme timeout) where
  earlier_closed := by
    intro i h
    cases h
  held_latest := by
    intro i h
    cases h
  unheld_closed := by
    intro _ session hm
    cases hm

theorem orderly_enter {client : Client} (h : client.Orderly) : client.enter.Orderly := by
  unfold enter
  split
  · exact h
  · next hn =>
      have hall := h.unheld_closed (by simpa using hn)
      refine ⟨?_, ?_, ?_⟩
      · intro i hi
        have hl : i < client.sessions.length := by simpa using hi
        simp only [List.getElem_append_left hl]
        exact hall _ (List.getElem_mem hl)
      · intro i hi
        obtain rfl : client.sessions.length = i := by simpa using hi
        simp
      · intro hi
        cases hi

theorem closed_modify {sessions : List Session} {i : Nat} (hi : i + 1 = sessions.length)
    (h : ∀ (j : Nat) (hj : j + 1 < sessions.length), sessions[j].closed = true) :
    ∀ session ∈ sessions.modify i fun session => { session with closed := true },
      session.closed = true := by
  intro session hm
  obtain ⟨j, hj, rfl⟩ := List.getElem_of_mem hm
  have hl : j < sessions.length := by simpa using hj
  by_cases he : i = j
  · simp [he]
  · simp only [List.getElem_modify, if_neg he]
    exact h j (by omega)

theorem sessions_closeSession {client : Client} (h : client.Orderly) :
    ∀ session ∈ client.closeSession.sessions, session.closed = true := by
  unfold closeSession
  cases hi : client.held with
  | none => exact h.unheld_closed hi
  | some i => exact closed_modify (h.held_latest i hi) h.earlier_closed

theorem held_closeSession (client : Client) : client.closeSession.held = client.held := by
  unfold closeSession
  cases hi : client.held with
  | none => exact hi
  | some i => rfl

theorem length_closeSession (client : Client) :
    client.closeSession.sessions.length = client.sessions.length := by
  unfold closeSession
  cases client.held with
  | none => rfl
  | some i => simp

theorem orderly_closeSession {client : Client} (h : client.Orderly) :
    client.closeSession.Orderly where
  earlier_closed i hi := sessions_closeSession h _ (List.getElem_mem _)
  held_latest i hi := by
    rw [held_closeSession] at hi
    rw [length_closeSession, h.held_latest i hi]
  unheld_closed _ := sessions_closeSession h

theorem orderly_close {client : Client} (h : client.Orderly) : client.close.Orderly where
  earlier_closed i hi := sessions_closeSession h _ (List.getElem_mem _)
  held_latest i hi := by cases hi
  unheld_closed _ := sessions_closeSession h

theorem orderly_receive {client : Client} (h : client.Orderly) (token : AccessToken) :
    (client.receive (some token)).Orderly where
  earlier_closed := h.earlier_closed
  held_latest := h.held_latest
  unheld_closed := h.unheld_closed

theorem orderly_step {client : Client} (h : client.Orderly) (step : Step) :
    (client.step step).2.Orderly := by
  cases step with
  | enter => exact orderly_enter h
  | leave | close => exact orderly_close h
  | closeSession => exact orderly_closeSession h
  | version host answers => rw [step_version]; exact h
  | pull image answers => rw [step_pull]; exact h
  | auth image answers =>
      rcases client.step_auth_cases image answers with
        ⟨fault, hs⟩ | ⟨config, ⟨fault, hs⟩ | hs | ⟨realm, url, read, hs⟩⟩
      · rw [hs]
        exact h
      · rw [hs]
        exact h
      · rw [hs]
        exact h
      · rw [hs]
        cases (nextAnswer (answers.drop 1)).judged (.token realm) (fun _ => true) tokenOf with
        | error fault => exact h
        | ok token => exact orderly_receive h token

end Client

inductive Step.Asks : Step → List Answer → Prop
  | version {host : String} {answers : List Answer} : Asks (.version host answers) answers
  | auth {image : Image} {r : Reference} {answers : List Answer} :
      image.resolve = .ok r → Asks (.auth image answers) answers
  | pull {image : Image} {r : Reference} {answers : List Answer} :
      image.resolve = .ok r → Asks (.pull image answers) answers

namespace Client

variable {client : Client} {step : Step} {answers : List Answer}

theorem requests_ne_nil_of_open (ho : client.isOpen = true) (ha : step.Asks answers) :
    (client.step step).1.outcome.requests ≠ [] := by
  cases ha with
  | version =>
      rw [step_version, run_version_open ho, fetchVersion_eq, Exchange.run_single]
      exact List.cons_ne_nil _ _
  | pull hr =>
      rw [step_pull, run_pull_open hr ho, fetchManifest_eq, Exchange.run_single]
      exact List.cons_ne_nil _ _
  | @auth image r answers hr =>
      rw [step_auth_open hr ho]
      rcases authenticate_cases (client.config r.registry) (Text.symbols r.repository) answers with
        ⟨fault, h⟩ | h | ⟨realm, url, read, h⟩
      · rw [h]
        exact List.cons_ne_nil _ _
      · rw [h]
        exact List.cons_ne_nil _ _
      · rw [h]
        exact List.cons_ne_nil _ _

theorem step_of_not_open (ho : client.isOpen = false) (ha : step.Asks answers) :
    client.step step = (client.row ⟨.error .outOfSession, [], answers.length⟩, client) := by
  have hn : ¬ client.isOpen = true := by simp [ho]
  cases ha with
  | version =>
      rw [step_version, version, run_inSession, if_neg hn]
      rfl
  | pull hr =>
      rw [step_pull, run_about, hr]
      simp only
      rw [pull, run_inSession, if_neg hn]
      rfl
  | auth hr =>
      rw [step_auth, run_about, hr]
      simp only
      rw [auth, run_inSession, if_neg hn]
      rfl

end Client

theorem sessions_in_order (scheme : String) (timeout : TimeLimit) (past : List Step)
    (step : Step) (future : List Step) :
    let fresh := Client.new scheme timeout
    let client := fresh.after past
    let next := fresh.after (past ++ [step])
    ∃ row, (fresh.steps (past ++ step :: future))[past.length]? = some row ∧
      row.sessions = next.sessions ∧ next.Orderly ∧
      (step = .leave ∨ step = .close → ∀ session ∈ row.sessions, session.closed = true) ∧
      ∀ answers, step.Asks answers →
        if client.isOpen then row.outcome.requests ≠ []
        else next = client ∧ ∃ fault : Fault, fault.kind? = some .registry ∧
          row.outcome = ⟨.error fault, [], answers.length⟩ := by
  intro fresh client next
  have horderly (steps : List Step) : (fresh.after steps).Orderly :=
    Client.after_induction (Client.orderly_new scheme timeout)
      (fun _ step h => Client.orderly_step h step) steps
  have hnext : next = (client.step step).2 := fresh.after_concat past step
  refine ⟨_, fresh.getElem?_steps past step future, ?_, horderly _, ?_, ?_⟩
  · rw [Client.row_step, hnext]
    rfl
  · rintro (rfl | rfl)
    · exact Client.sessions_closeSession (horderly past)
    · exact Client.sessions_closeSession (horderly past)
  · intro answers ha
    split
    · next ho => exact Client.requests_ne_nil_of_open ho ha
    · next ho =>
        have hs := Client.step_of_not_open (by simpa using ho) ha
        rw [hnext, hs]
        exact ⟨rfl, .outOfSession, rfl, rfl⟩

end ImageRegistry
