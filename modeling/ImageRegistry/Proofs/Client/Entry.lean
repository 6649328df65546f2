import Mathlib.Data.List.DropRight
import ImageRegistry.Proofs.Client.Sessions
import ImageRegistry.Proofs.Exchange.Faults

namespace ImageRegistry

def Step.isExchange : Step → Bool
  | .version _ _ | .auth _ _ | .pull _ _ => true
  | _ => false

def Step.releases : Step → Bool
  | .leave | .close => true
  | _ => false

def sinceRelease (past : List Step) : List Step :=
  past.rtakeWhile fun step => !step.releases

def Severed (past : List Step) : Prop :=
  [.enter, .closeSession].Sublist (sinceRelease past)

theorem sinceRelease_concat (past : List Step) (step : Step) :
    sinceRelease (past ++ [step]) =
      if step.releases then [] else sinceRelease past ++ [step] := by
  rw [sinceRelease, List.rtakeWhile_concat]
  cases step.releases with
  | true => rfl
  | false => rfl

theorem pair_sublist_concat {α : Type} {a b x : α} {l : List α} :
    [a, b].Sublist (l ++ [x]) ↔ [a, b].Sublist l ∨ b = x ∧ a ∈ l := by
  have hr (m : List α) : [a, b].Sublist m ↔ [b, a].Sublist m.reverse :=
    List.reverse_sublist.symm
  rw [hr, hr, List.reverse_append]
  simp only [List.reverse_cons, List.reverse_nil, List.nil_append,
    List.cons_append, List.sublist_cons_iff, List.cons.injEq]
  constructor
  · rintro (h | ⟨r, ⟨rfl, rfl⟩, hr⟩)
    · exact .inl h
    · exact .inr ⟨rfl, by simpa using hr⟩
  · rintro (h | ⟨rfl, ha⟩)
    · exact .inl h
    · exact .inr ⟨[a], ⟨rfl, rfl⟩, by simpa using ha⟩

namespace Client

theorem exists_store_step (client : Client) {step : Step} (h : step.isExchange = true) :
    ∃ store, (client.step step).2 = { client with store := store } := by
  cases step with
  | enter | leave | close | closeSession => cases h
  | version host answers => exact ⟨client.store, by rw [step_version]⟩
  | pull image answers => exact ⟨client.store, by rw [step_pull]⟩
  | auth image answers =>
      rcases client.step_auth_cases image answers with
        ⟨fault, hs⟩ | ⟨config, ⟨fault, hs⟩ | hs | ⟨realm, url, read, hs⟩⟩
      · exact ⟨client.store, by rw [hs]⟩
      · exact ⟨client.store, by rw [hs]⟩
      · exact ⟨client.store, by rw [hs]⟩
      · rw [hs]
        cases (nextAnswer (answers.drop 1)).judged (.token realm) (fun _ => true) tokenOf with
        | error fault => exact ⟨client.store, rfl⟩
        | ok token => exact ⟨client.store.replace token, rfl⟩

section Openness

variable {client : Client}

theorem enter_of_held (h : client.held.isSome = true) : client.enter = client :=
  if_pos h

theorem openness_enter_of_unheld (h : client.held = none) :
    client.enter.openness = some true := by
  simp [enter, openness, h]

theorem openness_closeSession (client : Client) :
    client.closeSession.openness = client.held.map fun _ => false := by
  unfold closeSession openness
  cases hi : client.held with
  | none => simp [hi]
  | some i => cases hs : client.sessions[i]? <;> simp [hs]

theorem openness_enter_iff (client : Client) :
    client.enter.openness = some true ↔ client.openness ≠ some false := by
  cases hi : client.held with
  | none =>
      have hn : client.openness = none := by rw [openness, hi]; rfl
      simp [openness_enter_of_unheld hi, hn]
  | some i =>
      rw [enter_of_held (by rw [hi]; rfl), openness, hi]
      simp

end Openness

structure Follows (client : Client) (span : List Step) : Prop where
  held : client.held.isSome = true ↔ .enter ∈ span
  severed : client.openness = some false ↔ [.enter, .closeSession].Sublist span

section Following

variable {client : Client} {span : List Step}

theorem follows_enter (h : client.Follows span) : client.enter.Follows (span ++ [.enter]) := by
  cases hi : client.held with
  | none =>
      have hn : .enter ∉ span := by
        rw [← h.held, hi]
        simp
      refine ⟨?_, ?_⟩
      · simp [enter, hi]
      · rw [openness_enter_of_unheld hi, pair_sublist_concat]
        simp only [Option.some.injEq, Bool.true_eq_false, reduceCtorEq, false_and, or_false,
          false_iff]
        exact fun hs => hn (hs.subset List.mem_cons_self)
  | some i =>
      have hs : client.held.isSome = true := by rw [hi]; rfl
      rw [enter_of_held hs]
      refine ⟨by simp [hs], ?_⟩
      rw [h.severed, pair_sublist_concat]
      simp

theorem follows_closeSession (h : client.Follows span) :
    client.closeSession.Follows (span ++ [.closeSession]) := by
  refine ⟨?_, ?_⟩
  · rw [held_closeSession, h.held]
    simp
  · rw [openness_closeSession, pair_sublist_concat, ← h.held]
    cases hi : client.held with
    | none =>
        have hn : ¬ [.enter, .closeSession].Sublist span := fun hs => by
          have he := h.held.2 (hs.subset List.mem_cons_self)
          rw [hi] at he
          cases he
        simp [hn]
    | some i => simp

theorem follows_exchange (h : client.Follows span) {step : Step} (hx : step.isExchange = true) :
    (client.step step).2.Follows (span ++ [step]) := by
  obtain ⟨store, hs⟩ := client.exists_store_step hx
  have hne : .enter ≠ step ∧ .closeSession ≠ step := by
    refine ⟨?_, ?_⟩
    · rintro rfl
      cases hx
    · rintro rfl
      cases hx
  rw [hs]
  refine ⟨?_, ?_⟩
  · rw [List.mem_append, List.mem_singleton, or_iff_left hne.1]
    exact h.held
  · rw [pair_sublist_concat, or_iff_left fun hb => hne.2 hb.1]
    exact h.severed

theorem follows_close (client : Client) : client.close.Follows [] :=
  ⟨by simp [close], by simp [close, openness]⟩

theorem follows_step {past : List Step} (h : client.Follows (sinceRelease past)) (step : Step) :
    (client.step step).2.Follows (sinceRelease (past ++ [step])) := by
  rw [sinceRelease_concat]
  cases step with
  | enter => exact follows_enter h
  | leave | close => exact follows_close client
  | closeSession => exact follows_closeSession h
  | version host answers => exact follows_exchange h rfl
  | auth image answers => exact follows_exchange h rfl
  | pull image answers => exact follows_exchange h rfl

theorem follows_after (scheme : String) (timeout : TimeLimit) (past : List Step) :
    ((new scheme timeout).after past).Follows (sinceRelease past) := by
  induction past using List.reverseRecOn with
  | nil => exact ⟨by simp [new, sinceRelease], by simp [new, openness, sinceRelease]⟩
  | append_singleton past step ih =>
      rw [after_concat]
      exact follows_step ih step

end Following

theorem raisesOnly_step_of_open {client : Client} {step : Step} {answers : List Answer}
    (ho : client.isOpen = true) (ha : step.Asks answers) :
    RaisesOnly (some .missingVersion :: tokenKinds ++ refusalKinds)
      (client.step step).1.outcome.result := by
  cases ha with
  | version =>
      rw [step_version, run_version_open ho]
      exact ((raisesOnly_fetchVersion _ _).mono (by decide)).map _
  | auth hr =>
      rw [step_auth_open hr ho]
      exact ((raisesOnly_authenticate _ _ _).mono (by decide)).map _
  | pull hr =>
      rw [step_pull, run_pull_open hr ho]
      exact ((raisesOnly_fetchManifest _ _ _ _).mono (by decide)).map _

end Client

theorem entered_open_iff (scheme : String) (timeout : TimeLimit) (past future : List Step) :
    let rows := (Client.new scheme timeout).steps (past ++ .enter :: future)
    ∃ entry, rows[past.length]? = some entry ∧
      (entry.openness = some true ↔ ¬ Severed past) ∧
      ∀ step rest answers, future = step :: rest → step.Asks answers →
        ∃ next, rows[past.length + 1]? = some next ∧
          (¬ Severed past → next.outcome.requests ≠ [] ∧
            ∀ fault, next.outcome.result = .error fault → fault.kind? ≠ some .registry) ∧
          (Severed past → next.outcome = ⟨.error .outOfSession, [], answers.length⟩) := by
  intro rows
  let client := (Client.new scheme timeout).after past
  have hopen : client.enter.openness = some true ↔ ¬ Severed past := by
    rw [client.openness_enter_iff, Severed, ← (Client.follows_after scheme timeout past).severed]
  refine ⟨_, Client.getElem?_steps _ past .enter future, hopen, ?_⟩
  rintro step rest answers rfl ha
  have hafter : (Client.new scheme timeout).after (past ++ [.enter]) = client.enter :=
    Client.after_concat _ past .enter
  have hnext := Client.getElem?_steps (Client.new scheme timeout) (past ++ [.enter]) step rest
  rw [List.append_assoc, List.length_append, hafter] at hnext
  refine ⟨_, hnext, fun hs => ?_, fun hs => ?_⟩
  · have ho : client.enter.isOpen = true := by
      rw [Client.isOpen, hopen.2 hs]
      rfl
    refine ⟨Client.requests_ne_nil_of_open ho ha, fun fault hf hk => ?_⟩
    have hraises := Client.raisesOnly_step_of_open ho ha fault hf
    rw [hk] at hraises
    exact absurd hraises (by decide)
  · have ho : client.enter.isOpen = false := by
      simpa [Client.isOpen] using fun h => hopen.1 h hs
    rw [Client.step_of_not_open ho ha]
    rfl

theorem entry_keeps_closed_session :
    ¬ ∀ past : List Step,
      ((Client.new "https" (.int 30)).after (past ++ [.enter])).openness = some true := by
  intro h
  have hclosed : ((Client.new "https" (.int 30)).after
      ([.enter, .closeSession] ++ [.enter])).openness = some false := rfl
  have ho := h [.enter, .closeSession]
  rw [hclosed] at ho
  cases ho

end ImageRegistry
