import ImageRegistry.Proofs.Client.Entry
import ImageRegistry.Proofs.Client.Pull
import ImageRegistry.Proofs.Client.Walk

namespace ImageRegistry

def requestsIn (rows : List Row) : List Request :=
  rows.flatMap fun row => row.outcome.requests

theorem requestsIn_cons (row : Row) (rows : List Row) :
    requestsIn (row :: rows) = row.outcome.requests ++ requestsIn rows := rfl

def Client.Visits (client : Client) (requests : List Request) (sessions : List Session) : Prop :=
  ∃ exchanges : List Step, (∀ step ∈ exchanges, step.isExchange = true) ∧
    requests = requestsIn (client.steps (.enter :: (exchanges ++ [.leave]))) ∧
    sessions = (client.after (.enter :: (exchanges ++ [.leave]))).sessions

namespace Client

theorem exists_store_after (client : Client) {exchanges : List Step}
    (h : ∀ step ∈ exchanges, step.isExchange = true) :
    ∃ store, client.after exchanges = { client with store := store } := by
  induction exchanges generalizing client with
  | nil => exact ⟨client.store, rfl⟩
  | cons step rest ih =>
      rw [List.forall_mem_cons] at h
      obtain ⟨store, hs⟩ := client.exists_store_step h.1
      obtain ⟨last, hl⟩ := ih (client.step step).2 h.2
      refine ⟨last, hl.trans ?_⟩
      rw [hs]

theorem requestsIn_visit (client : Client) (exchanges : List Step) :
    requestsIn (client.steps (.enter :: (exchanges ++ [.leave]))) =
      requestsIn (client.enter.steps exchanges) := by
  have hleave (last : Client) : requestsIn (last.steps [.leave]) = [] := rfl
  have henter : (client.step .enter).1.outcome.requests = [] := rfl
  rw [steps, requestsIn_cons, henter, List.nil_append, steps_append, requestsIn,
    List.flatMap_append]
  exact (congrArg _ (hleave _)).trans (List.append_nil _)

theorem sessions_visit (client : Client) {exchanges : List Step}
    (h : ∀ step ∈ exchanges, step.isExchange = true) :
    (client.after (.enter :: (exchanges ++ [.leave]))).sessions = client.enter.close.sessions := by
  obtain ⟨store, hs⟩ := client.enter.exists_store_after h
  have hafter : client.after (.enter :: (exchanges ++ [.leave])) =
      (client.enter.after exchanges).close :=
    after_concat client.enter exchanges .leave
  rw [hafter, hs]
  unfold close closeSession
  cases client.enter.held with
  | none => rfl
  | some i => rfl

theorem sessions_of_visits {scheme : String} {timeout : TimeLimit} {requests : List Request}
    {sessions : List Session} (h : (new scheme timeout).Visits requests sessions) :
    sessions = [⟨timeout, true⟩] := by
  obtain ⟨exchanges, hx, -, hs⟩ := h
  rw [hs, sessions_visit _ hx]
  rfl

theorem visits_of_exchanges (client : Client) (exchanges : List Step) {requests : List Request}
    (hx : ∀ step ∈ exchanges, step.isExchange = true)
    (hr : requests = requestsIn (client.enter.steps exchanges)) :
    client.Visits requests client.enter.close.sessions :=
  ⟨exchanges, hx, hr.trans (client.requestsIn_visit exchanges).symm,
    (client.sessions_visit hx).symm⟩

theorem visits_version (client : Client) (host : String) (answers : List Answer) :
    client.Visits ((client.enter.version host).run answers).requests
      client.enter.close.sessions := by
  refine client.visits_of_exchanges [.version host answers] (List.forall_mem_singleton.2 rfl) ?_
  rw [steps, steps, requestsIn_cons, step_version]
  exact (List.append_nil _).symm

theorem requests_pullInSteps (client : Client) (handshake : Bool) (image : Image)
    (answers : List Answer) :
    ∃ exchanges : List Step, (∀ step ∈ exchanges, step.isExchange = true) ∧
      (client.pullInSteps handshake image answers).requests =
        requestsIn (client.steps exchanges) := by
  cases handshake with
  | false =>
      exact ⟨[.pull image answers], List.forall_mem_singleton.2 rfl, (List.append_nil _).symm⟩
  | true =>
      let row := (client.step (.auth image answers)).1
      let left := answers.drop (answers.length - row.outcome.unused)
      cases ha : (client.step (.auth image answers)).1.outcome.result with
      | error fault =>
          refine ⟨[.auth image answers], List.forall_mem_singleton.2 rfl, ?_⟩
          simp only [pullInSteps, if_true, ha]
          exact (List.append_nil _).symm
      | ok reply =>
          refine ⟨[.auth image answers, .pull image left], by simp [Step.isExchange], ?_⟩
          simp only [pullInSteps, if_true, ha]
          exact congrArg (row.outcome.requests ++ ·) (List.append_nil _).symm

theorem visits_pullWith (client : Client) {image : Image} {r : Reference}
    (hr : image.resolve = .ok r) (handshake : Bool) (answers : List Answer) :
    client.Visits ((client.enter.pullWith handshake r).run answers).requests
      client.enter.close.sessions := by
  obtain ⟨exchanges, hx, hp⟩ := client.enter.requests_pullInSteps handshake image answers
  have hrun := client.enter.run_pullWith hr handshake answers
  exact client.visits_of_exchanges exchanges hx ((congrArg Outcome.requests hrun).trans hp)

end Client

namespace Walk

variable {α β : Type}

def Silent (walk : Walk α) : Prop :=
  ∀ progress, (walk.run.run progress).2.wire = progress.wire

theorem silent_pure (a : α) : Silent (pure a) := fun _ => rfl

theorem silent_throw (fault : Fault) : Silent (throw fault : Walk α) := fun _ => rfl

theorem silent_say (level : Level) (text : String) : Silent (say level text) := fun _ => rfl

theorem silent_bind {walk : Walk α} {next : α → Walk β} (h : Silent walk)
    (hn : ∀ a, Silent (next a)) : Silent (walk >>= next) := by
  intro progress
  rw [run_run_bind]
  have hw := h progress
  generalize walk.run.run progress = ended at hw
  obtain ⟨result, later⟩ := ended
  cases result with
  | ok a => exact (hn a later).trans hw
  | error fault => exact hw

theorem silent_forM {line : α → Walk Unit} (h : ∀ a, Silent (line a)) (items : List α) :
    Silent (items.forM line) := by
  induction items with
  | nil => exact silent_pure ()
  | cons item rest ih => exact silent_bind (h item) fun _ => ih

theorem silent_listEntry (entry : Descriptor) : Silent (listEntry entry) := by
  unfold listEntry
  cases platformMembers entry.platform with
  | ok platform => exact silent_say _ _
  | error fault => exact silent_throw fault

theorem silent_describe (manifest : Manifest) : Silent (describe manifest) := by
  unfold describe
  split
  · exact silent_bind (silent_say _ _) fun _ => silent_forM silent_listEntry _
  · exact silent_bind (silent_say _ _) fun _ => silent_forM (fun _ => silent_say _ _) _

theorem silent_sayVersion (r : Reference) (version : Except Fault (List Text.Symbol)) :
    Silent (sayVersion r version) := by
  cases version with
  | ok version => exact silent_say _ _
  | error fault => exact silent_say _ _

def Conducts (client : Client) (walk : Walk α) : Prop :=
  ∀ progress, ∃ exchanges : List Step, (∀ step ∈ exchanges, step.isExchange = true) ∧
    (walk.run.run progress).2.wire.sent =
      progress.wire.sent ++ requestsIn (client.steps exchanges)

theorem conducts_of_silent {client : Client} {walk : Walk α} (h : Silent walk) :
    Conducts client walk := fun progress =>
  ⟨[], nofun, by rw [h progress]; exact (List.append_nil _).symm⟩

theorem conducts_bind_silent {client : Client} {walk : Walk α} {next : α → Walk β}
    (h : Conducts client walk) (hn : ∀ a, Silent (next a)) : Conducts client (walk >>= next) := by
  intro progress
  obtain ⟨exchanges, hx, hs⟩ := h progress
  refine ⟨exchanges, hx, ?_⟩
  rw [run_run_bind, ← hs]
  generalize walk.run.run progress = ended
  obtain ⟨result, later⟩ := ended
  cases result with
  | ok a => exact congrArg Wire.sent (hn a later)
  | error fault => rfl

theorem conducts_silent_bind {client : Client} {walk : Walk α} {next : α → Walk β}
    (h : Silent walk) (hn : ∀ a, Conducts client (next a)) : Conducts client (walk >>= next) := by
  intro progress
  rw [run_run_bind]
  have hw := h progress
  generalize walk.run.run progress = ended at hw
  obtain ⟨result, later⟩ := ended
  cases result with
  | ok a =>
      obtain ⟨exchanges, hx, hs⟩ := hn a later
      exact ⟨exchanges, hx, hs.trans (by rw [← hw])⟩
  | error fault => exact ⟨[], nofun, by rw [← hw]; exact (List.append_nil _).symm⟩

theorem conducts_attempt_bind {client : Client} {exchange : Exchange α}
    {next : Except Fault α → Walk β} (step : List Answer → Step)
    (hf : Exchange.Framed exchange) (hx : ∀ answers, (step answers).isExchange = true)
    (hr : ∀ answers, (client.step (step answers)).1.outcome.requests =
      (exchange.run answers).requests)
    (hn : ∀ answers, Conducts (client.step (step answers)).2
      (next (exchange.run answers).result)) :
    Conducts client (attempt exchange >>= next) := by
  intro progress
  let answers := progress.wire.pending
  let outcome := exchange.run answers
  let later : Progress := { progress with
    wire := ⟨answers.drop outcome.requests.length, progress.wire.sent ++ outcome.requests⟩ }
  have hwire : exchange.onWire progress.wire = (outcome.result, later.wire) :=
    hf answers progress.wire.sent
  have hgo (result : Except Fault α) (hresult : outcome.result = result) :
      ∃ exchanges : List Step, (∀ step ∈ exchanges, step.isExchange = true) ∧
        ((next result).run.run later).2.wire.sent =
          progress.wire.sent ++ requestsIn (client.steps exchanges) := by
    obtain ⟨exchanges, hxs, hs⟩ := hn answers later
    refine ⟨step answers :: exchanges, List.forall_mem_cons.2 ⟨hx answers, hxs⟩, ?_⟩
    rw [Client.steps, requestsIn_cons, hr answers, ← List.append_assoc, ← hresult]
    exact hs
  rw [run_run_bind, run_attempt, hwire]
  cases hresult : outcome.result with
  | ok value => exact hgo _ hresult
  | error fault =>
      by_cases hk : fault.isReported = true
      · simp only [hk, if_true]
        exact hgo _ hresult
      · simp only [hk]
        refine ⟨[step answers], List.forall_mem_singleton.2 (hx answers), ?_⟩
        rw [Client.steps, requestsIn_cons, hr answers]
        exact congrArg _ (List.append_nil _).symm

theorem conducts_version_bind {client : Client} (host : String)
    {next : Except Fault (List Text.Symbol) → Walk β}
    (hn : ∀ version, Conducts client (next version)) :
    Conducts client (attempt (client.version host) >>= next) := by
  have hframed : Exchange.Framed (client.version host) := by
    refine client.framed_inSession ?_
    rw [fetchVersion_eq]
    exact Exchange.framed_single _ _ _ _ _
  refine conducts_attempt_bind (.version host) hframed (fun _ => rfl) (fun answers => ?_)
    fun answers => ?_
  · rw [Client.step_version]
    rfl
  · rw [Client.step_version]
    exact hn _

theorem conducts_orStop {client : Client} {exchange : Exchange α} {next : α → Walk (Option β)}
    (step : List Answer → Step) (hf : Exchange.Framed exchange)
    (hx : ∀ answers, (step answers).isExchange = true)
    (hr : ∀ answers, (client.step (step answers)).1.outcome.requests =
      (exchange.run answers).requests)
    (hn : ∀ answers value, (exchange.run answers).result = .ok value →
      Conducts (client.step (step answers)).2 (next value)) :
    Conducts client (orStop exchange next) := by
  refine conducts_attempt_bind step hf hx hr fun answers => ?_
  cases hresult : (exchange.run answers).result with
  | ok value => exact hn answers value hresult
  | error fault =>
      exact conducts_of_silent (silent_bind (silent_say _ _) fun _ => silent_pure none)

theorem conducts_through (client : Client) (r : Reference) :
    Conducts client (through client r) := by
  have hr : (Image.reference r).resolve = .ok r := rfl
  refine conducts_bind_silent ?_ fun manifest => ?_
  · rw [exchanges_eq]
    refine conducts_version_bind _ fun version => ?_
    refine conducts_silent_bind (silent_sayVersion r version) fun _ => ?_
    refine conducts_orStop (.auth (.reference r)) (client.framed_auth r) (fun _ => rfl)
      (fun answers => by rw [client.outcome_step_auth hr]; rfl) fun answers granted hg => ?_
    rw [client.step_auth_next hr, hg]
    refine conducts_silent_bind (silent_say _ _) fun _ => ?_
    exact conducts_orStop (.pull (.reference r)) (granted.framed_pull r) (fun _ => rfl)
      (fun answers => by rw [Client.outcome_step_pull _ hr]; rfl) fun _ manifest _ =>
        conducts_of_silent (silent_pure _)
  · cases manifest with
    | some manifest => exact silent_describe manifest
    | none => exact silent_pure ()

end Walk

theorem visits_walkthrough {image : String} {r : Reference} (hr : Reference.parse image = .ok r)
    (answers : List Answer) :
    (Client.new "https" (.int 30)).Visits (walkthrough image answers).outcome.requests
      (walkthrough image answers).sessions := by
  let client := Client.new "https" (.int 30)
  obtain ⟨exchanges, hx, hs⟩ := Walk.conducts_through client.enter r ⟨⟨answers, []⟩, []⟩
  have hv := client.visits_of_exchanges exchanges hx hs
  simp only [walkthrough, hr]
  exact hv

theorem one_session_closed_at_the_end :
    (∀ host scheme timeout answers,
      let visit := getApiVersion host scheme timeout answers
      visit.sessions = [⟨timeout, true⟩] ∧
        (Client.new scheme timeout).Visits visit.outcome.requests visit.sessions) ∧
    (∀ image handshake scheme timeout answers,
      let visit := pullManifest image handshake scheme timeout answers
      match image.resolve with
      | .ok _ =>
          visit.sessions = [⟨timeout, true⟩] ∧
            (Client.new scheme timeout).Visits visit.outcome.requests visit.sessions
      | .error error =>
          visit.sessions = [] ∧ visit.outcome = ⟨.error (.reference error), [], answers.length⟩) ∧
    ∀ image answers,
      let walk := walkthrough image answers
      match Reference.parse image with
      | .ok _ =>
          walk.sessions = [⟨.int 30, true⟩] ∧
            (Client.new "https" (.int 30)).Visits walk.outcome.requests walk.sessions
      | .error error =>
          walk.sessions = [] ∧ walk.outcome = ⟨.error (.reference error), [], answers.length⟩ := by
  refine ⟨fun host scheme timeout answers => ?_, fun image handshake scheme timeout answers => ?_,
    fun image answers => ?_⟩
  · have hv := (Client.new scheme timeout).visits_version host answers
    exact ⟨Client.sessions_of_visits hv, hv⟩
  · cases hr : image.resolve with
    | ok r =>
        have hv := (Client.new scheme timeout).visits_pullWith hr handshake answers
        simp only [pullManifest, hr]
        exact ⟨Client.sessions_of_visits hv, hv⟩
    | error error => simp only [pullManifest, hr, and_self]
  · cases hr : Reference.parse image with
    | ok r =>
        have hv := visits_walkthrough hr answers
        exact ⟨Client.sessions_of_visits hv, hv⟩
    | error error => simp only [walkthrough, hr, and_self]

end ImageRegistry
