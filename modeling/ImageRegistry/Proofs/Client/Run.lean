import ImageRegistry.Client.Steps
import ImageRegistry.Proofs.Exchange.Handshake

namespace ImageRegistry

open Text (symbols)

namespace Client

def after (client : Client) (steps : List Step) : Client :=
  steps.foldl (fun client step => (client.step step).2) client

@[simp]
theorem after_nil (client : Client) : client.after [] = client := rfl

theorem after_append (client : Client) (past rest : List Step) :
    client.after (past ++ rest) = (client.after past).after rest :=
  List.foldl_append

theorem after_concat (client : Client) (past : List Step) (step : Step) :
    client.after (past ++ [step]) = ((client.after past).step step).2 :=
  after_append client past [step]

theorem after_induction {P : Client → Prop} {client : Client} (h : P client)
    (hstep : ∀ client step, P client → P (client.step step).2) (steps : List Step) :
    P (client.after steps) := by
  induction steps generalizing client with
  | nil => exact h
  | cons step rest ih => exact ih (hstep client step h)

theorem length_steps (client : Client) (steps : List Step) :
    (client.steps steps).length = steps.length := by
  induction steps generalizing client with
  | nil => rfl
  | cons step rest ih => simp [Client.steps, ih]

theorem steps_append (client : Client) (past rest : List Step) :
    client.steps (past ++ rest) = client.steps past ++ (client.after past).steps rest := by
  induction past generalizing client with
  | nil => rfl
  | cons step past ih => exact congrArg _ (ih (client.step step).2)

theorem getElem?_steps (client : Client) (past : List Step) (step : Step) (future : List Step) :
    (client.steps (past ++ step :: future))[past.length]? =
      some ((client.after past).step step).1 := by
  have hl : past.length = (client.steps past).length := (length_steps client past).symm
  rw [steps_append, hl, List.getElem?_append_right (Nat.le_refl _), Nat.sub_self]
  rfl

section Exchanges

variable {α : Type} (client : Client) (answers : List Answer)

theorem run_inSession (exchange : Exchange α) :
    (client.inSession exchange).run answers =
      if client.isOpen then exchange.run answers
      else ⟨.error .outOfSession, [], answers.length⟩ := by
  unfold inSession
  split
  · rfl
  · rfl

theorem run_about (image : Image) (exchange : Reference → Exchange α) :
    (about image exchange).run answers =
      match image.resolve with
      | .ok r => (exchange r).run answers
      | .error error => ⟨.error (.reference error), [], answers.length⟩ := by
  unfold about
  cases image.resolve with
  | ok r => rfl
  | error error => rfl

theorem run_about_cases (image : Image) (exchange : Reference → Exchange α) :
    (∃ fault, (about image fun r => client.inSession (exchange r)).run answers =
      ⟨.error fault, [], answers.length⟩) ∨
    client.isOpen = true ∧ ∃ r, image.resolve = .ok r := by
  rw [run_about]
  cases image.resolve with
  | error error => exact .inl ⟨.reference error, rfl⟩
  | ok r =>
      simp only
      rw [run_inSession]
      by_cases ho : client.isOpen = true
      · exact .inr ⟨ho, r, rfl⟩
      · rw [if_neg ho]
        exact .inl ⟨.outOfSession, rfl⟩

def settled (next : α → Client) : Except Fault α → Client
  | .ok value => next value
  | .error _ => client

theorem exchangeStep_eq (exchange : Exchange α) (next : α → Client) (reply : α → Reply) :
    client.exchangeStep answers exchange next reply =
      ((client.settled next (exchange.run answers).result).row ((exchange.run answers).map reply),
        client.settled next (exchange.run answers).result) := by
  simp only [exchangeStep, Outcome.map]
  cases (exchange.run answers).result with
  | ok value => rfl
  | error fault => rfl

end Exchanges

theorem step_version (client : Client) (host : String) (answers : List Answer) :
    client.step (.version host answers) =
      (client.row (((client.version host).run answers).map .version), client) := by
  simp only [Client.step, exchangeStep_eq]
  cases ((client.version host).run answers).result with
  | ok version => rfl
  | error fault => rfl

theorem step_pull (client : Client) (image : Image) (answers : List Answer) :
    client.step (.pull image answers) =
      (client.row (((about image client.pull).run answers).map .manifest), client) := by
  simp only [Client.step, exchangeStep_eq]
  cases ((about image client.pull).run answers).result with
  | ok manifest => rfl
  | error fault => rfl

def receive (client : Client) : Option AccessToken → Client
  | some token => { client with store := client.store.replace token }
  | none => client

theorem auth_eq (client : Client) (r : Reference) :
    client.auth r =
      client.inSession
        (client.receive <$>
          authenticate (client.config r.registry) (symbols r.repository)) := by
  unfold auth
  rw [map_eq_pure_bind]
  congr 2
  funext token
  cases token with
  | some token => rfl
  | none => rfl

theorem step_auth (client : Client) (image : Image) (answers : List Answer) :
    client.step (.auth image answers) =
      ((client.settled id ((about image client.auth).run answers).result).row
          (((about image client.auth).run answers).map fun _ => .done),
        client.settled id ((about image client.auth).run answers).result) := by
  rw [Client.step, exchangeStep_eq]

theorem row_step (client : Client) (step : Step) :
    (client.step step).1 = (client.step step).2.row (client.step step).1.outcome := by
  cases step with
  | enter | leave | close | closeSession => rfl
  | version host answers =>
      rw [step_version]
      rfl
  | auth image answers =>
      rw [step_auth]
      rfl
  | pull image answers =>
      rw [step_pull]
      rfl

section Ready

variable {client : Client} {image : Image} {r : Reference}

theorem step_auth_open (hr : image.resolve = .ok r) (ho : client.isOpen = true)
    (answers : List Answer) :
    client.step (.auth image answers) =
      ((client.settled client.receive ((authenticate (client.config r.registry)
          (symbols r.repository)).run answers).result).row
          (((authenticate (client.config r.registry) (symbols r.repository)).run answers).map
            fun _ => .done),
        client.settled client.receive ((authenticate (client.config r.registry)
          (symbols r.repository)).run answers).result) := by
  have hrun : (about image client.auth).run answers =
      ((authenticate (client.config r.registry) (symbols r.repository)).run answers).map
        client.receive := by
    rw [run_about, hr]
    simp only
    rw [auth_eq, run_inSession, if_pos ho, Exchange.run_map]
  rw [step_auth, hrun]
  simp only [Outcome.map]
  cases ((authenticate (client.config r.registry) (symbols r.repository)).run answers).result with
  | ok token => rfl
  | error fault => rfl

theorem run_version_open (ho : client.isOpen = true) (host : String) (answers : List Answer) :
    (client.version host).run answers = (fetchVersion (client.config host)).run answers := by
  rw [version, run_inSession, if_pos ho]

theorem run_pull_open (hr : image.resolve = .ok r) (ho : client.isOpen = true)
    (answers : List Answer) :
    (about image client.pull).run answers =
      (fetchManifest r client.store.authorization client.scheme).run answers := by
  rw [run_about, hr]
  simp only
  rw [pull, run_inSession, if_pos ho]

end Ready

theorem step_auth_cases (client : Client) (image : Image) (answers : List Answer) :
    (∃ fault, client.step (.auth image answers) =
      (client.row ⟨.error fault, [], answers.length⟩, client)) ∨
    ∃ config : RegistryConfig,
      (∃ fault, client.step (.auth image answers) =
        (client.row ⟨.error fault, [apiRequest config], answers.length - 1⟩, client)) ∨
      client.step (.auth image answers) =
        (client.row ⟨.ok .done, [apiRequest config], answers.length - 1⟩, client) ∨
      ∃ realm url read,
        let result :=
          (nextAnswer (answers.drop 1)).judged (.token realm) (fun _ => true) tokenOf
        let next := client.settled (fun token => client.receive (some token)) result
        client.step (.auth image answers) =
          (next.row ⟨result.map fun _ => .done, [apiRequest config, ⟨url, none, read⟩],
            answers.length - 2⟩, next) := by
  have hcases := client.run_about_cases answers image fun r =>
    client.receive <$> authenticate (client.config r.registry) (symbols r.repository)
  simp only [← auth_eq] at hcases
  rcases hcases with ⟨fault, hf⟩ | ⟨ho, r, hr⟩
  · left
    rw [step_auth, hf]
    exact ⟨fault, rfl⟩
  · refine .inr ⟨client.config r.registry, ?_⟩
    rw [step_auth_open hr ho]
    rcases authenticate_cases (client.config r.registry) (symbols r.repository) answers with
      ⟨fault, ha⟩ | ha | ⟨realm, url, read, ha⟩
    · rw [ha]
      exact .inl ⟨fault, rfl⟩
    · rw [ha]
      exact .inr (.inl rfl)
    · rw [ha]
      refine .inr (.inr ⟨realm, url, read, ?_⟩)
      cases (nextAnswer (answers.drop 1)).judged (.token realm) (fun _ => true) tokenOf with
      | error fault => rfl
      | ok token => rfl

end Client

end ImageRegistry
