import ImageRegistry.Client.OneShot
import ImageRegistry.Proofs.Client.Run
import ImageRegistry.Proofs.Exchange.Transcript

namespace ImageRegistry

open Text (Symbol)

inductive Operation : Type → Type
  | getApiVersion (host scheme : String) (timeout : TimeLimit) :
      Operation (List Symbol)
  | pullManifest (image : Image) (handshake : Bool) (scheme : String) (timeout : TimeLimit) :
      Operation Manifest
  | requestToken (challenge : Bearer (List Symbol)) (repository : List Symbol)
      (timeout : TimeLimit) : Operation AccessToken
  | fetchManifest (image : Image) (authorization : Option (List Symbol)) (scheme : String)
      (timeout : TimeLimit) : Operation Manifest
  | version (client : Client) (host : String) : Operation Reply
  | auth (client : Client) (image : Image) : Operation Reply
  | pull (client : Client) (image : Image) : Operation Reply

inductive Aftermath where
  | visit (sessions : List Session)
  | step (store : TokenStore) (openness : Option Bool) (sessions : List Session) (client : Client)

def Visit.answer {α : Type} (visit : Visit α) : Outcome α × Aftermath :=
  (visit.outcome, .visit visit.sessions)

def Client.answer (client : Client) (step : Step) : Outcome Reply × Aftermath :=
  let (row, next) := client.step step
  (row.outcome, .step row.store row.openness row.sessions next)

namespace Operation

variable {α : Type}

def answer : Operation α → List Answer → Outcome α × Aftermath
  | getApiVersion host scheme timeout, answers =>
      (ImageRegistry.getApiVersion host scheme timeout answers).answer
  | pullManifest image handshake scheme timeout, answers =>
      (ImageRegistry.pullManifest image handshake scheme timeout answers).answer
  | requestToken challenge repository timeout, answers =>
      ((ImageRegistry.requestToken challenge repository).onSession timeout answers).answer
  | fetchManifest image authorization scheme timeout, answers =>
      ((Client.about image fun r => ImageRegistry.fetchManifest r authorization scheme).onSession
        timeout answers).answer
  | version client host, answers => client.answer (.version host answers)
  | auth client image, answers => client.answer (.auth image answers)
  | pull client image, answers => client.answer (.pull image answers)

def outcome (operation : Operation α) (answers : List Answer) : Outcome α :=
  (operation.answer answers).1

def aftermath (operation : Operation α) (answers : List Answer) : Aftermath :=
  (operation.answer answers).2

def limit : Operation α → Nat
  | getApiVersion .. | requestToken .. | fetchManifest .. | version .. | pull .. => 1
  | auth .. => 2
  | pullManifest .. => 3

def stages : Operation α → List Stage
  | getApiVersion .. | version .. => [.api]
  | requestToken .. => [.token]
  | fetchManifest .. | pull .. => [.manifest]
  | auth .. => [.api, .token]
  | pullManifest _ handshake .. => if handshake then [.api, .token, .manifest] else [.manifest]

def exchange : Operation α → Exchange α
  | getApiVersion host scheme timeout => (Client.new scheme timeout).enter.version host
  | pullManifest image handshake scheme timeout =>
      Client.about image ((Client.new scheme timeout).enter.pullWith handshake)
  | requestToken challenge repository _ => ImageRegistry.requestToken challenge repository
  | fetchManifest image authorization scheme _ =>
      Client.about image fun r => ImageRegistry.fetchManifest r authorization scheme
  | version client host => .version <$> client.version host
  | auth client image => (fun _ => .done) <$> Client.about image client.auth
  | pull client image => .manifest <$> Client.about image client.pull

theorem outcome_eq (operation : Operation α) (answers : List Answer) :
    operation.outcome answers = operation.exchange.run answers := by
  cases operation with
  | getApiVersion host scheme timeout => rfl
  | requestToken challenge repository timeout => rfl
  | fetchManifest image authorization scheme timeout => rfl
  | pullManifest image handshake scheme timeout =>
      rw [exchange, Client.run_about]
      simp only [outcome, answer, Visit.answer, ImageRegistry.pullManifest]
      cases image.resolve with
      | ok r => rfl
      | error error => rfl
  | version client host =>
      rw [exchange, Exchange.run_map, outcome, answer, Client.answer, Client.step_version]
      rfl
  | auth client image =>
      rw [exchange, Exchange.run_map, outcome, answer, Client.answer, Client.step_auth]
      rfl
  | pull client image =>
      rw [exchange, Exchange.run_map, outcome, answer, Client.answer, Client.step_pull]
      rfl

end Operation

section Conversations

namespace Client

variable {α : Type} {stages : List Stage} (client : Client)

theorem conversation_inSession {exchange : Exchange α} (h : Conversation stages exchange) :
    Conversation stages (client.inSession exchange) := by
  unfold inSession
  split
  · exact h
  · exact .stopped nofun

theorem conversation_about (image : Image) {exchange : Reference → Exchange α}
    (h : ∀ r, Conversation stages (exchange r)) : Conversation stages (about image exchange) := by
  unfold about
  split
  · exact h _
  · exact .stopped nofun

theorem conversation_version (host : String) : Conversation [.api] (client.version host) :=
  client.conversation_inSession (conversation_fetchVersion (client.config host))

theorem conversation_auth (r : Reference) : Conversation [.api, .token] (client.auth r) := by
  rw [auth_eq]
  exact client.conversation_inSession ((conversation_authenticate _ _).map client.receive)

theorem conversation_pull (r : Reference) : Conversation [.manifest] (client.pull r) :=
  client.conversation_inSession (conversation_fetchManifest r _ _)

theorem conversation_pullWith (handshake : Bool) (r : Reference) :
    Conversation (if handshake then [.api, .token, .manifest] else [.manifest])
      (client.pullWith handshake r) := by
  cases handshake with
  | true => exact (client.conversation_auth r).bind fun next => next.conversation_pull r
  | false => exact client.conversation_pull r

end Client

theorem Operation.conversation {α : Type} (operation : Operation α) :
    Conversation operation.stages operation.exchange := by
  cases operation with
  | getApiVersion host scheme timeout => exact Client.conversation_version _ host
  | pullManifest image handshake scheme timeout =>
      exact Client.conversation_about image (Client.conversation_pullWith _ handshake)
  | requestToken challenge repository timeout =>
      exact conversation_requestToken challenge repository
  | fetchManifest image authorization scheme timeout =>
      exact Client.conversation_about image fun r =>
        conversation_fetchManifest r authorization scheme
  | version client host => exact (client.conversation_version host).map _
  | auth client image => exact (Client.conversation_about image client.conversation_auth).map _
  | pull client image => exact (Client.conversation_about image client.conversation_pull).map _

end Conversations

namespace Operation

variable {α : Type} (operation : Operation α)

theorem length_stages_le : operation.stages.length ≤ operation.limit := by
  cases operation with
  | pullManifest image handshake => cases handshake <;> simp [stages, limit]
  | _ => simp [stages, limit]

theorem api_not_mem_tail : .api ∉ operation.stages.tail := by
  cases operation with
  | pullManifest image handshake => cases handshake <;> simp [stages]
  | _ => simp [stages]

theorem transcript (answers : List Answer) :
    Transcript operation.stages operation.exchange answers (operation.outcome answers).requests
      (operation.outcome answers).result := by
  rw [outcome_eq]
  exact operation.conversation.transcript answers

theorem unused_eq (answers : List Answer) :
    (operation.outcome answers).unused =
      answers.length - (operation.outcome answers).requests.length := by
  rw [outcome_eq]
  exact Exchange.unused_run operation.conversation.framed answers

theorem agree {answers others : List Answer}
    (ha : ∀ i < (operation.outcome answers).requests.length,
      answerTo others i = answerTo answers i) :
    (operation.outcome others).result = (operation.outcome answers).result ∧
      (operation.outcome others).requests = (operation.outcome answers).requests ∧
      operation.aftermath others = operation.aftermath answers := by
  rw [outcome_eq] at ha
  obtain ⟨hresult, hrequests⟩ := operation.conversation.run_of_agree ha
  rw [outcome_eq, outcome_eq]
  refine ⟨hresult, hrequests, ?_⟩
  cases operation with
  | getApiVersion host scheme timeout => rfl
  | requestToken challenge repository timeout => rfl
  | fetchManifest image authorization scheme timeout => rfl
  | pullManifest image handshake scheme timeout =>
      simp only [aftermath, answer, Visit.answer, ImageRegistry.pullManifest]
      cases image.resolve with
      | ok r => rfl
      | error error => rfl
  | version client host =>
      simp only [aftermath, answer, Client.answer, Client.step_version]
      rfl
  -- A handshake is the only step whose client is not the one before.
  | auth client image =>
      rw [exchange, Exchange.run_map] at ha
      have hrun := (Client.conversation_about image client.conversation_auth).run_of_agree ha
      simp only [aftermath, answer, Client.answer, Client.step_auth, hrun.1]
      rfl
  | pull client image =>
      simp only [aftermath, answer, Client.answer, Client.step_pull]
      rfl

theorem answer_append {answers : List Answer}
    (h : (operation.outcome answers).requests.length ≤ answers.length) (more : List Answer) :
    operation.answer (answers ++ more) =
      ({ operation.outcome answers with
          unused := (operation.outcome answers).unused + more.length },
        operation.aftermath answers) := by
  obtain ⟨hresult, hrequests, haftermath⟩ := operation.agree fun i hi =>
    answerTo_append (Nat.lt_of_lt_of_le hi h) more
  have hunused : (operation.outcome (answers ++ more)).unused =
      (operation.outcome answers).unused + more.length := by
    rw [unused_eq, unused_eq, hrequests, List.length_append]
    omega
  have houtcome : operation.outcome (answers ++ more) =
      { operation.outcome answers with
        unused := (operation.outcome answers).unused + more.length } := by
    rw [← hunused]
    simp only [← hresult, ← hrequests]
  exact Prod.ext houtcome haftermath

end Operation

def Outcome.Raises {α : Type} (outcome : Outcome α) (kind : ErrorKind) : Prop :=
  ∃ fault, outcome.result = .error fault ∧ fault.kind? = some kind

theorem Outcome.Raises.unique {α : Type} {outcome : Outcome α} {kind other : ErrorKind}
    (h : outcome.Raises kind) (ho : outcome.Raises other) : kind = other := by
  obtain ⟨fault, hr, hk⟩ := h
  obtain ⟨fault', hr', hk'⟩ := ho
  obtain rfl := Except.error.inj (hr.symm.trans hr')
  exact Option.some.inj (hk.symm.trans hk')

section Operations

variable {α : Type} (operation : Operation α) (answers : List Answer)

theorem connection_blamed_iff_last_failed :
    let outcome := operation.outcome answers
    (outcome.Raises .connection ↔ LastFailed outcome.requests answers) ∧
    (∀ i request, i + 1 < outcome.requests.length → outcome.requests[i]? = some request →
      ¬ request.FailedBy (answerTo answers i)) ∧
    (∀ i request response, outcome.requests[i]? = some request →
      answerTo answers i = .arrived response →
      request.read = (stageOf operation.stages i request).reads response.status) ∧
    ∀ i request status headers charset cause, outcome.requests[i]? = some request →
      stageOf operation.stages i request = .token →
      answerTo answers i = .arrived ⟨status, headers, charset, .error cause⟩ →
      outcome.Raises .connection ∧ ¬ outcome.Raises .authentication := by
  intro outcome
  have htranscript := operation.transcript answers
  have hiff : outcome.Raises .connection ↔ LastFailed outcome.requests answers :=
    htranscript.isConnection_iff
  have hread (i : Nat) (request : Request) (response : Response)
      (hr : outcome.requests[i]? = some request) (ha : answerTo answers i = .arrived response) :
      request.read = (stageOf operation.stages i request).reads response.status := by
    have hl := htranscript.logs_stageOf operation.api_not_mem_tail hr
    rw [hl.read, ha, read_arrived]
  refine ⟨hiff, fun i request hi hr => htranscript.not_failedBy hi hr, hread, ?_⟩
  intro i request status headers charset cause hr ht ha
  have hf : request.FailedBy (answerTo answers i) := by
    have hread := hread i request _ hr ha
    rw [ht] at hread
    rw [ha]
    exact .unreadable hread
  have hraises := hiff.2 ⟨i, request, htranscript.last_of_failedBy hr hf, hr, hf⟩
  exact ⟨hraises, fun ho => nomatch hraises.unique ho⟩

theorem answers_taken_in_turn :
    let outcome := operation.outcome answers
    Transcript operation.stages operation.exchange answers outcome.requests outcome.result ∧
    (∀ i request, outcome.requests[i]? = some request →
      request.FailedBy (answerTo answers i) → i + 1 = outcome.requests.length) ∧
    outcome.requests.length ≤ operation.limit ∧
    outcome.unused = answers.length - outcome.requests.length ∧
    (∀ others i, (∀ j < i, answerTo others j = answerTo answers j) →
      (operation.outcome others).requests.take i = outcome.requests.take i ∧
      (operation.outcome others).requests[i]?.map Request.address =
        outcome.requests[i]?.map Request.address) ∧
    (outcome.requests.length ≤ answers.length → ∀ more,
      operation.answer (answers ++ more) =
        ({ outcome with unused := outcome.unused + more.length },
          operation.aftermath answers)) := by
  intro outcome
  have htranscript := operation.transcript answers
  refine ⟨htranscript, fun i request hr hf => htranscript.last_of_failedBy hr hf,
    Nat.le_trans htranscript.length_le operation.length_stages_le, operation.unused_eq answers, ?_,
    fun h => operation.answer_append h⟩
  intro others i ha
  simp only [outcome, operation.outcome_eq]
  exact operation.conversation.requests_of_agree ha

end Operations

end ImageRegistry
