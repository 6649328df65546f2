import ImageRegistry.Exchange.Manifest
import ImageRegistry.Exchange.Version
import ImageRegistry.Proofs.Exchange.Run

namespace ImageRegistry

open Text

theorem read_arrived (reads : Int → Bool) (response : Response) :
    ((Answer.arrived response).take reads).2 = reads response.status := by
  cases hr : reads response.status with
  | true => simp [Answer.take, hr]
  | false => simp [Answer.take, hr]

namespace Answer

variable {α : Type}

def judged (endpoint : Endpoint) (reads : Int → Bool) (judge : Arrival → Except Fault α)
    (answer : Answer) : Except Fault α :=
  ((answer.take reads).1.mapError fun failure => .unreachable endpoint failure.reason).bind judge

variable (endpoint : Endpoint) (reads : Int → Bool) (judge : Arrival → Except Fault α)

theorem take_unread (answer : Answer) : (answer.take fun _ => false).2 = false := by
  cases answer with
  | arrived response => rfl
  | failed cause => rfl

theorem judged_failed (cause : TransportFailure) :
    (failed cause).judged endpoint reads judge = .error (.unreachable endpoint cause.reason) := rfl

theorem judged_skipped (response : Response) (h : reads response.status = false) :
    (arrived response).judged endpoint reads judge =
      judge ⟨response.status, response.headers, response.charset, []⟩ := by
  simp only [judged, take, h, Bool.false_eq_true, if_false]
  rfl

theorem judged_unread (response : Response) :
    (arrived response).judged endpoint (fun _ => false) judge =
      judge ⟨response.status, response.headers, response.charset, []⟩ :=
  judged_skipped endpoint (fun _ => false) judge response rfl

theorem judged_read (status : Int) (headers : Headers) (charset : Charset) (body : List UInt8)
    (h : reads status = true) :
    (arrived ⟨status, headers, charset, .ok body⟩).judged endpoint reads judge =
      judge ⟨status, headers, charset, body⟩ := by
  simp only [judged, take, h, if_true]
  rfl

theorem judged_broken (status : Int) (headers : Headers) (charset : Charset)
    (cause : TransportFailure) (h : reads status = true) :
    (arrived ⟨status, headers, charset, .error cause⟩).judged endpoint reads judge =
      .error (.unreachable endpoint cause.reason) := by
  simp only [judged, take, h, if_true]
  rfl

end Answer

namespace Exchange

variable {α : Type}

def single (endpoint : Endpoint) (url : List Symbol) (headers : Option Headers)
    (reads : Int → Bool) (judge : Arrival → Except Fault α) : Exchange α := do
  let arrival ← send endpoint url headers reads
  ofResult (judge arrival)

variable (endpoint : Endpoint) (url : List Symbol) (headers : Option Headers) (reads : Int → Bool)
  (judge : Arrival → Except Fault α)

theorem framed_single : Framed (single endpoint url headers reads judge) :=
  framed_bind (framed_send endpoint url headers reads) fun arrival =>
    framed_ofResult (judge arrival)

theorem run_single (answers : List Answer) :
    (single endpoint url headers reads judge).run answers =
      ⟨(nextAnswer answers).judged endpoint reads judge,
        [⟨url, headers, ((nextAnswer answers).take reads).2⟩], answers.length - 1⟩ := by
  have hs := framed_send endpoint url headers reads
  have hl : (answers.drop 1).length = answers.length - 1 := List.length_drop
  rw [single, run_bind hs fun arrival => framed_ofResult (judge arrival), run_send]
  rw [Answer.judged]
  cases ((nextAnswer answers).take reads).1 with
  | ok arrival => exact congrArg (Outcome.mk (judge arrival) _) hl
  | error failure =>
      exact congrArg (Outcome.mk (.error (.unreachable endpoint failure.reason)) _) hl

end Exchange

def judgeVersion (config : RegistryConfig) (arrival : Arrival) : Except Fault (List Symbol) :=
  match header? arrival.headers versionHeader with
  | some version => .ok version
  | none => .error (.noVersion config.baseUrl)

theorem fetchVersion_eq (config : RegistryConfig) :
    fetchVersion config =
      Exchange.single (.api config.apiUrl) (symbols config.apiUrl) none (fun _ => false)
        (judgeVersion config) := by
  unfold fetchVersion Exchange.single
  congr 1
  funext arrival
  simp only [advertisedVersion?, judgeVersion]
  cases header? arrival.headers versionHeader with
  | some version => rfl
  | none => rfl

theorem fetchManifest_eq (r : Reference) (authorization : Option (List Symbol)) (scheme : String) :
    fetchManifest r authorization scheme =
      Exchange.single (.manifest (r.manifestUrl scheme)) (symbols (r.manifestUrl scheme))
        (some (manifestHeaders authorization)) (fun status => !isServerError status)
        fun arrival => classifyManifest arrival.status arrival.body (r.manifestUrl scheme) := rfl

end ImageRegistry
