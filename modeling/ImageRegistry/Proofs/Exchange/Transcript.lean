import ImageRegistry.Proofs.Exchange.Conversation

namespace ImageRegistry

open Exchange
open Text (Symbol Charset)

def answerTo (answers : List Answer) (i : Nat) : Answer :=
  answers[i]?.getD (.failed noAnswer)

theorem answerTo_zero (answers : List Answer) : answerTo answers 0 = nextAnswer answers := by
  rw [answerTo, nextAnswer, List.head?_eq_getElem?]

theorem answerTo_drop_one (answers : List Answer) (i : Nat) :
    answerTo (answers.drop 1) i = answerTo answers (i + 1) := by
  rw [answerTo, answerTo, List.getElem?_drop, Nat.add_comm]

theorem answerTo_append {answers : List Answer} {i : Nat} (h : i < answers.length)
    (more : List Answer) : answerTo (answers ++ more) i = answerTo answers i := by
  rw [answerTo, answerTo, List.getElem?_append_left h]

theorem nextAnswer_of_agree {answers others : List Answer}
    (h : answerTo others 0 = answerTo answers 0) : nextAnswer others = nextAnswer answers := by
  rwa [answerTo_zero, answerTo_zero] at h

theorem agree_drop_one {answers others : List Answer} {n : Nat}
    (h : ∀ i < n + 1, answerTo others i = answerTo answers i) :
    ∀ i < n, answerTo (others.drop 1) i = answerTo (answers.drop 1) i := by
  intro i hi
  rw [answerTo_drop_one, answerTo_drop_one]
  exact h (i + 1) (Nat.succ_lt_succ hi)

inductive Request.FailedBy (request : Request) : Answer → Prop
  | lost (cause : TransportFailure) : FailedBy request (.failed cause)
  | unreadable {status : Int} {headers : Headers} {charset : Charset}
      {cause : TransportFailure} :
      request.read = true → FailedBy request (.arrived ⟨status, headers, charset, .error cause⟩)

section Take

variable {reads : Int → Bool} {answer : Answer} {url : List Symbol} {headers : Option Headers}
  {read : Bool}

theorem failedBy_of_take {cause : TransportFailure}
    (ht : answer.take reads = (.error cause, read)) :
    Request.FailedBy ⟨url, headers, read⟩ answer := by
  cases answer with
  | failed reason => exact .lost reason
  | arrived response =>
      obtain ⟨status, fields, charset, body⟩ := response
      simp only [Answer.take] at ht
      split at ht
      · cases body with
        | ok body => cases ht
        | error reason =>
            cases ht
            exact .unreadable rfl
      · cases ht

theorem not_failedBy_of_take {arrival : Arrival} (ht : answer.take reads = (.ok arrival, read)) :
    ¬ Request.FailedBy ⟨url, headers, read⟩ answer := by
  rintro (⟨cause⟩ | hr)
  · cases ht
  · obtain rfl : read = true := hr
    simp only [Answer.take] at ht
    split at ht
    · cases ht
    · cases ht

end Take

inductive Transcript {α : Type} :
    List Stage → Exchange α → List Answer → List Request → Except Fault α → Prop
  | returned (a : α) {answers : List Answer} : Transcript [] (pure a) answers [] (.ok a)
  | stopped {stages : List Stage} {fault : Fault} {answers : List Answer} :
      ¬ fault.IsConnection → Transcript stages (throw fault) answers [] (.error fault)
  | unasked {stages : List Stage} {exchange : Exchange α} {answers : List Answer}
      {requests : List Request} {result : Except Fault α} :
      Transcript stages exchange answers requests result →
      Transcript (.token :: stages) exchange answers requests result
  | failed {stage : Stage} {stages : List Stage} {endpoint : Endpoint} {url : List Symbol}
      {headers : Option Headers} {next : Arrival → Exchange α} {answers : List Answer}
      {cause : TransportFailure} {read : Bool} :
      (headers.isSome ↔ stage = .manifest) →
      (nextAnswer answers).take stage.reads = (.error cause, read) →
      Transcript (stage :: stages) (send endpoint url headers stage.reads >>= next) answers
        [⟨url, headers, read⟩] (.error (.unreachable endpoint cause.reason))
  | answered {stage : Stage} {stages : List Stage} {endpoint : Endpoint} {url : List Symbol}
      {headers : Option Headers} {next : Arrival → Exchange α} {answers : List Answer}
      {arrival : Arrival} {read : Bool} {requests : List Request} {result : Except Fault α} :
      (headers.isSome ↔ stage = .manifest) →
      (nextAnswer answers).take stage.reads = (.ok arrival, read) →
      Transcript stages (next arrival) (answers.drop 1) requests result →
      Transcript (stage :: stages) (send endpoint url headers stage.reads >>= next) answers
        (⟨url, headers, read⟩ :: requests) result

section Send

variable {α : Type} {endpoint : Endpoint} {url : List Symbol} {headers : Option Headers}
  {reads : Int → Bool} {next : Arrival → Exchange α} {answers : List Answer} {read : Bool}

theorem run_send_answered (hn : ∀ arrival, Framed (next arrival)) {arrival : Arrival}
    (ht : (nextAnswer answers).take reads = (.ok arrival, read)) :
    (send endpoint url headers reads >>= next).run answers =
      ((next arrival).run (answers.drop 1)).after [⟨url, headers, read⟩] := by
  rw [run_bind (framed_send endpoint url headers reads) hn, run_send, ht]
  rfl

theorem run_send_failed (hn : ∀ arrival, Framed (next arrival)) {cause : TransportFailure}
    (ht : (nextAnswer answers).take reads = (.error cause, read)) :
    (send endpoint url headers reads >>= next).run answers =
      ⟨.error (.unreachable endpoint cause.reason), [⟨url, headers, read⟩],
        answers.length - 1⟩ := by
  have hl : (answers.drop 1).length = answers.length - 1 := List.length_drop
  rw [run_bind (framed_send endpoint url headers reads) hn, run_send, ht]
  exact congrArg (Outcome.mk (.error (.unreachable endpoint cause.reason)) _) hl

-- The first answer alone decides whether there is a rest of the conversation, and which.
theorem run_send_cases (endpoint : Endpoint) (url : List Symbol) (headers : Option Headers)
    (reads : Int → Bool) (hn : ∀ arrival, Framed (next arrival)) (answer : Answer) :
    ∃ read, (∃ fault, ∀ answers, nextAnswer answers = answer →
      (send endpoint url headers reads >>= next).run answers =
        ⟨.error fault, [⟨url, headers, read⟩], answers.length - 1⟩) ∨
    ∃ arrival, ∀ answers, nextAnswer answers = answer →
      (send endpoint url headers reads >>= next).run answers =
        ((next arrival).run (answers.drop 1)).after [⟨url, headers, read⟩] := by
  obtain ⟨heard, read, ht⟩ : ∃ heard read, answer.take reads = (heard, read) := ⟨_, _, rfl⟩
  refine ⟨read, ?_⟩
  cases heard with
  | error cause =>
      refine .inl ⟨.unreachable endpoint cause.reason, ?_⟩
      rintro answers rfl
      exact run_send_failed hn ht
  | ok arrival =>
      refine .inr ⟨arrival, ?_⟩
      rintro answers rfl
      exact run_send_answered hn ht

end Send

theorem Conversation.transcript {α : Type} {stages : List Stage} {exchange : Exchange α}
    (h : Conversation stages exchange) (answers : List Answer) :
    Transcript stages exchange answers (exchange.run answers).requests
      (exchange.run answers).result := by
  induction h generalizing answers with
  | returned a => exact .returned a
  | stopped hf => exact .stopped hf
  | unasked _ ih => exact .unasked (ih answers)
  | @asked stage stages endpoint url headers next hh hn ih =>
      have hnext (arrival : Arrival) := (hn arrival).framed
      obtain ⟨heard, read, ht⟩ :
        ∃ heard read, (nextAnswer answers).take stage.reads = (heard, read) := ⟨_, _, rfl⟩
      cases heard with
      | error cause =>
          rw [run_send_failed hnext ht]
          exact .failed hh ht
      | ok arrival =>
          rw [run_send_answered hnext ht]
          exact .answered hh ht (ih arrival (answers.drop 1))

def LastFailed (requests : List Request) (answers : List Answer) : Prop :=
  ∃ i request, i + 1 = requests.length ∧ requests[i]? = some request ∧
    request.FailedBy (answerTo answers i)

theorem not_lastFailed_nil (answers : List Answer) : ¬ LastFailed [] answers := by
  rintro ⟨i, request, hi, -⟩
  cases hi

theorem lastFailed_singleton (request : Request) (answers : List Answer) :
    LastFailed [request] answers ↔ request.FailedBy (nextAnswer answers) := by
  rw [← answerTo_zero]
  constructor
  · rintro ⟨i, request, hi, hr, hf⟩
    obtain rfl : i = 0 := Nat.succ.inj hi
    cases hr
    exact hf
  · exact fun hf => ⟨0, request, rfl, rfl, hf⟩

theorem lastFailed_cons_cons (request second : Request) (rest : List Request)
    (answers : List Answer) :
    LastFailed (request :: second :: rest) answers ↔
      LastFailed (second :: rest) (answers.drop 1) := by
  constructor
  · rintro ⟨i, last, hi, hr, hf⟩
    obtain rfl : i = rest.length + 1 := Nat.succ.inj hi
    exact ⟨rest.length, last, rfl, hr, by rwa [answerTo_drop_one]⟩
  · rintro ⟨i, last, hi, hr, hf⟩
    exact ⟨i + 1, last, congrArg (· + 1) hi, hr, by rwa [answerTo_drop_one] at hf⟩

structure Stage.Logs (stage : Stage) (answer : Answer) (request : Request) : Prop where
  headers : request.headers.isSome ↔ stage = .manifest
  read : request.read = (answer.take stage.reads).2

def stageOf (stages : List Stage) (i : Nat) (request : Request) : Stage :=
  if request.headers.isSome then .manifest
  else if i = 0 ∧ stages.head? = some .api then .api
  else .token

theorem opening_of_mem_drop {stages : List Stage} (hs : .api ∉ stages.tail) {i : Nat}
    (hm : .api ∈ stages.drop i) : i = 0 ∧ stages.head? = some .api := by
  cases stages with
  | nil => simp at hm
  | cons first rest =>
      cases i with
      | zero =>
          rcases List.mem_cons.1 hm with rfl | hm
          · exact ⟨rfl, rfl⟩
          · exact absurd hm hs
      | succ i =>
          have hm : .api ∈ rest.drop i := hm
          exact absurd (List.mem_of_mem_drop hm) hs

namespace Transcript

variable {α : Type} {stages : List Stage} {exchange : Exchange α} {answers : List Answer}
  {requests : List Request} {result : Except Fault α}

theorem length_le (h : Transcript stages exchange answers requests result) :
    requests.length ≤ stages.length := by
  induction h with
  | returned => exact Nat.le_refl 0
  | stopped => exact Nat.zero_le _
  | unasked _ ih => exact Nat.le_succ_of_le ih
  | failed => exact Nat.succ_le_succ (Nat.zero_le _)
  | answered _ _ _ ih => exact Nat.succ_le_succ ih

theorem isConnection_iff (h : Transcript stages exchange answers requests result) :
    (∃ fault, result = .error fault ∧ fault.IsConnection) ↔ LastFailed requests answers := by
  induction h with
  | returned a => simp [not_lastFailed_nil]
  | stopped hf => simp [not_lastFailed_nil, hf]
  | unasked _ ih => exact ih
  | failed _ ht =>
      rw [lastFailed_singleton]
      exact ⟨fun _ => failedBy_of_take ht, fun _ => ⟨_, rfl, rfl⟩⟩
  | @answered _ _ _ _ _ _ answers _ _ requests _ _ ht _ ih =>
      rw [ih]
      cases requests with
      | nil => simp [not_lastFailed_nil, lastFailed_singleton, not_failedBy_of_take ht]
      | cons second rest => exact (lastFailed_cons_cons _ second rest answers).symm

theorem not_failedBy (h : Transcript stages exchange answers requests result) {i : Nat}
    (hi : i + 1 < requests.length) {request : Request} (hr : requests[i]? = some request) :
    ¬ request.FailedBy (answerTo answers i) := by
  induction h generalizing i with
  | returned => cases hr
  | stopped => cases hr
  | unasked _ ih => exact ih hi hr
  | failed => exact absurd hi (by simp)
  | answered _ ht _ ih =>
      cases i with
      | zero =>
          cases hr
          rw [answerTo_zero]
          exact not_failedBy_of_take ht
      | succ i =>
          rw [← answerTo_drop_one]
          exact ih (Nat.lt_of_succ_lt_succ hi) hr

theorem last_of_failedBy (h : Transcript stages exchange answers requests result) {i : Nat}
    {request : Request} (hr : requests[i]? = some request)
    (hf : request.FailedBy (answerTo answers i)) : i + 1 = requests.length := by
  have hi : i < requests.length := (List.getElem?_eq_some_iff.1 hr).1
  rcases Nat.lt_or_eq_of_le (Nat.succ_le_of_lt hi) with hl | hl
  · exact absurd hf (h.not_failedBy hl hr)
  · exact hl

theorem logs (h : Transcript stages exchange answers requests result) {i : Nat}
    {request : Request} (hr : requests[i]? = some request) :
    ∃ stage ∈ stages.drop i, stage.Logs (answerTo answers i) request ∧
      (i = 0 → stages.head? = some .api → stage = .api) := by
  induction h generalizing i with
  | returned => cases hr
  | stopped => cases hr
  | unasked _ ih =>
      obtain ⟨stage, hm, hl, -⟩ := ih hr
      refine ⟨stage, ?_, hl, fun _ => nofun⟩
      exact (List.drop_subset_drop_left _ (Nat.le_succ i)) hm
  | @failed stage _ _ _ _ _ answers _ _ hh ht =>
      cases i with
      | zero =>
          cases hr
          refine ⟨stage, List.mem_cons_self, ⟨hh, ?_⟩, fun _ => Option.some.inj⟩
          rw [answerTo_zero, ht]
      | succ i => cases hr
  | @answered stage _ _ _ _ _ answers _ _ _ _ hh ht _ ih =>
      cases i with
      | zero =>
          cases hr
          refine ⟨stage, List.mem_cons_self, ⟨hh, ?_⟩, fun _ => Option.some.inj⟩
          rw [answerTo_zero, ht]
      | succ i =>
          obtain ⟨stage, hm, hl, -⟩ := ih hr
          rw [answerTo_drop_one] at hl
          exact ⟨stage, hm, hl, nofun⟩

theorem logs_stageOf (h : Transcript stages exchange answers requests result)
    (hs : .api ∉ stages.tail) {i : Nat} {request : Request} (hr : requests[i]? = some request) :
    (stageOf stages i request).Logs (answerTo answers i) request := by
  obtain ⟨stage, hm, hl, hfirst⟩ := h.logs hr
  suffices hstage : stageOf stages i request = stage by rwa [hstage]
  have hh := hl.headers
  unfold stageOf
  cases stage with
  | manifest => simp [hh]
  | token =>
      have hopening : ¬ (i = 0 ∧ stages.head? = some .api) := fun ⟨hi, ha⟩ => nomatch hfirst hi ha
      simp [hh, hopening]
  | api => simp [hh, opening_of_mem_drop hs hm]

end Transcript

def Request.address (request : Request) : List Symbol × Option Headers :=
  (request.url, request.headers)

namespace Conversation

variable {α : Type} {stages : List Stage} {exchange : Exchange α}

theorem run_of_agree (h : Conversation stages exchange) {answers others : List Answer}
    (ha : ∀ i < (exchange.run answers).requests.length, answerTo others i = answerTo answers i) :
    (exchange.run others).result = (exchange.run answers).result ∧
      (exchange.run others).requests = (exchange.run answers).requests := by
  induction h generalizing answers others with
  | returned => exact ⟨rfl, rfl⟩
  | stopped => exact ⟨rfl, rfl⟩
  | unasked _ ih => exact ih ha
  | @asked stage stages endpoint url headers next _ hn ih =>
      have hnext (arrival : Arrival) := (hn arrival).framed
      obtain ⟨read, ⟨fault, hrun⟩ | ⟨arrival, hrun⟩⟩ :=
        run_send_cases endpoint url headers stage.reads hnext (nextAnswer answers)
      · rw [hrun answers rfl] at ha ⊢
        rw [hrun others (nextAnswer_of_agree (ha 0 (Nat.succ_pos _)))]
        exact ⟨rfl, rfl⟩
      · rw [hrun answers rfl] at ha ⊢
        rw [hrun others (nextAnswer_of_agree (ha 0 (Nat.succ_pos _)))]
        obtain ⟨hresult, hrequests⟩ := ih arrival (agree_drop_one ha)
        exact ⟨hresult, congrArg (_ :: ·) hrequests⟩

theorem address_send (endpoint : Endpoint) (url : List Symbol) (headers : Option Headers)
    (reads : Int → Bool) {next : Arrival → Exchange α} (hn : ∀ arrival, Framed (next arrival))
    (answers : List Answer) :
    ((send endpoint url headers reads >>= next).run answers).requests[0]?.map Request.address =
      some (url, headers) := by
  obtain ⟨read, ⟨fault, hrun⟩ | ⟨arrival, hrun⟩⟩ :=
    run_send_cases endpoint url headers reads hn (nextAnswer answers)
  · rw [hrun answers rfl]
    rfl
  · rw [hrun answers rfl]
    rfl

theorem requests_of_agree (h : Conversation stages exchange) {answers others : List Answer}
    {i : Nat} (ha : ∀ j < i, answerTo others j = answerTo answers j) :
    (exchange.run others).requests.take i = (exchange.run answers).requests.take i ∧
      (exchange.run others).requests[i]?.map Request.address =
        (exchange.run answers).requests[i]?.map Request.address := by
  induction h generalizing answers others i with
  | returned => exact ⟨rfl, rfl⟩
  | stopped => exact ⟨rfl, rfl⟩
  | unasked _ ih => exact ih ha
  | @asked stage stages endpoint url headers next _ hn ih =>
      have hnext (arrival : Arrival) := (hn arrival).framed
      cases i with
      | zero =>
          have haddress := address_send endpoint url headers stage.reads hnext
          exact ⟨rfl, (haddress others).trans (haddress answers).symm⟩
      | succ i =>
          have hfirst := nextAnswer_of_agree (ha 0 (Nat.succ_pos i))
          obtain ⟨read, ⟨fault, hrun⟩ | ⟨arrival, hrun⟩⟩ :=
            run_send_cases endpoint url headers stage.reads hnext (nextAnswer answers)
          · rw [hrun answers rfl, hrun others hfirst]
            exact ⟨rfl, rfl⟩
          · rw [hrun answers rfl, hrun others hfirst]
            obtain ⟨htake, haddress⟩ := ih arrival (agree_drop_one ha)
            exact ⟨congrArg (_ :: ·) htake, haddress⟩

end Conversation

end ImageRegistry
