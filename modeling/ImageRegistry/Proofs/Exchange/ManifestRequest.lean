import ImageRegistry.Proofs.Exchange.Classification
import ImageRegistry.Proofs.Exchange.Single

namespace ImageRegistry

open Text (Symbol Charset symbols)

def SparesUnread {α : Type} (reads : Int → Bool) (judge : Arrival → Except Fault α) : Prop :=
  ∀ arrival body, reads arrival.status = false → judge { arrival with body } = judge arrival

theorem SparesUnread.judged {α : Type} {reads : Int → Bool} {judge : Arrival → Except Fault α}
    (h : SparesUnread reads judge) (endpoint : Endpoint) (status : Int) (headers : Headers)
    (charset : Charset) (body : List UInt8) :
    (Answer.arrived ⟨status, headers, charset, .ok body⟩).judged endpoint reads judge =
      judge ⟨status, headers, charset, body⟩ := by
  cases hr : reads status with
  | true => exact Answer.judged_read endpoint reads judge status headers charset body hr
  | false =>
      rw [Answer.judged_skipped endpoint reads judge _ hr]
      exact h ⟨status, headers, charset, body⟩ [] hr

theorem sparesUnread_classifyManifest (url : String) :
    SparesUnread (fun status => !isServerError status)
      fun arrival => classifyManifest arrival.status arrival.body url := by
  intro arrival body hr
  have hs : isServerError arrival.status = true := by simpa using hr
  simp only [classifyManifest_serverError hs]

theorem run_fetchManifest_arrived (r : Reference) (authorization : Option (List Symbol))
    (scheme : String) (response : Response) (rest : List Answer) :
    (fetchManifest r authorization scheme).run (.arrived response :: rest) =
      ⟨(Answer.arrived response).judged (.manifest (r.manifestUrl scheme))
          (fun status => !isServerError status)
          fun arrival => classifyManifest arrival.status arrival.body (r.manifestUrl scheme),
        [⟨symbols (r.manifestUrl scheme), some (manifestHeaders authorization),
          !isServerError response.status⟩],
        rest.length⟩ := by
  rw [fetchManifest_eq, Exchange.run_single, nextAnswer_cons, read_arrived]
  rfl

theorem fetched_as_classified (r : Reference) (authorization : Option (List Symbol))
    (scheme : String) (status : Int) (headers : Headers) (charset : Charset)
    (rest : List Answer) :
    let url := r.manifestUrl scheme
    let fetched (body : Except TransportFailure (List UInt8)) :=
      (fetchManifest r authorization scheme).run (.arrived ⟨status, headers, charset, body⟩ :: rest)
    (∀ body, (fetched (.ok body)).result = classifyManifest status body url) ∧
      (∀ body, (fetched body).requests =
        [⟨symbols url, some (manifestHeaders authorization),
          decide (status < 500 ∨ 599 < status)⟩]) ∧
      (500 ≤ status ∧ status ≤ 599 → ∀ body body', fetched body = fetched body') := by
  intro url fetched
  simp only [fetched, run_fetchManifest_arrived]
  refine ⟨fun body => ?_, fun _ => ?_, fun hs body body' => ?_⟩
  · exact (sparesUnread_classifyManifest url).judged (.manifest url) status headers charset body
  · have hr : (!isServerError status) = decide (status < 500 ∨ 599 < status) := by
      rw [Bool.eq_iff_iff, Bool.not_eq_true', Bool.eq_false_iff, ne_eq, isServerError_iff,
        decide_eq_true_eq]
      omega
    rw [hr]
  · have hr : (!isServerError status) = false := by
      rw [(isServerError_iff status).2 hs]
      rfl
    rw [Answer.judged_skipped _ _ _ _ hr, Answer.judged_skipped _ _ _ _ hr]

theorem fetched_as_classified_of_unreadable :
    ((fetchManifest ⟨"ghcr.io", "org/app", some "v1", none⟩ none "https").run
        [.arrived ⟨599, [], .utf8, .error (.broken "reset")⟩]).result =
      .error (.server "https://ghcr.io/v2/org/app/manifests/v1") := by
  obtain ⟨hread, -, hsame⟩ :=
    fetched_as_classified ⟨"ghcr.io", "org/app", some "v1", none⟩ none "https" 599 [] .utf8 []
  have he := hsame (by decide) (.error (.broken "reset")) (.ok [])
  exact (congrArg Outcome.result he).trans (hread [])

end ImageRegistry
