import ImageRegistry.Exchange.Manifest
import ImageRegistry.Proofs.Manifest.Envelope

namespace ImageRegistry

theorem decode_manifest_eq (body : List UInt8) :
    (Manifest.decode body).mapError Fault.ofManifest =
      match Json.decode body with
      | .ok value => (Manifest.ofJson value).mapError Fault.ofManifest
      | .error error => .error (.undecodable error) := by
  rw [Manifest.decode]
  cases Json.decode body with
  | ok value => rfl
  | error error => rfl

theorem decode_envelope_eq (body : List UInt8) :
    ErrorEnvelope.decode body =
      match Json.decode body with
      | .ok value => ErrorEnvelope.ofJson value
      | .error error => .error error := by
  rw [ErrorEnvelope.decode]
  cases Json.decode body with
  | ok value => rfl
  | error error => rfl

section Refusal

variable {status : Int} {body : List UInt8} {url : String}

theorem classifyManifest_refusal (h : 400 ≤ status ∧ status < 500) :
    classifyManifest status body url =
      match ErrorEnvelope.decode body with
      | .ok envelope => .error (.refused envelope.first url)
      | .error error => .error (.undecodable error) := by
  have hn : status ≠ 200 := by omega
  rw [classifyManifest, if_neg hn]
  exact if_pos h

theorem classifyManifest_listed (h : 400 ≤ status ∧ status < 500) {value first : Json}
    {others : List Json} (hd : Json.decode body = .ok value)
    (hl : ErrorEnvelope.Lists value first others) :
    ∃ entry, ErrorEntry.Written first entry ∧
      classifyManifest status body url = .error (.refused entry url) := by
  obtain ⟨envelope, he, hw⟩ := ErrorEnvelope.ofJson_of_lists hl
  refine ⟨envelope.first, hw, ?_⟩
  rw [classifyManifest_refusal h, decode_envelope_eq, hd]
  simp only [he]

theorem classifyManifest_unlisted (h : 400 ≤ status ∧ status < 500)
    (hl : ∀ value first others, Json.decode body = .ok value →
      ¬ ErrorEnvelope.Lists value first others) :
    ∃ error, classifyManifest status body url = .error (.undecodable error) := by
  rw [classifyManifest_refusal h, decode_envelope_eq]
  cases hd : Json.decode body with
  | error error => exact ⟨error, rfl⟩
  | ok value =>
      cases he : ErrorEnvelope.ofJson value with
      | error error => exact ⟨error, by simp only [he]⟩
      | ok envelope =>
          obtain ⟨first, others, hf⟩ := ErrorEnvelope.lists_of_ofJson he
          exact absurd hf (hl value first others hd)

end Refusal

theorem isServerError_iff (status : Int) :
    isServerError status = true ↔ 500 ≤ status ∧ status ≤ 599 := by
  rw [isServerError, Bool.and_eq_true, decide_eq_true_eq, decide_eq_true_eq]
  omega

theorem classifyManifest_serverError {status : Int} (h : isServerError status = true)
    (body : List UInt8) (url : String) :
    classifyManifest status body url = .error (.server url) := by
  have hr := (isServerError_iff status).1 h
  have hn : status ≠ 200 := by omega
  have hs : ¬ (400 ≤ status ∧ status < 500) := by omega
  rw [classifyManifest, if_neg hn, if_neg hs, if_pos h]

theorem classification_by_status (status : Int) (body : List UInt8) (url : String) :
    (status = 200 →
      classifyManifest status body url =
        match Json.decode body with
        | .ok value => (Manifest.ofJson value).mapError Fault.ofManifest
        | .error error => .error (.undecodable error)) ∧
    (400 ≤ status ∧ status ≤ 499 →
      (∀ value first others, Json.decode body = .ok value →
        ErrorEnvelope.Lists value first others →
        ∃ entry, ErrorEntry.Written first entry ∧
          classifyManifest status body url = .error (.refused entry url)) ∧
      ((∀ value first others, Json.decode body = .ok value →
        ¬ ErrorEnvelope.Lists value first others) →
        ∃ error, classifyManifest status body url = .error (.undecodable error))) ∧
    (500 ≤ status ∧ status ≤ 599 → classifyManifest status body url = .error (.server url)) ∧
    (status ≠ 200 → status < 400 ∨ 600 ≤ status →
      classifyManifest status body url =
        .error (.unexpected status url (String.ofList (Text.Utf8.decodeLossy body)))) := by
  refine ⟨?_, ?_, ?_, ?_⟩
  · intro h
    rw [classifyManifest, if_pos h, decode_manifest_eq]
  · intro h
    have hs : 400 ≤ status ∧ status < 500 := by omega
    exact ⟨fun _ _ _ hd hl => classifyManifest_listed hs hd hl, classifyManifest_unlisted hs⟩
  · intro h
    have hn : status ≠ 200 := by omega
    have hs : ¬ (400 ≤ status ∧ status < 500) := by omega
    rw [classifyManifest, if_neg hn, if_neg hs, if_pos ((isServerError_iff status).2 h)]
  · intro hn ho
    have hs : ¬ (400 ≤ status ∧ status < 500) := by omega
    have he : ¬ isServerError status = true := by
      rw [isServerError_iff]
      omega
    rw [classifyManifest, if_neg hn, if_neg hs, if_neg he]

def deniedError : Json :=
  .obj [(Text.symbols "code", Json.text "D"), (Text.symbols "message", .null)]

def deniedBody : List UInt8 :=
  Text.Utf8.encode "\x7b\"errors\":[\x7b\"code\":\"D\",\"message\":null\x7d]\x7d".toList

theorem classification_by_status_refused :
    ∃ entry, entry.code = "D" ∧ entry.message = "" ∧
      classifyManifest 404 deniedBody "https://ghcr.io/v2/" =
        .error (.refused entry "https://ghcr.io/v2/") := by
  have hd : Json.decode deniedBody = .ok (.obj [(Text.symbols "errors", .arr [deniedError])]) := by
    decide +kernel
  have hw : ErrorEntry.WellFormed deniedError := by
    refine ⟨⟨_, rfl⟩, fun message hm => ?_⟩
    cases hm
    exact .inl rfl
  obtain ⟨entry, ⟨⟨_, hc, he⟩, ⟨_, ht, hm⟩, -⟩, h⟩ :=
    ((classification_by_status 404 deniedBody "https://ghcr.io/v2/").2.1 (by decide)).1 _ _ _ hd
      ⟨rfl, List.forall_mem_singleton.2 hw⟩
  cases hc
  cases ht
  exact ⟨entry, he, hm, h⟩

end ImageRegistry
