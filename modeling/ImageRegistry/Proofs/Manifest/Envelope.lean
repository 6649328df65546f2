import ImageRegistry.Manifest.ErrorEnvelope
import ImageRegistry.Proofs.Json.Members

namespace ImageRegistry

open Json (OptionalText)
open Text (textOf)

namespace ErrorEntry

structure WellFormed (value : Json) : Prop where
  code : ∃ code, value.field? "code" = some (.str code)
  message : ∀ message ∈ value.field? "message", message = .null ∨ ∃ text, message = .str text

structure Written (value : Json) (entry : ErrorEntry) : Prop where
  code : ∃ code, value.field? "code" = some (.str code) ∧ entry.code = textOf code
  message : ∃ message, OptionalText (value.field? "message") message ∧
    entry.message = message.getD ""
  detail : entry.detail = (value.field? "detail").getD .null

theorem exists_written_iff {value : Json} : (∃ entry, Written value entry) ↔ WellFormed value := by
  constructor
  · rintro ⟨entry, ⟨code, hc, -⟩, ⟨message, ht, -⟩, -⟩
    exact ⟨⟨code, hc⟩, Json.exists_optionalText_iff.1 ⟨message, ht⟩⟩
  · rintro ⟨⟨code, hc⟩, hm⟩
    obtain ⟨message, ht⟩ := Json.exists_optionalText_iff.2 hm
    exact ⟨⟨textOf code, message.getD "", (value.field? "detail").getD .null⟩,
      ⟨code, hc, rfl⟩, ⟨message, ht, rfl⟩, rfl⟩

theorem ofJson_eq_ok_iff {value : Json} {entry : ErrorEntry} :
    ofJson value = .ok entry ↔ Written value entry := by
  rw [ofJson, bind_eq_ok_iff]
  constructor
  · rintro ⟨members, hm, h⟩
    obtain rfl := Json.members_eq_ok_iff.1 hm
    split at h
    · next code hc =>
        obtain ⟨message, ht, he⟩ := bind_eq_ok_iff.1 h
        cases he
        exact ⟨⟨code, hc, rfl⟩, ⟨message, Json.text?_eq_ok_iff.1 ht, rfl⟩, rfl⟩
    · cases h
  · rintro ⟨⟨code, hc, he⟩, ⟨message, ht, hm⟩, hd⟩
    obtain ⟨members, rfl⟩ := Json.object_of_field? hc
    have hc' : Json.member? "code" members = some (.str code) := hc
    refine ⟨members, rfl, ?_⟩
    rw [hc']
    refine bind_eq_ok_iff.2 ⟨message, Json.text?_eq_ok_iff.2 ht, ?_⟩
    obtain ⟨_, _, _⟩ := entry
    cases he
    cases hm
    cases hd
    rfl

end ErrorEntry

namespace ErrorEnvelope

theorem ofJson_eq_ok_iff {value : Json} {envelope : ErrorEnvelope} :
    ofJson value = .ok envelope ↔
      ∃ items, value.field? "errors" = some (.arr items) ∧
        List.Forall₂ ErrorEntry.Written items envelope.entries := by
  rw [ofJson, bind_eq_ok_iff]
  constructor
  · rintro ⟨members, hm, h⟩
    obtain rfl := Json.members_eq_ok_iff.1 hm
    split at h
    · next first others he =>
        obtain ⟨entry, hf, h⟩ := bind_eq_ok_iff.1 h
        obtain ⟨rest, hr, h⟩ := bind_eq_ok_iff.1 h
        cases h
        refine ⟨_, he, .cons (ErrorEntry.ofJson_eq_ok_iff.1 hf) ?_⟩
        exact (mapM_eq_ok_iff.1 hr).imp fun _ _ => ErrorEntry.ofJson_eq_ok_iff.1
    · cases h
  · rintro ⟨items, he, hw⟩
    obtain ⟨members, rfl⟩ := Json.object_of_field? he
    have he' : Json.member? "errors" members = some (.arr items) := he
    refine ⟨members, rfl, ?_⟩
    rw [he']
    cases hw with
    | cons hf hr =>
        refine bind_eq_ok_iff.2 ⟨_, ErrorEntry.ofJson_eq_ok_iff.2 hf, ?_⟩
        refine bind_eq_ok_iff.2 ⟨envelope.others, ?_, rfl⟩
        exact mapM_eq_ok_iff.2 (hr.imp fun _ _ => ErrorEntry.ofJson_eq_ok_iff.2)

structure Lists (value : Json) (first : Json) (others : List Json) : Prop where
  errors : value.field? "errors" = some (.arr (first :: others))
  wellFormed : ∀ item ∈ first :: others, ErrorEntry.WellFormed item

theorem ofJson_of_lists {value first : Json} {others : List Json}
    (h : Lists value first others) :
    ∃ envelope, ofJson value = .ok envelope ∧ ErrorEntry.Written first envelope.first := by
  obtain ⟨entries, hw⟩ := exists_forall₂_iff.2 fun item hm =>
    ErrorEntry.exists_written_iff.2 (h.wellFormed item hm)
  cases hw with
  | @cons _ entry _ rest hf hr =>
      exact ⟨⟨entry, rest⟩, ofJson_eq_ok_iff.2 ⟨_, h.errors, .cons hf hr⟩, hf⟩

theorem lists_of_ofJson {value : Json} {envelope : ErrorEnvelope}
    (h : ofJson value = .ok envelope) : ∃ first others, Lists value first others := by
  obtain ⟨items, he, hw⟩ := ofJson_eq_ok_iff.1 h
  have hall := exists_forall₂_iff.1 ⟨_, hw⟩
  cases hw with
  | @cons first _ others _ _ _ =>
      refine ⟨first, others, he, fun item hm => ?_⟩
      exact ErrorEntry.exists_written_iff.1 (hall item hm)

end ErrorEnvelope

end ImageRegistry
