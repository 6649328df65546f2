import ImageRegistry.Proofs.Reference.Parts

namespace ImageRegistry.Reference

open Text

inductive Tagged : List Char → List Char → Option (List Char) → Prop
  | bare {text : List Char} : ':' ∉ lastPiece '/' text → Tagged text text none
  | tagged {name tag : List Char} :
      ':' ∉ tag → '/' ∉ tag → Tagged (name ++ ':' :: tag) name (some tag)

theorem splitTag_bare {text : List Char} (h : ':' ∉ lastPiece '/' text) :
    splitTag text = (text, none) := by
  unfold splitTag
  split
  · next name tag hc =>
      -- Without a slash behind it, the colon would be in the last part.
      refine if_pos (Decidable.byContradiction fun hs => h ?_)
      have hn : '/' ∉ ':' :: tag := by simp [hs]
      rw [(eq_of_cutLast hc).1, lastPiece_append hn]
      exact List.mem_append_right _ List.mem_cons_self
  · rfl

theorem exists_tagged (text : List Char) : ∃ name tag, Tagged text name tag := by
  by_cases hm : ':' ∈ lastPiece '/' text
  · obtain ⟨front, tag, hl, hc⟩ := exists_last_mark hm
    obtain ⟨lead, ht⟩ := lastPiece_suffix '/' text
    have hs : '/' ∉ tag := fun hs => not_mem_lastPiece '/' text (by simp [hl, hs])
    rw [hl, ← List.append_assoc] at ht
    rw [← ht]
    exact ⟨lead ++ front, some tag, .tagged hc hs⟩
  · exact ⟨text, none, .bare hm⟩

theorem orLatest_ne_nil (tag : List Char) : orLatest tag ≠ [] := by
  cases tag with
  | nil => decide
  | cons c tag => exact List.cons_ne_nil c tag

theorem not_mem_orLatest {c : Char} {tag : List Char} (hd : c ∉ defaultTag.toList) (h : c ∉ tag) :
    c ∉ orLatest tag :=
  fun hm => (mem_of_mem_orLatest hm).elim hd h

namespace Tagged

variable {text name : List Char} {tag : Option (List Char)}

theorem splitTag_eq (h : Tagged text name tag) : splitTag text = (name, tag) := by
  cases h with
  | bare hb => exact splitTag_bare hb
  | tagged hc hs => exact splitTag_append name hc hs

theorem behind (h : Tagged text name tag) (front : List Char) :
    Tagged (front ++ '/' :: text) (front ++ '/' :: name) tag := by
  cases h with
  | bare hb => exact .bare (by rwa [lastPiece_append_mark])
  | @tagged name tag hc hs =>
      have ht : Tagged (front ++ '/' :: name ++ ':' :: tag) (front ++ '/' :: name) (some tag) :=
        .tagged hc hs
      rwa [List.append_assoc, List.cons_append] at ht

theorem not_mem (h : Tagged text name tag) : ':' ∉ tag.getD [] ∧ '/' ∉ tag.getD [] := by
  cases h with
  | bare _ => simp
  | tagged hc hs => exact ⟨hc, hs⟩

theorem text_cases (h : Tagged text name tag) :
    text = name ++ ':' :: orLatest (tag.getD []) ∨
      orLatest (tag.getD []) = defaultTag.toList ∧ (text = name ∨ text = name ++ [':']) := by
  cases h with
  | bare _ => exact .inr ⟨rfl, .inl rfl⟩
  | @tagged name tag _ _ =>
      cases tag with
      | nil => exact .inr ⟨rfl, .inr rfl⟩
      | cons c tag => exact .inl rfl

theorem colon_mem_iff (h : Tagged text name tag) :
    ':' ∈ lastPiece '/' text ↔ tag.isSome = true := by
  cases h with
  | bare hb => simp [hb]
  | @tagged name tag hc hs =>
      have hn : '/' ∉ ':' :: tag := by simp [hs]
      simp [lastPiece_append hn]

theorem cut_iff (h : Tagged text name tag) :
    (∃ written, text = name ++ ':' :: written) ↔ ':' ∈ lastPiece '/' text := by
  rw [h.colon_mem_iff]
  cases h with
  | bare _ => simp
  | tagged _ _ => simp

theorem chooseTag_eq (h : Tagged text name tag) (digest : Option (List Char)) :
    chooseTag tag digest =
      if digest.isSome = true ∧ ':' ∉ lastPiece '/' text then none
      else some (orLatest (tag.getD [])) := by
  simp only [h.colon_mem_iff]
  cases tag <;> cases digest <;> rfl

theorem repositoryTag_eq {text : String} (h : Tagged text.toList name tag) :
    repositoryTag text = (String.ofList name, String.ofList (orLatest (tag.getD []))) := by
  rw [repositoryTag, h.splitTag_eq]

end Tagged

theorem repositoryTag_written {name tag : String} (hne : tag ≠ "") (hc : ':' ∉ tag.toList)
    (hs : '/' ∉ tag.toList) : repositoryTag (name ++ ":" ++ tag) = (name, tag) := by
  have ht : Tagged (name ++ ":" ++ tag).toList name.toList (some tag.toList) := by
    simpa using Tagged.tagged hc hs
  have he : orLatest tag.toList = tag.toList := orLatest_of_ne_nil (by simpa using hne)
  rw [ht.repositoryTag_eq, Option.getD_some, he, String.ofList_toList, String.ofList_toList]

theorem repositoryTag_behind (front rest : String) :
    repositoryTag (front ++ "/" ++ rest) =
      (front ++ "/" ++ (repositoryTag rest).1, (repositoryTag rest).2) := by
  obtain ⟨name, tag, h⟩ := exists_tagged rest.toList
  have hf : Tagged (front ++ "/" ++ rest).toList (front.toList ++ '/' :: name) tag := by
    simpa using h.behind front.toList
  rw [hf.repositoryTag_eq, h.repositoryTag_eq]
  simp [← String.toList_inj]

-- By the same test on the last part a reference with a digest is left without a tag.
theorem tag_behind_last_colon (text : String) :
    ∃ name tag, repositoryTag text = (name, tag) ∧
      (tag ≠ "" ∧ '/' ∉ tag.toList ∧ ':' ∉ tag.toList) ∧
      (text = name ++ ":" ++ tag ∨ tag = "latest" ∧ (text = name ∨ text = name ++ ":")) ∧
      ((∃ written, text = name ++ ":" ++ written) ↔ ':' ∈ lastPiece '/' text.toList) ∧
      (∀ front rest, text = front ++ "/" ++ rest →
        ∃ behind, name = front ++ "/" ++ behind ∧ repositoryTag rest = (behind, tag)) ∧
      repositoryTag (name ++ ":" ++ tag) = (name, tag) ∧
      ∀ digest, chooseTag (splitTag text.toList).2 digest =
        if digest.isSome = true ∧ ':' ∉ lastPiece '/' text.toList then none
        else some tag.toList := by
  obtain ⟨name, tag, h⟩ := exists_tagged text.toList
  have hne : String.ofList (orLatest (tag.getD [])) ≠ "" := by
    simpa [← String.toList_inj] using orLatest_ne_nil (tag.getD [])
  have hc : ':' ∉ (String.ofList (orLatest (tag.getD []))).toList := by
    simpa using not_mem_orLatest (by decide) h.not_mem.1
  have hs : '/' ∉ (String.ofList (orLatest (tag.getD []))).toList := by
    simpa using not_mem_orLatest (by decide) h.not_mem.2
  refine ⟨_, _, h.repositoryTag_eq, ⟨hne, hs, hc⟩, ?_, ?_, ?_, repositoryTag_written hne hc hs, ?_⟩
  · simpa [← String.toList_inj, defaultTag] using h.text_cases
  · rw [← h.cut_iff]
    constructor
    · rintro ⟨written, hw⟩
      exact ⟨written.toList, by simpa [← String.toList_inj] using hw⟩
    · rintro ⟨written, hw⟩
      exact ⟨String.ofList written, by simpa [← String.toList_inj] using hw⟩
  · rintro front rest rfl
    have hb := repositoryTag_behind front rest
    rw [h.repositoryTag_eq, Prod.mk.injEq] at hb
    exact ⟨_, hb.1, Prod.ext rfl hb.2.symm⟩
  · simpa [h.splitTag_eq] using h.chooseTag_eq

example : repositoryTag "localhost:5000/myapp" = ("localhost:5000/myapp", "latest") := rfl

end ImageRegistry.Reference
