import ImageRegistry.Text.Cut

namespace ImageRegistry.Text

variable {α : Type}

theorem mem_intercalate {mark c : α} {parts : List (List α)}
    (h : c ∈ [mark].intercalate parts) : c = mark ∨ ∃ part ∈ parts, c ∈ part := by
  induction parts with
  | nil =>
      rw [List.intercalate_nil] at h
      cases h
  | cons part parts ih =>
      cases parts with
      | nil =>
          rw [List.intercalate_singleton] at h
          exact .inr ⟨part, List.mem_cons_self, h⟩
      | cons next parts =>
          rw [List.intercalate_cons_cons, List.mem_append, List.mem_append,
            List.mem_singleton] at h
          rcases h with (h | h) | h
          · exact .inr ⟨part, List.mem_cons_self, h⟩
          · exact .inl h
          · exact (ih h).imp_right fun ⟨p, hp, hc⟩ => ⟨p, List.mem_cons_of_mem _ hp, hc⟩

theorem mem_intercalate_of_mem {mark c : α} {part : List α} {parts : List (List α)}
    (hp : part ∈ parts) (hc : c ∈ part) : c ∈ [mark].intercalate parts := by
  induction parts with
  | nil => cases hp
  | cons first parts ih =>
      cases parts with
      | nil =>
          rw [List.intercalate_singleton]
          rwa [List.mem_singleton.1 hp] at hc
      | cons next parts =>
          rw [List.intercalate_cons_cons]
          rcases List.mem_cons.1 hp with rfl | hp
          · exact List.mem_append_left _ (List.mem_append_left _ hc)
          · exact List.mem_append_right _ (ih hp)

variable [DecidableEq α]

theorem append_mark_inj {mark : α} {a a' b b' : List α} (h : mark ∉ a) (h' : mark ∉ a') :
    a ++ mark :: b = a' ++ mark :: b' ↔ a = a' ∧ b = b' := by
  constructor
  · intro he
    have hc := congrArg (cutFirst mark) he
    rw [cutFirst_append b h, cutFirst_append b' h'] at hc
    cases hc
    exact ⟨rfl, rfl⟩
  · rintro ⟨rfl, rfl⟩
    rfl

theorem append_last_mark_inj {mark : α} {a a' b b' : List α} (h : mark ∉ b)
    (h' : mark ∉ b') : a ++ mark :: b = a' ++ mark :: b' ↔ a = a' ∧ b = b' := by
  constructor
  · intro he
    have hc := congrArg (cutLast mark) he
    rw [cutLast_append a h, cutLast_append a' h'] at hc
    cases hc
    exact ⟨rfl, rfl⟩
  · rintro ⟨rfl, rfl⟩
    rfl

theorem pieces_eq_splitOn (mark : α) (text : List α) :
    pieces mark text = text.splitOn mark := by
  induction text with
  | nil => rw [pieces_nil, List.splitOn_nil]
  | cons c text ih =>
      rw [List.splitOn, List.splitOnP_cons_eq_if_modifyHead, ← List.splitOn, ← ih, pieces]
      by_cases hc : c = mark
      · rw [if_pos hc, if_pos (beq_iff_eq.2 hc)]
      · rw [if_neg hc, if_neg (mt beq_iff_eq.1 hc)]
        cases hp : pieces mark text with
        | nil => exact absurd hp (pieces_ne_nil mark text)
        | cons part parts => rfl

theorem intercalate_pieces (mark : α) (text : List α) :
    [mark].intercalate (pieces mark text) = text := by
  rw [pieces_eq_splitOn, List.intercalate_splitOn]

theorem pieces_intercalate {mark : α} {parts : List (List α)}
    (h : ∀ part ∈ parts, mark ∉ part) (hne : parts ≠ []) :
    pieces mark ([mark].intercalate parts) = parts := by
  rw [pieces_eq_splitOn, List.splitOn_intercalate mark h hne]

theorem mem_pieces {mark c : α} {text : List α} (h : c ∈ text) (hc : c ≠ mark) :
    ∃ piece ∈ pieces mark text, c ∈ piece := by
  rw [← intercalate_pieces mark text] at h
  exact (mem_intercalate h).resolve_left hc

theorem mem_of_mem_pieces {mark c : α} {text piece : List α} (hp : piece ∈ pieces mark text)
    (hc : c ∈ piece) : c ∈ text := by
  have hm : c ∈ [mark].intercalate (pieces mark text) := mem_intercalate_of_mem hp hc
  rwa [intercalate_pieces] at hm

theorem pieces_append_mark (mark : α) (a b : List α) :
    pieces mark (a ++ mark :: b) = pieces mark a ++ pieces mark b := by
  induction a with
  | nil => simp [pieces]
  | cons c a ih =>
      by_cases hc : c = mark
      · simp [pieces, hc, ih]
      · obtain ⟨piece, rest, hp⟩ := List.exists_cons_of_ne_nil (pieces_ne_nil mark a)
        simp [pieces, hc, ih, hp]

theorem flatten_pieces (mark : α) (text : List α) :
    (pieces mark text).flatten = text.filter (· ≠ mark) := by
  induction text with
  | nil => rfl
  | cons c text ih =>
      by_cases hc : c = mark
      · simp [pieces, hc, ih]
      · obtain ⟨piece, rest, hp⟩ := List.exists_cons_of_ne_nil (pieces_ne_nil mark text)
        have hf : piece ++ rest.flatten = text.filter (· ≠ mark) := by
          rw [← ih, hp, List.flatten_cons]
        simp [pieces, hc, hp, hf]

theorem exists_last_mark {mark : α} {text : List α} (h : mark ∈ text) :
    ∃ front last, text = front ++ mark :: last ∧ mark ∉ last := by
  cases hc : cutLast mark text with
  | none => exact absurd h (cutLast_eq_none_iff.1 hc)
  | some parts => exact ⟨parts.1, parts.2, eq_of_cutLast hc⟩

def lastPiece (mark : α) (text : List α) : List α :=
  (pieces mark text).getLast (pieces_ne_nil mark text)

theorem lastPiece_of_not_mem {mark : α} {text : List α} (h : mark ∉ text) :
    lastPiece mark text = text := by
  simp only [lastPiece, pieces_of_not_mem mark h, List.getLast_singleton]

theorem lastPiece_append_mark (mark : α) (a b : List α) :
    lastPiece mark (a ++ mark :: b) = lastPiece mark b := by
  simp only [lastPiece, pieces_append_mark]
  exact List.getLast_append_right (pieces_ne_nil mark b)

theorem not_mem_lastPiece (mark : α) (text : List α) : mark ∉ lastPiece mark text := by
  by_cases hm : mark ∈ text
  · obtain ⟨front, last, rfl, hl⟩ := exists_last_mark hm
    rwa [lastPiece_append_mark, lastPiece_of_not_mem hl]
  · rwa [lastPiece_of_not_mem hm]

theorem lastPiece_suffix (mark : α) (text : List α) : lastPiece mark text <:+ text := by
  by_cases hm : mark ∈ text
  · obtain ⟨front, last, rfl, hl⟩ := exists_last_mark hm
    rw [lastPiece_append_mark, lastPiece_of_not_mem hl, List.append_cons]
    exact List.suffix_append _ _
  · exact ⟨[], lastPiece_of_not_mem hm⟩

theorem lastPiece_append {mark : α} {b : List α} (h : mark ∉ b) (a : List α) :
    lastPiece mark (a ++ b) = lastPiece mark a ++ b := by
  by_cases hm : mark ∈ a
  · obtain ⟨front, last, rfl, hl⟩ := exists_last_mark hm
    have hlb : mark ∉ last ++ b := by simp [hl, h]
    rw [List.append_assoc, List.cons_append, lastPiece_append_mark, lastPiece_append_mark,
      lastPiece_of_not_mem hl, lastPiece_of_not_mem hlb]
  · have hab : mark ∉ a ++ b := by simp [hm, h]
    rw [lastPiece_of_not_mem hm, lastPiece_of_not_mem hab]

end ImageRegistry.Text
