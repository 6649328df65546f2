import ImageRegistry.Proofs.Reference.Spelling

namespace ImageRegistry

open Text

namespace Text

theorem getLast?_of_break {text : List Char} (h : '\n' ∉ withoutFinalBreak text)
    (hm : '\n' ∈ text) : text.getLast? = some '\n' := by
  rcases eq_or_eq_append_withoutFinalBreak text with he | he
  · rw [he] at hm
    exact absurd hm h
  · rw [he, List.getLast?_concat]

end Text

namespace Digest

theorem eq_of_isDigest {text : List Char} (h : isDigest text = true) :
    ∃ algorithm digits, text = algorithm ++ ':' :: digits ∧
      width? algorithm = some digits.length ∧
      ∀ c ∈ withoutFinalBreak digits, isHexDigit c = true := by
  unfold isDigest at h
  split at h
  · next algorithm digits hc =>
      rw [Bool.and_eq_true, beq_iff_eq, List.all_eq_true] at h
      exact ⟨algorithm, digits, (eq_of_cutFirst hc).1, h.1, h.2⟩
  · cases h

theorem algorithm_of_width? {algorithm : List Char} {n : Nat} (h : width? algorithm = some n) :
    algorithm = "sha256".toList ∧ n = 64 ∨ algorithm = "sha512".toList ∧ n = 128 := by
  unfold width? at h
  split at h
  · next he => exact .inl ⟨he, (Option.some.inj h).symm⟩
  · split at h
    · next he => exact .inr ⟨he, (Option.some.inj h).symm⟩
    · cases h

theorem isNameChar_of_width? {algorithm : List Char} {n : Nat} (h : width? algorithm = some n) :
    ∀ c ∈ algorithm, Reference.isNameChar c = true := by
  rcases algorithm_of_width? h with ⟨rfl, -⟩ | ⟨rfl, -⟩
  · exact List.all_eq_true.1 rfl
  · exact List.all_eq_true.1 rfl

theorem chars_of_isDigest {text : List Char} (h : isDigest text = true) :
    ∀ c ∈ text, c = ':' ∨ c = '\n' ∨ Reference.isNameChar c = true := by
  obtain ⟨algorithm, digits, rfl, hw, hd⟩ := eq_of_isDigest h
  intro c hc
  rcases List.mem_append.1 hc with hc | hc
  · exact .inr (.inr (isNameChar_of_width? hw c hc))
  · rcases List.mem_cons.1 hc with rfl | hc
    · exact .inl rfl
    · by_cases hb : c = '\n'
      · exact .inr (.inl hb)
      · have hx := hd c (mem_withoutFinalBreak hc hb)
        exact .inr (.inr (isNameChar_of_isHexDigit hx))

theorem written_of_isDigest {text : List Char} (h : isDigest text = true) (hb : '\n' ∉ text) :
    Written text := by
  obtain ⟨algorithm, digits, rfl, hw, hd⟩ := eq_of_isDigest h
  have hn : '\n' ∉ digits := fun hm => hb (List.mem_append_right _ (List.mem_cons_of_mem _ hm))
  rw [withoutFinalBreak_of_not_mem hn] at hd
  rcases algorithm_of_width? hw with ⟨rfl, hl⟩ | ⟨rfl, hl⟩
  · exact .sha256 hl hd
  · exact .sha512 hl hd

theorem Written.break_not_mem {text : List Char} (h : Written text) : '\n' ∉ text :=
  fun hm => absurd (h.isBlank '\n' hm) (by decide)

inductive Shortened : List Char → Prop
  | sha256 {digits : List Char} :
      digits.length = 63 → (∀ c ∈ digits, isHexDigit c = true) →
        Shortened ("sha256".toList ++ ':' :: (digits ++ ['\n']))
  | sha512 {digits : List Char} :
      digits.length = 127 → (∀ c ∈ digits, isHexDigit c = true) →
        Shortened ("sha512".toList ++ ':' :: (digits ++ ['\n']))

theorem withoutFinalBreak_concat (text : List Char) :
    withoutFinalBreak (text ++ ['\n']) = text := by
  rw [withoutFinalBreak, List.getLast?_concat, if_pos rfl, List.dropLast_concat]

theorem isDigest_break {algorithm digits : List Char} (hn : ':' ∉ algorithm)
    (hw : width? algorithm = some (digits.length + 1)) (h : ∀ c ∈ digits, isHexDigit c = true) :
    isDigest (algorithm ++ ':' :: (digits ++ ['\n'])) = true := by
  rw [isDigest, cutFirst_append _ hn]
  simp only [hw, List.length_append, List.length_singleton, beq_self_eq_true, Bool.true_and]
  rw [withoutFinalBreak_concat, List.all_eq_true]
  exact h

theorem Shortened.isDigest {text : List Char} (h : Shortened text) : isDigest text = true := by
  cases h with
  | sha256 hl hc => exact isDigest_break (by decide) (by rw [hl]; decide) hc
  | sha512 hl hc => exact isDigest_break (by decide) (by rw [hl]; decide) hc

theorem Shortened.break_mem {text : List Char} (h : Shortened text) : '\n' ∈ text := by
  cases h <;> simp

theorem shortened_of_isDigest {text : List Char} (h : isDigest text = true) (hb : '\n' ∈ text) :
    Shortened text := by
  obtain ⟨algorithm, digits, rfl, hw, hd⟩ := eq_of_isDigest h
  have ha : '\n' ∉ algorithm := fun hm => absurd (isNameChar_of_width? hw _ hm) (by decide)
  have hm : '\n' ∈ digits := by simpa [ha] using hb
  rcases eq_or_eq_append_withoutFinalBreak digits with he | he
  · rw [← he] at hd
    exact absurd (hd _ hm) (by decide)
  · generalize withoutFinalBreak digits = body at he hd
    subst he
    rw [List.length_append, List.length_singleton] at hw
    rcases algorithm_of_width? hw with ⟨rfl, hl⟩ | ⟨rfl, hl⟩
    · exact .sha256 (Nat.succ_inj.1 hl) hd
    · exact .sha512 (Nat.succ_inj.1 hl) hd

theorem getLast?_of_isDigest {text : List Char} (h : isDigest text = true) (hm : '\n' ∈ text) :
    text.getLast? = some '\n' := by
  cases shortened_of_isDigest h hm with
  | sha256 _ _ => rw [← List.cons_append, ← List.append_assoc, List.getLast?_concat]
  | sha512 _ _ => rw [← List.cons_append, ← List.append_assoc, List.getLast?_concat]

theorem isDigest_iff (text : List Char) : isDigest text = true ↔ Written text ∨ Shortened text := by
  constructor
  · intro h
    by_cases hb : '\n' ∈ text
    · exact .inr (shortened_of_isDigest h hb)
    · exact .inl (written_of_isDigest h hb)
  · rintro (h | h)
    · exact h.isDigest
    · exact h.isDigest

theorem digests_exactly_iff (text : List Char) :
    (isDigest text = true ↔ Written text ∨ Shortened text) ∧
      ((isDigest text = true ↔ Written text) ↔ ¬ Shortened text) := by
  have hi := isDigest_iff text
  refine ⟨hi, fun ha hs => ?_, fun hs => ?_⟩
  · exact (ha.1 hs.isDigest).break_not_mem hs.break_mem
  · rw [hi, or_iff_left hs]

theorem line_break_counted_as_digit :
    ¬ ∀ text : List Char, isDigest text = true ↔ Written text := by
  intro h
  have hs : Shortened ("sha256".toList ++ ':' :: (List.replicate 63 'a' ++ ['\n'])) :=
    .sha256 (by decide) (List.all_eq_true.1 rfl)
  exact ((h _).1 hs.isDigest).break_not_mem hs.break_mem

end Digest

end ImageRegistry
