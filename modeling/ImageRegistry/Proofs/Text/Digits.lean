import Mathlib.Data.List.Basic
import Mathlib.Data.List.Induction
import Mathlib.Data.List.TakeWhile
import ImageRegistry.Proofs.Text.Pieces
import ImageRegistry.Text.Digits

namespace ImageRegistry.Text

section Value

theorem decimalValue_concat (digits : List Char) (c : Char) :
    decimalValue (digits ++ [c]) = 10 * decimalValue digits + digitValue c := by
  rw [decimalValue, List.foldl_concat, ← decimalValue]

theorem toNat_le_of_isDigit {c : Char} (h : c.isDigit = true) : c.toNat ≤ 57 := by
  have hle : c.val ≤ 57 := of_decide_eq_true (Bool.and_eq_true_iff.1 h).2
  exact UInt32.le_iff_toNat_le.1 hle

theorem toNat_lt_of_isDigit {c : Char} (h : c.isDigit = true) : c.toNat < 0x80 :=
  Nat.lt_of_le_of_lt (toNat_le_of_isDigit h) (by decide)

theorem digitValue_lt {c : Char} (h : c.isDigit = true) : digitValue c < 10 := by
  have hn := toNat_le_of_isDigit h
  have hz : '0'.toNat = 48 := rfl
  rw [digitValue, hz]
  omega

theorem decimalValue_lt {digits : List Char} (h : ∀ c ∈ digits, c.isDigit = true) :
    decimalValue digits < Nat.pow 10 digits.length := by
  induction digits using List.reverseRecOn with
  | nil => decide
  | append_singleton digits c ih =>
      obtain ⟨hd, hc⟩ := List.forall_mem_append.1 h
      have hv := ih hd
      have hl := digitValue_lt (hc c List.mem_cons_self)
      have hp : Nat.pow 10 (digits.length + 1) = Nat.pow 10 digits.length * 10 := rfl
      rw [decimalValue_concat, List.length_append, List.length_singleton, hp]
      omega

theorem decimalValue_append (front digits : List Char) :
    decimalValue (front ++ digits) = Nat.ofDigitChars 10 digits (decimalValue front) :=
  Nat.ofDigitChars_append 0

theorem decimalValue_zeros_append (count : Nat) (digits : List Char) :
    decimalValue (List.replicate count '0' ++ digits) = decimalValue digits := by
  have hz : decimalValue (List.replicate count '0') = 0 := Nat.ofDigitChars_replicate_zero
  rw [decimalValue_append, hz]
  rfl

theorem decimalValue_append_zeros (digits : List Char) (count : Nat) :
    decimalValue (digits ++ List.replicate count '0') = Nat.pow 10 count * decimalValue digits := by
  rw [decimalValue_append]
  exact Nat.ofDigitChars_replicate_zero

theorem decimalValue_toDigits (n : Nat) : decimalValue (Nat.toDigits 10 n) = n :=
  Nat.ofDigitChars_ten_toDigits

end Value

theorem isDigit_padded (width n : Nat) : ∀ c ∈ padded 10 width n, c.isDigit = true := by
  intro c hc
  rcases List.mem_append.1 hc with hz | hd
  · rw [List.eq_of_mem_replicate hz]
    rfl
  · exact Nat.isDigit_of_mem_toDigits (by decide) (by decide) hd

structure IsNumeral (width n : Nat) (digits : List Char) : Prop where
  length : digits.length = width
  isDigit : ∀ c ∈ digits, c.isDigit = true
  value : decimalValue digits = n

theorem isNumeral_padded {width n : Nat} (hw : 0 < width) (h : n < Nat.pow 10 width) :
    IsNumeral width n (padded 10 width n) where
  length := by
    have hl := (Nat.length_toDigits_le_iff (by decide) hw).2 h
    rw [padded, List.length_append, List.length_replicate]
    omega
  isDigit := isDigit_padded width n
  value := by
    unfold padded
    rw [decimalValue_zeros_append, decimalValue_toDigits]

section Integer

theorem isDigitMark_of_isDigit {c : Char} (h : c.isDigit = true) : isDigitMark c = true := by
  rw [isDigitMark, h]
  rfl

theorem isDigit_of_isDigitMark {c : Char} (h : isDigitMark c = true) (hc : c ≠ '_') :
    c.isDigit = true := by
  rcases Bool.or_eq_true_iff.1 h with hd | hm
  · exact hd
  · exact absurd (beq_iff_eq.1 hm) hc

theorem natural?_lt {text : List Char} {n : Nat} (h : natural? text = some n) :
    n < Nat.pow 10 text.length := by
  unfold natural? at h
  dsimp only at h
  split at h
  · cases h
    have hd : ∀ c ∈ (text.takeWhile isDigitMark).filter (· ≠ '_'), c.isDigit = true := by
      intro c hc
      obtain ⟨hm, hn⟩ := List.mem_filter.1 hc
      exact isDigit_of_isDigitMark (List.mem_takeWhile_imp hm) (of_decide_eq_true hn)
    have hl : ((text.takeWhile isDigitMark).filter (· ≠ '_')).length ≤ text.length :=
      Nat.le_trans (List.length_filter_le _ _) (List.takeWhile_prefix _).length_le
    rw [flatten_pieces]
    exact Nat.lt_of_lt_of_le (decimalValue_lt hd) (Nat.pow_le_pow_right (by decide) hl)
  · cases h

-- The sign takes one of the places.
theorem integer?_bounds {text : List Char} {n : Int} (h : integer? text = some n) {width : Nat}
    (hl : text.length ≤ width + 1) :
    -(Nat.pow 10 width : Int) < n ∧ n < (Nat.pow 10 (width + 1) : Int) := by
  have hlength : (text.dropWhile isSpace).length ≤ width + 1 :=
    Nat.le_trans (List.dropWhile_suffix isSpace).length_le hl
  have hpow : 0 < Nat.pow 10 width := Nat.pow_pos (by decide)
  have hle : Nat.pow 10 width ≤ Nat.pow 10 (width + 1) :=
    Nat.pow_le_pow_right (by decide) (by omega)
  unfold integer? at h
  split at h
  · next digits hs =>
      obtain ⟨m, hm, rfl⟩ := Option.map_eq_some_iff.1 h
      rw [hs, List.length_cons] at hlength
      have hlt : m < Nat.pow 10 width := Nat.lt_of_lt_of_le (natural?_lt hm)
        (Nat.pow_le_pow_right (by decide) (Nat.le_of_succ_le_succ hlength))
      omega
  · next digits hs =>
      obtain ⟨m, hm, rfl⟩ := Option.map_eq_some_iff.1 h
      rw [hs, List.length_cons] at hlength
      have hlt : m < Nat.pow 10 width := Nat.lt_of_lt_of_le (natural?_lt hm)
        (Nat.pow_le_pow_right (by decide) (Nat.le_of_succ_le_succ hlength))
      omega
  · obtain ⟨m, hm, rfl⟩ := Option.map_eq_some_iff.1 h
    have hlt : m < Nat.pow 10 (width + 1) :=
      Nat.lt_of_lt_of_le (natural?_lt hm) (Nat.pow_le_pow_right (by decide) hlength)
    omega

theorem natural?_numeral {width n : Nat} {digits : List Char} (h : IsNumeral width n digits)
    (hw : 0 < width) : natural? digits = some n := by
  have hm : ∀ c ∈ digits, isDigitMark c = true := fun c hc =>
    isDigitMark_of_isDigit (h.isDigit c hc)
  have hn : '_' ∉ digits := fun hc => absurd (h.isDigit '_' hc) (by decide)
  have hne : digits ≠ [] := by
    rintro rfl
    exact absurd h.length (Nat.ne_of_lt hw)
  have ht : digits.takeWhile isDigitMark = digits := List.takeWhile_eq_self_iff.2 hm
  have hd : digits.dropWhile isDigitMark = [] := List.dropWhile_eq_nil_iff.2 hm
  unfold natural?
  rw [ht, hd, pieces_of_not_mem '_' hn]
  simp [hne, h.value]

theorem integer?_numeral {width n : Nat} {digits : List Char} (h : IsNumeral width n digits)
    (hw : 0 < width) : integer? digits = some (n : Int) := by
  cases digits with
  | nil => exact absurd h.length (Nat.ne_of_lt hw)
  | cons c digits =>
      have hc := h.isDigit c List.mem_cons_self
      have hs : isSpace c = false := by
        rw [Bool.eq_false_iff]
        intro hs
        have hz : '0'.toNat = 48 := rfl
        have hlow := (Char.isDigit_iff_toNat.1 hc).1
        rw [hz] at hlow
        simp only [isSpace, Bool.or_eq_true, beq_iff_eq, Bool.and_eq_true, decide_eq_true_eq] at hs
        rcases hs with rfl | hs
        · exact absurd hc (by decide)
        · omega
      have hplus : c ≠ '+' := by
        rintro rfl
        exact absurd hc (by decide)
      have hminus : c ≠ '-' := by
        rintro rfl
        exact absurd hc (by decide)
      have hd : (c :: digits).dropWhile isSpace = c :: digits :=
        List.dropWhile_cons_of_neg (by simp [hs])
      unfold integer?
      rw [hd]
      split
      · next he => exact absurd (List.cons.inj he).1 hminus
      · next he => exact absurd (List.cons.inj he).1 hplus
      · rw [natural?_numeral h hw]
        rfl

end Integer

end ImageRegistry.Text
