import ImageRegistry.Text.Utf8

namespace ImageRegistry.Text

theorem scalar_toNat (c : Char) : scalar c.toNat = c := by
  have hv : c.toNat.isValidChar := c.valid
  rw [scalar, if_pos hv, Char.ofNat_toNat]

namespace Utf8

theorem toNat_byte {n : Nat} (h : n < 256) : (UInt8.ofNat n).toNat = n :=
  UInt8.toNat_ofNat_of_lt' h

section Start

theorem start_one {n : Nat} (h : n < 0x80) : start (UInt8.ofNat n) = .whole (scalar n) := by
  rw [start, toNat_byte (by omega)]
  exact if_pos h

theorem start_two : ∀ k < 0x20, 2 ≤ k →
    start (UInt8.ofNat (0xC0 + k)) = .pending ⟨0x80, 0xBF, 0, k⟩ := by
  decide

theorem start_three : ∀ k < 0x10,
    start (UInt8.ofNat (0xE0 + k)) =
      .pending ⟨if k = 0 then 0xA0 else 0x80, if k = 0xD then 0x9F else 0xBF, 1, k⟩ := by
  decide

theorem start_four : ∀ k < 5,
    start (UInt8.ofNat (0xF0 + k)) =
      .pending ⟨if k = 0 then 0x90 else 0x80, if k = 4 then 0x8F else 0xBF, 2, k⟩ := by
  decide

end Start

section Written

theorem accepts_byte {low high bits after m : Nat} (hm : m < 64) (hl : low ≤ 0x80 + m)
    (hh : 0x80 + m ≤ high) :
    Pending.accepts ⟨low, high, after, bits⟩ (UInt8.ofNat (0x80 + m)) = true := by
  rw [Pending.accepts, toNat_byte (by omega), Bool.and_eq_true, decide_eq_true_eq,
    decide_eq_true_eq]
  exact ⟨hl, hh⟩

theorem extend_byte (p : Pending) {m : Nat} (hm : m < 64) :
    p.extend (UInt8.ofNat (0x80 + m)) = p.bits * 64 + m := by
  have hn : (UInt8.ofNat (0x80 + m)).toNat = 0x80 + m := toNat_byte (by omega)
  unfold Pending.extend
  rw [hn, @Nat.add_sub_cancel_left 0x80 m]

inductive Pending.Completes : Pending → List UInt8 → Nat → Prop
  | last {p : Pending} {byte : UInt8} :
      p.accepts byte = true → p.after = 0 → Completes p [byte] (p.extend byte)
  | next {p : Pending} {byte : UInt8} {bytes : List UInt8} {after code : Nat} :
      p.accepts byte = true → p.after = after + 1 →
      Completes ⟨0x80, 0xBF, after, p.extend byte⟩ bytes code → Completes p (byte :: bytes) code

variable {low high bits m code : Nat}

theorem completes_last (hm : m < 64) (hl : low ≤ 0x80 + m) (hh : 0x80 + m ≤ high)
    (hc : bits * 64 + m = code) :
    Pending.Completes ⟨low, high, 0, bits⟩ [UInt8.ofNat (0x80 + m)] code := by
  rw [← hc, ← extend_byte ⟨low, high, 0, bits⟩ hm]
  exact .last (accepts_byte hm hl hh) rfl

theorem completes_next {after : Nat} {bytes : List UInt8} (hm : m < 64) (hl : low ≤ 0x80 + m)
    (hh : 0x80 + m ≤ high) (h : Pending.Completes ⟨0x80, 0xBF, after, bits * 64 + m⟩ bytes code) :
    Pending.Completes ⟨low, high, after + 1, bits⟩ (UInt8.ofNat (0x80 + m) :: bytes) code := by
  rw [← extend_byte ⟨low, high, after + 1, bits⟩ hm] at h
  exact .next (accepts_byte hm hl hh) rfl h

inductive Written (c : Char) : List UInt8 → Prop
  | whole {byte : UInt8} : start byte = .whole c → Written c [byte]
  | pending {byte : UInt8} {p : Pending} {bytes : List UInt8} :
      start byte = .pending p → p.Completes bytes c.toNat → Written c (byte :: bytes)

theorem written_encodeChar (c : Char) : Written c (encodeChar c) := by
  have hv : c.toNat.isValidChar := c.valid
  unfold Nat.isValidChar at hv
  unfold encodeChar
  dsimp only
  split
  · next h1 =>
      refine .whole ?_
      rw [start_one h1, scalar_toNat]
  · split
    · next h1 h2 =>
        exact .pending (start_two (c.toNat / 64) (by omega) (by omega))
          (completes_last (by omega) (by omega) (by omega) (by omega))
    · split
      · next h1 h2 h3 =>
          refine .pending (start_three (c.toNat / 4096) (by omega)) ?_
          refine completes_next (by omega) (by split <;> omega) (by split <;> omega) ?_
          exact completes_last (by omega) (by omega) (by omega) (by omega)
      · next h1 h2 h3 =>
          refine .pending (start_four (c.toNat / 262144) (by omega)) ?_
          refine completes_next (by omega) (by split <;> omega) (by split <;> omega) ?_
          refine completes_next (by omega) (by omega) (by omega) ?_
          exact completes_last (by omega) (by omega) (by omega) (by omega)

end Written

section Units

theorem units_whole {byte : UInt8} {c : Char} (h : start byte = .whole c) (bytes : List UInt8) :
    units none (byte :: bytes) = some c :: units none bytes := by
  rw [units, h]

theorem units_pending {byte : UInt8} {p : Pending} (h : start byte = .pending p)
    (bytes : List UInt8) : units none (byte :: bytes) = units (some p) bytes := by
  rw [units, h]

theorem units_completed {p : Pending} {bytes : List UInt8} {code : Nat}
    (h : p.Completes bytes code) (rest : List UInt8) :
    units (some p) (bytes ++ rest) = some (scalar code) :: units none rest := by
  induction h with
  | last ha hz =>
      rw [List.singleton_append, units, if_pos ha]
      simp only [hz]
  | next ha hs _ ih =>
      rw [List.cons_append, units, if_pos ha]
      simp only [hs]
      exact ih

theorem units_written {c : Char} {bytes : List UInt8} (h : Written c bytes) (rest : List UInt8) :
    units none (bytes ++ rest) = some c :: units none rest := by
  cases h with
  | whole hs => exact units_whole hs rest
  | pending hs hc => rw [List.cons_append, units_pending hs, units_completed hc, scalar_toNat]

theorem units_encode (text : List Char) (bytes : List UInt8) :
    units none (encode text ++ bytes) = text.map some ++ units none bytes := by
  induction text with
  | nil => rfl
  | cons c text ih =>
      rw [encode, List.flatMap_cons, List.append_assoc, units_written (written_encodeChar c)]
      exact congrArg (some c :: ·) ih

end Units

section Boundaries

theorem start_invalid {byte : UInt8} (hl : 0x80 ≤ byte.toNat) (hh : byte.toNat ≤ 0xBF) :
    start byte = .invalid := by
  unfold start
  dsimp only
  rw [if_neg (by omega), if_pos (by omega)]

def Fresh (bytes : List UInt8) : Prop :=
  ∀ byte ∈ bytes.head?, byte.toNat < 0x80 ∨ 0xBF < byte.toNat

variable {bytes : List UInt8}

theorem fresh_of_start {byte : UInt8} (h : start byte ≠ .invalid) (rest : List UInt8) :
    Fresh (byte :: rest) := by
  intro other ho
  cases ho
  by_cases hl : byte.toNat < 0x80
  · exact .inl hl
  · exact .inr (Nat.lt_of_not_le fun hh => h (start_invalid (Nat.le_of_not_lt hl) hh))

theorem Written.fresh {c : Char} (h : Written c bytes) (rest : List UInt8) :
    Fresh (bytes ++ rest) := by
  cases h with
  | whole hs => exact fresh_of_start (by simp [hs]) rest
  | pending hs _ => exact fresh_of_start (by simp [hs]) _

end Boundaries

theorem decodeLossy_encode_append (text : List Char) (bytes : List UInt8) :
    decodeLossy (encode text ++ bytes) = text ++ decodeLossy bytes := by
  rw [decodeLossy, units_encode, List.map_append, List.map_map]
  exact congrArg (· ++ decodeLossy bytes) (List.map_id text)

theorem decodeLossy_encode (text : List Char) : decodeLossy (encode text) = text := by
  have he := decodeLossy_encode_append text []
  rw [List.append_nil] at he
  exact he.trans (List.append_nil text)

end Utf8

end ImageRegistry.Text
