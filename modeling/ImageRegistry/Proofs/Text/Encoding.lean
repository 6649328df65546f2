import ImageRegistry.Proofs.Text.Utf8
import ImageRegistry.Text.Encoding

namespace ImageRegistry.Text

theorem ofCode_toNat (c : Char) : Symbol.ofCode c.toNat = .char c := by
  have hv : c.toNat.isValidChar := c.valid
  rw [Symbol.ofCode, if_pos hv, Char.ofNat_toNat]

namespace Utf8

section Strict

theorem startWithHalves_whole {byte : UInt8} {c : Char} (h : start byte = .whole c) :
    startWithHalves byte = .whole c := by
  unfold startWithHalves
  split
  · next hb =>
      rw [hb] at h
      cases h
  · exact h

theorem startWithHalves_pending {byte : UInt8} {p : Pending} (h : start byte = .pending p) :
    ∃ high, p.high ≤ high ∧ startWithHalves byte = .pending { p with high } := by
  unfold startWithHalves
  split
  · next hb =>
      rw [hb] at h
      cases h
      exact ⟨0xBF, by decide, rfl⟩
  · exact ⟨p.high, Nat.le_refl _, h⟩

theorem accepts_widen {p : Pending} {byte : UInt8} (h : p.accepts byte = true) {high : Nat}
    (hh : p.high ≤ high) : Pending.accepts { p with high } byte = true := by
  rw [Pending.accepts, Bool.and_eq_true, decide_eq_true_eq, decide_eq_true_eq] at h ⊢
  exact ⟨h.1, Nat.le_trans h.2 hh⟩

theorem Pending.Completes.widen {p : Pending} {bytes : List UInt8} {code : Nat}
    (h : p.Completes bytes code) {high : Nat} (hh : p.high ≤ high) :
    Pending.Completes { p with high } bytes code := by
  cases h with
  | last ha hz => exact .last (accepts_widen ha hh) hz
  | next ha hs hc => exact .next (accepts_widen ha hh) hs hc

theorem readFrom_completed {p : Pending} {bytes : List UInt8} {code : Nat}
    (h : p.Completes bytes code) (rest : List UInt8) (position first : Nat) (byte : UInt8) :
    readFrom position (some ⟨first, byte, p⟩) (bytes ++ rest) =
      (readFrom (position + bytes.length) none rest).map (.ofCode code :: ·) := by
  induction h generalizing position with
  | last ha hz =>
      rw [List.singleton_append, readFrom, if_pos ha]
      simp only [hz]
      rfl
  | @next p byte bytes after code ha hs _ ih =>
      rw [List.cons_append, readFrom, if_pos ha, List.length_cons, Nat.add_comm bytes.length,
        ← Nat.add_assoc]
      simp only [hs]
      exact ih (position + 1)

theorem readFrom_written {c : Char} {bytes : List UInt8} (h : Written c bytes)
    (rest : List UInt8) (position : Nat) :
    readFrom position none (bytes ++ rest) =
      (readFrom (position + bytes.length) none rest).map (.char c :: ·) := by
  cases h with
  | whole hs =>
      rw [List.singleton_append, readFrom, startWithHalves_whole hs]
      rfl
  | @pending byte p bytes hs hc =>
      obtain ⟨high, hh, hw⟩ := startWithHalves_pending hs
      rw [List.cons_append, readFrom, hw, List.length_cons, Nat.add_comm bytes.length,
        ← Nat.add_assoc, ← ofCode_toNat]
      exact readFrom_completed (hc.widen hh) rest (position + 1) position byte

theorem decode_encode (position : Nat) (text : List Char) :
    decode position (encode text) = .ok (symbolsOf text) := by
  unfold decode
  induction text generalizing position with
  | nil => rfl
  | cons c text ih =>
      rw [encode, List.flatMap_cons, readFrom_written (written_encodeChar c), ← encode, ih]
      rfl

end Strict

end Utf8

section Wide

theorem write_little_succ (width n : Nat) :
    ByteOrder.write .little (width + 1) n =
      UInt8.ofNat (n % 256) :: ByteOrder.write .little width (n / 256) := by
  have hp (i : Nat) : n / 256 ^ (i + 1) = n / 256 / 256 ^ i := by
    rw [Nat.div_div_eq_div_mul, Nat.pow_succ, Nat.mul_comm]
  simp [ByteOrder.write, List.range_succ_eq_map, hp]

theorem value_little_cons (byte : UInt8) (bytes : List UInt8) :
    ByteOrder.value .little (byte :: bytes) =
      byte.toNat + 256 * ByteOrder.value .little bytes := rfl

theorem value_write_little (width : Nat) {n : Nat} (h : n < Nat.pow 256 width) :
    ByteOrder.value .little (ByteOrder.write .little width n) = n := by
  induction width generalizing n with
  | zero => exact (Nat.lt_one_iff.1 h).symm
  | succ width ih =>
      have hp : Nat.pow 256 (width + 1) = Nat.pow 256 width * 256 := rfl
      have hq : n / 256 < Nat.pow 256 width := by omega
      have hb : (UInt8.ofNat (n % 256)).toNat = n % 256 := Utf8.toNat_byte (by omega)
      rw [write_little_succ, value_little_cons, ih hq, hb]
      omega

theorem value_write (order : ByteOrder) (width : Nat) {n : Nat} (h : n < Nat.pow 256 width) :
    order.value (order.write width n) = n := by
  cases order with
  | little => exact value_write_little width h
  | big =>
      have hr : ByteOrder.write .big width n = (ByteOrder.write .little width n).reverse := rfl
      rw [hr, ByteOrder.value, List.foldl_reverse]
      simp only [Nat.add_comm (256 * _)]
      exact value_write_little width h

variable {order : ByteOrder}

namespace Utf16

theorem codes_write (position : Nat) {n : Nat} (h : n < 0x10000) (bytes : List UInt8) :
    codes order position (order.write 2 n ++ bytes) =
      (codes order (position + 2) bytes).map (n :: ·) := by
  have hv := value_write order 2 h
  obtain ⟨a, b, hw⟩ : ∃ a b, order.write 2 n = [a, b] := by cases order <;> exact ⟨_, _, rfl⟩
  rw [hw] at hv ⊢
  rw [List.cons_append, List.cons_append, List.nil_append, codes, hv]

def codeUnits (c : Char) : List Nat :=
  if c.toNat < 0x10000 then [c.toNat]
  else [0xD800 + (c.toNat - 0x10000) / 0x400, 0xDC00 + (c.toNat - 0x10000) % 0x400]

theorem codes_encodeChar (position : Nat) (c : Char) (bytes : List UInt8) :
    ∃ behind, codes order position (encodeChar order c ++ bytes) =
      (codes order behind bytes).map (codeUnits c ++ ·) := by
  have hv : c.toNat.isValidChar := c.valid
  unfold Nat.isValidChar at hv
  unfold encodeChar codeUnits
  dsimp only
  split
  · next h => exact ⟨position + 2, codes_write position h bytes⟩
  · next h =>
      refine ⟨position + 2 + 2, ?_⟩
      rw [List.append_assoc, codes_write position (by omega), codes_write _ (by omega)]
      cases codes order (position + 2 + 2) bytes <;> rfl

theorem codes_encode (position : Nat) (text : List Char) :
    codes order position (encode order text) = .ok (text.flatMap codeUnits) := by
  induction text generalizing position with
  | nil => rfl
  | cons c text ih =>
      obtain ⟨behind, hc⟩ := @codes_encodeChar order position c (encode order text)
      rw [encode, List.flatMap_cons, ← encode, hc, ih]
      rfl

theorem joinHalves_cons {code : Nat} (h : isHighHalf code = false) (codes : List Nat) :
    joinHalves (code :: codes) = .ofCode code :: joinHalves codes := by
  cases codes with
  | nil => rfl
  | cons low codes =>
      have hp : joinPair? code low = none := by
        rw [joinPair?, h]
        rfl
      rw [joinHalves, hp]

theorem joinPair?_codeUnits {c : Char} (h : 0x10000 ≤ c.toNat) :
    joinPair? (0xD800 + (c.toNat - 0x10000) / 0x400) (0xDC00 + (c.toNat - 0x10000) % 0x400) =
      some c := by
  have hv : c.toNat.isValidChar := c.valid
  unfold Nat.isValidChar at hv
  have hhigh : isHighHalf (0xD800 + (c.toNat - 0x10000) / 0x400) = true := by
    rw [isHighHalf, Bool.and_eq_true, decide_eq_true_eq, decide_eq_true_eq]
    omega
  have hlow : isLowHalf (0xDC00 + (c.toNat - 0x10000) % 0x400) = true := by
    rw [isLowHalf, Bool.and_eq_true, decide_eq_true_eq, decide_eq_true_eq]
    omega
  have hcode : 0x10000 + (0xD800 + (c.toNat - 0x10000) / 0x400 - 0xD800) * 0x400 +
      (0xDC00 + (c.toNat - 0x10000) % 0x400 - 0xDC00) = c.toNat := by omega
  rw [joinPair?, hhigh, hlow, hcode, Char.ofNat_toNat]
  rfl

theorem joinHalves_codeUnits (c : Char) (codes : List Nat) :
    joinHalves (codeUnits c ++ codes) = .char c :: joinHalves codes := by
  have hv : c.toNat.isValidChar := c.valid
  unfold Nat.isValidChar at hv
  unfold codeUnits
  split
  · next h =>
      have hn : isHighHalf c.toNat = false := by
        rw [isHighHalf, Bool.and_eq_false_iff, decide_eq_false_iff_not, decide_eq_false_iff_not]
        omega
      rw [List.singleton_append, joinHalves_cons hn, ofCode_toNat]
  · next h =>
      rw [List.cons_append, List.singleton_append, joinHalves,
        joinPair?_codeUnits (Nat.le_of_not_lt h)]

theorem joinHalves_flatMap (text : List Char) :
    joinHalves (text.flatMap codeUnits) = symbolsOf text := by
  induction text with
  | nil => rfl
  | cons c text ih =>
      rw [List.flatMap_cons, joinHalves_codeUnits, ih]
      rfl

theorem decode_encode (position : Nat) (text : List Char) :
    decode order position (encode order text) = .ok (symbolsOf text) := by
  rw [decode, codes_encode, ← joinHalves_flatMap]
  rfl

end Utf16

namespace Utf32

theorem decode_encode (position : Nat) (text : List Char) :
    decode order position (encode order text) = .ok (symbolsOf text) := by
  induction text generalizing position with
  | nil => rfl
  | cons c text ih =>
      have hc : c.toNat < 0x110000 := by
        have hv : c.toNat.isValidChar := c.valid
        unfold Nat.isValidChar at hv
        omega
      have hp : Nat.pow 256 4 = 0x100000000 := rfl
      have hv := value_write order 4 (n := c.toNat) (by omega)
      obtain ⟨w, x, y, z, hw⟩ : ∃ w x y z, order.write 4 c.toNat = [w, x, y, z] := by
        cases order <;> exact ⟨_, _, _, _, rfl⟩
      rw [hw] at hv
      rw [encode, List.flatMap_cons, ← encode, hw]
      simp only [List.cons_append, List.nil_append, decode, hv, if_pos hc, ofCode_toNat, ih]
      rfl

end Utf32

end Wide

theorem Encoding.decode_encode (encoding : Encoding) (position : Nat) (text : List Char) :
    encoding.decode position (encoding.encode text) = .ok (symbolsOf text) := by
  cases encoding with
  | utf8 => exact Utf8.decode_encode position text
  | utf16 order => exact Utf16.decode_encode position text
  | utf32 order => exact Utf32.decode_encode position text

section FirstBytes

theorem byte_ne_zero {n : Nat} (h : n < 256) (hn : n ≠ 0) : UInt8.ofNat n ≠ 0 := by
  intro he
  have hz := congrArg UInt8.toNat he
  rw [Utf8.toNat_byte h] at hz
  exact hn hz

def Encoding.low (byte : UInt8) : Encoding → List UInt8
  | utf8 => [byte]
  | utf16 .little => [byte, 0]
  | utf16 .big => [0, byte]
  | utf32 .little => [byte, 0, 0, 0]
  | utf32 .big => [0, 0, 0, byte]

theorem write_low {n : Nat} (h : n < 0x80) (width : Nat) :
    ByteOrder.write .little (width + 1) n = UInt8.ofNat n :: List.replicate width 0 := by
  have hz : ByteOrder.write .little width 0 = List.replicate width 0 := by
    induction width with
    | zero => rfl
    | succ width ih =>
        rw [write_little_succ, List.replicate_succ, ← ih]
        rfl
  have hb : n < 256 := by omega
  rw [write_little_succ, Nat.mod_eq_of_lt hb, Nat.div_eq_of_lt hb, hz]

theorem encode_low {c : Char} (h : c.toNat < 0x80) (encoding : Encoding) (rest : List Char) :
    encoding.encode (c :: rest) =
      encoding.low (UInt8.ofNat c.toNat) ++ encoding.encode rest := by
  have hw : c.toNat < 0x10000 := by omega
  have hbig (width : Nat) : ByteOrder.write .big width c.toNat =
      (ByteOrder.write .little width c.toNat).reverse := rfl
  cases encoding with
  | utf8 => simp [Encoding.encode, Utf8.encode, Utf8.encodeChar, h, Encoding.low]
  | utf16 order =>
      cases order <;>
        simp [Encoding.encode, Utf16.encode, Utf16.encodeChar, hw, hbig, write_low h, Encoding.low]
  | utf32 order =>
      cases order <;> simp [Encoding.encode, Utf32.encode, hbig, write_low h, Encoding.low]

theorem Utf8.ne_zero_of_mem_encodeChar {c : Char} (h : c.toNat ≠ 0) :
    ∀ byte ∈ Utf8.encodeChar c, byte ≠ 0 := by
  have hv : c.toNat.isValidChar := c.valid
  unfold Nat.isValidChar at hv
  have hb {n : Nat} (hl : 0 < n) (hh : n < 256) : UInt8.ofNat n ≠ 0 :=
    byte_ne_zero hh (Nat.ne_of_gt hl)
  unfold Utf8.encodeChar
  dsimp only
  split
  · simp only [List.forall_mem_cons]
    exact ⟨hb (by omega) (by omega), nofun⟩
  · split
    · simp only [List.forall_mem_cons]
      exact ⟨hb (by omega) (by omega), hb (by omega) (by omega), nofun⟩
    · split
      · simp only [List.forall_mem_cons]
        exact ⟨hb (by omega) (by omega), hb (by omega) (by omega), hb (by omega) (by omega), nofun⟩
      · simp only [List.forall_mem_cons]
        exact ⟨hb (by omega) (by omega), hb (by omega) (by omega), hb (by omega) (by omega),
          hb (by omega) (by omega), nofun⟩

theorem Utf16.encode_nonzero {c : Char} (h : c.toNat ≠ 0) (order : ByteOrder) (rest : List Char) :
    ∃ a b bytes, Utf16.encode order (c :: rest) = a :: b :: bytes ∧ ¬ (a = 0 ∧ b = 0) := by
  obtain ⟨n, behind, hn, hn', he⟩ : ∃ n behind, n < 0x10000 ∧ n ≠ 0 ∧
      Utf16.encodeChar order c = order.write 2 n ++ behind := by
    have hv : c.toNat.isValidChar := c.valid
    unfold Nat.isValidChar at hv
    unfold Utf16.encodeChar
    dsimp only
    split
    · next hc => exact ⟨c.toNat, [], hc, h, (List.append_nil _).symm⟩
    · exact ⟨_, _, by omega, by omega, rfl⟩
  have hv := value_write order 2 hn
  obtain ⟨a, b, hw⟩ : ∃ a b, order.write 2 n = [a, b] := by cases order <;> exact ⟨_, _, rfl⟩
  refine ⟨a, b, behind ++ Utf16.encode order rest, ?_, ?_⟩
  · rw [Utf16.encode, List.flatMap_cons, he, hw]
    rfl
  · rintro ⟨rfl, rfl⟩
    rw [hw] at hv
    cases order <;> exact hn' hv.symm

end FirstBytes

end ImageRegistry.Text
