import ImageRegistry.DecodeError
import ImageRegistry.Proofs.Json.Reader
import ImageRegistry.Proofs.Text.Encoding

namespace ImageRegistry

open Text

namespace Text

def Encoding.mark : Encoding → List UInt8
  | utf8 => [0xEF, 0xBB, 0xBF]
  | utf16 .little => [0xFF, 0xFE]
  | utf16 .big => [0xFE, 0xFF]
  | utf32 .little => [0xFF, 0xFE, 0x00, 0x00]
  | utf32 .big => [0x00, 0x00, 0xFE, 0xFF]

structure Telling (first : Char) (rest : List Char) : Prop where
  low : first.toNat < 0x80
  nonzero : ∀ c ∈ first :: rest, c.toNat ≠ 0

end Text

namespace Json

variable {first : Char} {rest : List Char}

theorem unmarkedEncoding_of_nonzero {bytes : List UInt8} (h : ∀ byte ∈ bytes, byte ≠ 0) :
    unmarkedEncoding bytes = .utf8 := by
  unfold unmarkedEncoding
  split
  · next a b c d bytes => rw [if_neg (h a (by simp)), if_neg (h b (by simp))]
  · next a b => rw [if_neg (h a (by simp)), if_neg (h b (by simp))]
  · rfl

theorem byte_of_telling (h : Telling first rest) :
    UInt8.ofNat first.toNat ≠ 0 ∧ ∀ byte, 0x80 ≤ byte.toNat → UInt8.ofNat first.toNat ≠ byte := by
  have hl := h.low
  have hb : first.toNat < 256 := by omega
  refine ⟨byte_ne_zero hb (h.nonzero first List.mem_cons_self), fun byte hbyte he => ?_⟩
  rw [← he, Utf8.toNat_byte hb] at hbyte
  omega

theorem unmarkedEncoding_encode (h : Telling first rest) (encoding : Encoding) :
    unmarkedEncoding (encoding.encode (first :: rest)) = encoding := by
  obtain ⟨hk, -⟩ := byte_of_telling h
  cases encoding with
  | utf8 =>
      refine unmarkedEncoding_of_nonzero fun byte hb => ?_
      obtain ⟨c, hc, hb⟩ := List.mem_flatMap.1 hb
      exact Utf8.ne_zero_of_mem_encodeChar (h.nonzero c hc) byte hb
  | utf16 order =>
      rw [encode_low h.low]
      -- A second character tells the two widths of the little order apart.
      cases rest with
      | nil =>
          cases order <;> simp [Encoding.low, Encoding.encode, Utf16.encode, unmarkedEncoding, hk]
      | cons second rest =>
          obtain ⟨a, b, bytes, he, hz⟩ :=
            Utf16.encode_nonzero (h.nonzero second (by simp)) order rest
          rw [Encoding.encode, he]
          cases order <;> simp [Encoding.low, unmarkedEncoding, hk, hz]
  | utf32 order =>
      rw [encode_low h.low]
      cases order <;> simp [Encoding.low, unmarkedEncoding, hk]

theorem find?_marks_encode (h : Telling first rest) (encoding : Encoding) :
    marks.find? (fun mark => mark.1.isPrefixOf (encoding.encode (first :: rest))) = none := by
  obtain ⟨hk, hh⟩ := byte_of_telling h
  have hff := hh 0xFF (by decide)
  have hfe := hh 0xFE (by decide)
  have hef := hh 0xEF (by decide)
  rw [encode_low h.low]
  cases encoding with
  | utf8 => simp [marks, Encoding.low, hk.symm, hff.symm, hfe.symm, hef.symm]
  | utf16 order =>
      cases order with
      | little => simp [marks, Encoding.low, hk.symm, hff.symm, hfe.symm, hef.symm]
      | big => simp [marks, Encoding.low, hk.symm]
  | utf32 order =>
      cases order with
      | little => simp [marks, Encoding.low, hk.symm, hff.symm, hfe.symm, hef.symm]
      | big => simp [marks, Encoding.low]

theorem find?_marks_mark (h : Telling first rest) (encoding : Encoding) :
    marks.find? (fun mark =>
        mark.1.isPrefixOf (encoding.mark ++ encoding.encode (first :: rest))) =
      some (encoding.mark, encoding) := by
  obtain ⟨hk, -⟩ := byte_of_telling h
  rw [encode_low h.low]
  cases encoding with
  | utf8 => simp [marks, Encoding.mark]
  | utf16 order => cases order <;> simp [marks, Encoding.mark, Encoding.low, hk.symm]
  | utf32 order => cases order <;> simp [marks, Encoding.mark]

theorem decodeBody_encode (h : Telling first rest) (encoding : Encoding) :
    decodeBody (encoding.encode (first :: rest)) = .ok (symbolsOf (first :: rest)) := by
  unfold decodeBody
  rw [find?_marks_encode h]
  simp only [unmarkedEncoding_encode h, encoding.decode_encode]

theorem decodeBody_mark (h : Telling first rest) (encoding : Encoding) :
    decodeBody (encoding.mark ++ encoding.encode (first :: rest)) =
      .ok (symbolsOf (first :: rest)) := by
  unfold decodeBody
  rw [find?_marks_mark h]
  simp only [List.drop_left, encoding.decode_encode]

theorem ne_zero_of_isPlain {c : Char} (h : IsPlain (.char c)) : c.toNat ≠ 0 := by
  rcases h with h | h
  · have hc : ¬ c.toNat < 0x20 := of_decide_eq_false h
    omega
  · simp only [isJsonBlank, Bool.or_eq_true, beq_iff_eq, Symbol.char.injEq] at h
    rcases h with ((rfl | rfl) | rfl) | rfl <;> decide

theorem telling_of_readDocument {text : List Char} {value : Json}
    (h : readDocument (symbolsOf text) = .ok value) :
    ∃ first rest, text = first :: rest ∧ Telling first rest := by
  obtain ⟨hlow, hplain⟩ := shape_of_readDocument h
  cases text with
  | nil => cases hlow
  | cons first rest =>
      refine ⟨first, rest, rfl, of_decide_eq_true hlow, fun c hc => ?_⟩
      exact ne_zero_of_isPlain (hplain (.char c) (List.mem_map_of_mem hc))

theorem same_value_in_every_encoding {text : List Char} {value : Json}
    (h : ofText (symbolsOf text) = .ok value) (encoding : Encoding) :
    decode (encoding.encode text) = .ok value ∧
      decode (encoding.mark ++ encoding.encode text) = .ok value := by
  have hdocument : ofDocument (symbolsOf text) = .ok value := by
    unfold ofText at h
    split at h
    · cases h
    · exact h
  obtain ⟨first, rest, rfl, ht⟩ := telling_of_readDocument (mapError_eq_ok_iff.1 hdocument)
  rw [decode, decode, ofBytes, ofBytes, decodeBody_encode ht, decodeBody_mark ht]
  simp only [hdocument]
  exact ⟨rfl, rfl⟩

theorem same_value_in_every_encoding_of_pair :
    let text := ['"', '😀', '"']
    let bytes : List UInt8 := [0x22, 0x00, 0x3D, 0xD8, 0x00, 0xDE, 0x22, 0x00]
    ofText (symbolsOf text) = .ok (.str [.char '😀']) ∧
      decode bytes = .ok (.str [.char '😀']) ∧
      decode (0xFF :: 0xFE :: bytes) = .ok (.str [.char '😀']) := by
  intro text bytes
  have ht : ofText (symbolsOf text) = .ok (.str [.char '😀']) := rfl
  have he : (Encoding.utf16 .little).encode text = bytes := by decide
  have hvalue := same_value_in_every_encoding ht (.utf16 .little)
  rw [he] at hvalue
  exact ⟨ht, hvalue⟩

end Json

end ImageRegistry
