import ImageRegistry.Proofs.Text.Pieces
import ImageRegistry.Proofs.Text.Utf8
import ImageRegistry.Url.Form

namespace ImageRegistry.Url

open Text

section Option

variable {α β : Type} {f : α → Option β} {xs : List α} {ys : List β}

theorem mapM_eq_some_iff : xs.mapM f = some ys ↔ xs.map f = ys.map some := by
  induction xs generalizing ys with
  | nil => cases ys <;> simp
  | cons x xs ih =>
      rw [List.mapM_cons, List.map_cons]
      cases hx : f x with
      | none => cases ys <;> simp
      | some y =>
          cases ys with
          | nil => simp [Option.bind_eq_some_iff]
          | cons y' ys =>
              rw [List.map_cons, List.cons.injEq, ← ih]
              cases xs.mapM f <;> simp

theorem mapM_isSome_iff : (xs.mapM f).isSome ↔ ∀ x ∈ xs, (f x).isSome := by
  induction xs with
  | nil => simp
  | cons x xs ih =>
      rw [List.mapM_cons, List.forall_mem_cons, ← ih]
      cases hx : f x with
      | none => simp
      | some y => cases hxs : xs.mapM f <;> simp

theorem map_of_map_eq_some {g : β → α} (h : xs.map f = ys.map some)
    (hg : ∀ x y, f x = some y → g y = x) : ys.map g = xs := by
  induction xs generalizing ys with
  | nil => simpa using h.symm
  | cons x xs ih =>
      cases ys with
      | nil => cases h
      | cons y ys =>
          obtain ⟨hx, hxs⟩ := List.cons.inj h
          rw [List.map_cons, hg x y hx, ih hxs]

end Option

theorem bytes_cons_of_ne {c : Char} (h : c ≠ '%') (rest : List Char) :
    bytes (c :: rest) = Utf8.encodeChar c ++ bytes rest := by
  cases rest with
  | nil => simp [bytes]
  | cons a rest =>
      cases rest with
      | nil => rw [bytes, bytes]
      | cons b rest => rw [bytes, if_neg h]

theorem hexValue?_hexDigit : ∀ n < 16, hexValue? (hexDigit n) = some n := by
  decide

theorem isUnreserved_hexDigit : ∀ n < 16, isUnreserved (hexDigit n) = true := by
  decide

theorem byte?_hexDigit (byte : UInt8) :
    byte? (hexDigit (byte.toNat / 16)) (hexDigit (byte.toNat % 16)) = some byte := by
  have hb : byte.toNat < 256 := byte.toNat_lt
  have hn : UInt8.ofNat (16 * (byte.toNat / 16) + byte.toNat % 16) = byte := by
    rw [Nat.div_add_mod, UInt8.ofNat_toNat]
  simp only [byte?, hexValue?_hexDigit (byte.toNat / 16) (by omega),
    hexValue?_hexDigit (byte.toNat % 16) (by omega)]
  exact congrArg some hn

theorem bytes_encodeByte (byte : UInt8) (rest : List Char) :
    bytes (encodeByte byte ++ rest) = byte :: bytes rest := by
  simp only [encodeByte, List.cons_append, List.nil_append, bytes, if_true, byte?_hexDigit]

theorem plusToSpace_of_ne {c : Char} (h : c ≠ '+') : plusToSpace c = c :=
  if_neg h

theorem ne_plus_of_isUnreserved {c : Char} (h : isUnreserved c = true) : c ≠ '+' := by
  rintro rfl
  exact absurd h (by decide)

theorem map_plusToSpace_encodeByte (byte : UInt8) :
    (encodeByte byte).map plusToSpace = encodeByte byte := by
  have hb : byte.toNat < 256 := byte.toNat_lt
  have hdigit (n : Nat) (h : n < 16) : plusToSpace (hexDigit n) = hexDigit n :=
    plusToSpace_of_ne (ne_plus_of_isUnreserved (isUnreserved_hexDigit n h))
  simp only [encodeByte, List.map_cons, List.map_nil, hdigit (byte.toNat / 16) (by omega),
    hdigit (byte.toNat % 16) (by omega)]
  rfl

theorem bytes_encodeBytes (sent : List UInt8) (rest : List Char) :
    bytes ((sent.flatMap encodeByte).map plusToSpace ++ rest) = sent ++ bytes rest := by
  induction sent with
  | nil => rfl
  | cons byte sent ih =>
      rw [List.flatMap_cons, List.map_append, map_plusToSpace_encodeByte, List.append_assoc,
        bytes_encodeByte, ih, List.cons_append]

theorem bytes_encodeChar (c : Char) (rest : List Char) :
    bytes ((encodeChar c).map plusToSpace ++ rest) = Utf8.encodeChar c ++ bytes rest := by
  unfold encodeChar
  split
  · next h =>
      have hp : c ≠ '%' := by
        rintro rfl
        exact absurd h (by decide)
      rw [List.map_singleton, plusToSpace_of_ne (ne_plus_of_isUnreserved h),
        List.singleton_append, bytes_cons_of_ne hp]
  · split
    · next h =>
        subst h
        exact bytes_cons_of_ne (by decide) rest
    · exact bytes_encodeBytes _ rest

def encode (text : List Char) : List Char :=
  text.flatMap encodeChar

theorem encode?_symbolsOf (text : List Char) : encode? (symbolsOf text) = some (encode text) := by
  have hm : (symbolsOf text).mapM encodeSymbol? = some (text.map encodeChar) := by
    rw [mapM_eq_some_iff, symbolsOf, List.map_map, List.map_map]
    rfl
  rw [encode?, hm, Option.map_some, encode, List.flatMap_def]

theorem whole_of_encode? {text : List Symbol} {written : List Char}
    (h : encode? text = some written) : Whole text := by
  obtain ⟨parts, hparts, -⟩ := Option.map_eq_some_iff.1 h
  intro code hm
  have hnone : none ∈ parts.map some :=
    mapM_eq_some_iff.1 hparts ▸ List.mem_map_of_mem (f := encodeSymbol?) hm
  simp at hnone

theorem encode?_eq_some_iff {text : List Symbol} {written : List Char} :
    encode? text = some written ↔ ∃ plain, text = symbolsOf plain ∧ written = encode plain := by
  constructor
  · intro h
    obtain ⟨plain, rfl⟩ := (whole_of_encode? h).exists_eq
    rw [encode?_symbolsOf] at h
    exact ⟨plain, rfl, (Option.some.inj h).symm⟩
  · rintro ⟨plain, rfl, rfl⟩
    exact encode?_symbolsOf plain

theorem isSome_encode?_iff {text : List Symbol} : (encode? text).isSome ↔ Whole text := by
  constructor
  · intro h
    obtain ⟨written, he⟩ := Option.isSome_iff_exists.1 h
    exact whole_of_encode? he
  · intro h
    obtain ⟨plain, rfl⟩ := h.exists_eq
    rw [encode?_symbolsOf, Option.isSome_some]

theorem bytes_encode (text : List Char) :
    bytes ((encode text).map plusToSpace) = Utf8.encode text := by
  induction text with
  | nil => rfl
  | cons c text ih =>
      have hc := bytes_encodeChar c ((encode text).map plusToSpace)
      rw [ih, ← List.map_append] at hc
      exact hc

theorem decodeBehind_symbolsOf (run text : List Char) :
    decodeBehind run (symbolsOf text) = symbolsOf (decodeRun (run ++ text)) := by
  induction text generalizing run with
  | nil => simp [symbolsOf, decodeBehind]
  | cons c text ih =>
      have hc := ih (run ++ [c])
      rw [List.append_assoc, List.singleton_append] at hc
      exact hc

theorem decode_encode? {text : List Symbol} {written : List Char}
    (h : encode? text = some written) : decode (symbolsOf written) = text := by
  obtain ⟨plain, rfl, rfl⟩ := encode?_eq_some_iff.1 h
  rw [decode, decodeBehind_symbolsOf, List.nil_append, decodeRun, bytes_encode,
    Utf8.decodeLossy_encode]

def isWritten (c : Char) : Bool :=
  isUnreserved c || c == '+' || c == '%'

theorem isWritten_of_mem_encodeByte {byte : UInt8} {c : Char} (h : c ∈ encodeByte byte) :
    isWritten c = true := by
  have hb : byte.toNat < 256 := byte.toNat_lt
  have hdigit (n : Nat) (hn : n < 16) : isWritten (hexDigit n) = true := by
    rw [isWritten, isUnreserved_hexDigit n hn]
    rfl
  simp only [encodeByte, List.mem_cons, List.not_mem_nil, or_false] at h
  rcases h with rfl | rfl | rfl
  · decide
  · exact hdigit _ (by omega)
  · exact hdigit _ (by omega)

theorem isWritten_of_mem_encode {text : List Char} {c : Char} (h : c ∈ encode text) :
    isWritten c = true := by
  obtain ⟨x, -, hx⟩ := List.mem_flatMap.1 h
  unfold encodeChar at hx
  split at hx
  · next hu =>
      rw [List.mem_singleton.1 hx, isWritten, hu]
      rfl
  · split at hx
    · rw [List.mem_singleton.1 hx]
      decide
    · obtain ⟨byte, -, hb⟩ := List.mem_flatMap.1 hx
      exact isWritten_of_mem_encodeByte hb

theorem not_mem_of_encode? {mark : Char} (h : isWritten mark = false) {text : List Symbol}
    {written : List Char} (he : encode? text = some written) : mark ∉ written := by
  obtain ⟨plain, -, rfl⟩ := encode?_eq_some_iff.1 he
  exact fun hm => Bool.false_ne_true (h.symm.trans (isWritten_of_mem_encode hm))

section Pairs

variable {pair : List Symbol × List Symbol} {pairs : Pairs} {written : List Char}

theorem writePair?_eq_some_iff :
    writePair? pair = some written ↔
      ∃ name value, encode? pair.1 = some name ∧ encode? pair.2 = some value ∧
        written = name ++ '=' :: value := by
  simp [writePair?, Option.bind_eq_some_iff, eq_comm (a := written)]

theorem not_mem_of_writePair? {mark : Char} (h : isWritten mark = false) (he : mark ≠ '=')
    (hw : writePair? pair = some written) : mark ∉ written := by
  obtain ⟨name, value, hn, hv, rfl⟩ := writePair?_eq_some_iff.1 hw
  simp [not_mem_of_encode? h hn, not_mem_of_encode? h hv, he]

theorem readPair_writePair? (h : writePair? pair = some written) :
    readPair (symbolsOf written) = pair := by
  obtain ⟨name, value, hn, hv, rfl⟩ := writePair?_eq_some_iff.1 h
  have hmark : Symbol.char '=' ∉ symbolsOf name := fun hm =>
    not_mem_of_encode? (by decide) hn (char_mem_symbolsOf.1 hm)
  have hc := cutFirst_append (symbolsOf value) hmark
  have hs : symbolsOf (name ++ '=' :: value) = symbolsOf name ++ .char '=' :: symbolsOf value := by
    simp [symbolsOf]
  rw [readPair, hs, hc]
  simp only [decode_encode? hn, decode_encode? hv]

theorem writePairs?_eq_some_iff :
    writePairs? pairs = some written ↔
      ∃ parts, pairs.map writePair? = parts.map some ∧ written = ['&'].intercalate parts := by
  simp only [writePairs?, Option.map_eq_some_iff, mapM_eq_some_iff, List.intercalate]
  exact exists_congr fun parts => and_congr_right fun _ => eq_comm

theorem writePair?_of_mem {parts : List (List Char)} {part : List Char}
    (h : pairs.map writePair? = parts.map some) (hp : part ∈ parts) :
    ∃ pair ∈ pairs, writePair? pair = some part :=
  List.mem_map.1 (h ▸ List.mem_map_of_mem hp)

theorem writePairs?_ne_nil (h : writePairs? pairs = some written) (hne : pairs ≠ []) :
    written ≠ [] := by
  obtain ⟨parts, hparts, rfl⟩ := writePairs?_eq_some_iff.1 h
  have hp : parts ≠ [] := by
    rintro rfl
    exact hne (by simpa using hparts)
  obtain ⟨part, hm⟩ := List.exists_mem_of_ne_nil parts hp
  obtain ⟨pair, -, hw⟩ := writePair?_of_mem hparts hm
  obtain ⟨name, value, -, -, rfl⟩ := writePair?_eq_some_iff.1 hw
  have he : '=' ∈ name ++ '=' :: value := by simp
  exact List.ne_nil_of_mem (mem_intercalate_of_mem hm he)

theorem not_mem_of_writePairs? {mark : Char} (hw : isWritten mark = false) (he : mark ≠ '=')
    (hand : mark ≠ '&') (h : writePairs? pairs = some written) : mark ∉ written := by
  obtain ⟨parts, hparts, rfl⟩ := writePairs?_eq_some_iff.1 h
  intro hm
  rcases mem_intercalate hm with hm | ⟨part, hp, hm⟩
  · exact hand hm
  · obtain ⟨pair, -, hpair⟩ := writePair?_of_mem hparts hp
    exact not_mem_of_writePair? hw he hpair hm

theorem symbolsOf_intercalate (mark : Char) (parts : List (List Char)) :
    symbolsOf ([mark].intercalate parts) =
      [Symbol.char mark].intercalate (parts.map symbolsOf) := by
  induction parts with
  | nil => rfl
  | cons part parts ih =>
      cases parts with
      | nil => simp
      | cons next parts =>
          rw [List.map_cons, List.map_cons, List.intercalate_cons_cons,
            List.intercalate_cons_cons, ← List.map_cons, ← ih]
          simp [symbolsOf]

theorem readPairs_writePairs? (h : writePairs? pairs = some written) :
    readPairs (symbolsOf written) = pairs := by
  obtain ⟨parts, hparts, rfl⟩ := writePairs?_eq_some_iff.1 h
  by_cases hne : parts = []
  · subst hne
    rw [List.map_nil, List.map_eq_nil_iff] at hparts
    rw [hparts]
    rfl
  · have hpieces : pieces (.char '&') (symbolsOf (['&'].intercalate parts)) =
        parts.map symbolsOf := by
      rw [symbolsOf_intercalate]
      refine pieces_intercalate (fun part hp => ?_) (by simpa using hne)
      obtain ⟨text, ht, rfl⟩ := List.mem_map.1 hp
      obtain ⟨pair, -, hw⟩ := writePair?_of_mem hparts ht
      exact fun hm => not_mem_of_writePair? (by decide) (by decide) hw (char_mem_symbolsOf.1 hm)
    have hfilled : (parts.map symbolsOf).filter (fun piece => !piece.isEmpty) =
        parts.map symbolsOf := by
      refine List.filter_eq_self.2 fun piece hp => ?_
      obtain ⟨text, ht, rfl⟩ := List.mem_map.1 hp
      obtain ⟨pair, -, hw⟩ := writePair?_of_mem hparts ht
      obtain ⟨name, value, -, -, rfl⟩ := writePair?_eq_some_iff.1 hw
      simp [symbolsOf]
    rw [readPairs, hpieces, hfilled, List.map_map]
    exact map_of_map_eq_some hparts fun pair part hw => readPair_writePair? hw

theorem isSome_writePair?_iff : (writePair? pair).isSome ↔ Whole pair.1 ∧ Whole pair.2 := by
  rw [← isSome_encode?_iff, ← isSome_encode?_iff, writePair?]
  cases encode? pair.1 <;> cases encode? pair.2 <;> simp

theorem isSome_writePairs?_iff :
    (writePairs? pairs).isSome ↔ ∀ pair ∈ pairs, Whole pair.1 ∧ Whole pair.2 := by
  rw [writePairs?, Option.isSome_map, mapM_isSome_iff]
  exact forall₂_congr fun pair _ => isSome_writePair?_iff

end Pairs

end ImageRegistry.Url
