import Mathlib.Data.List.TakeWhile
import ImageRegistry.Json.Reader
import ImageRegistry.Proofs.Json.Members
import ImageRegistry.Proofs.Text.Digits

namespace ImageRegistry.Json

open Decimal Text

def IsPlain (symbol : Symbol) : Prop :=
  isControl symbol = false ∨ isJsonBlank symbol = true

instance (symbol : Symbol) : Decidable (IsPlain symbol) := by
  unfold IsPlain
  infer_instance

def Passes (text rest : List Symbol) : Prop :=
  ∃ front, text = front ++ rest ∧ ∀ symbol ∈ front, IsPlain symbol

namespace Passes

theorem refl (text : List Symbol) : Passes text text :=
  ⟨[], rfl, nofun⟩

theorem trans {text middle rest : List Symbol} (h : Passes text middle)
    (hr : Passes middle rest) : Passes text rest := by
  obtain ⟨front, rfl, hf⟩ := h
  obtain ⟨behind, rfl, hb⟩ := hr
  exact ⟨front ++ behind, (List.append_assoc _ _ _).symm, List.forall_mem_append.2 ⟨hf, hb⟩⟩

theorem cons {symbol : Symbol} {text rest : List Symbol} (hs : IsPlain symbol)
    (h : Passes text rest) : Passes (symbol :: text) rest := by
  obtain ⟨front, rfl, hf⟩ := h
  exact ⟨symbol :: front, rfl, List.forall_mem_cons.2 ⟨hs, hf⟩⟩

end Passes

theorem passes_skipBlank (text : List Symbol) : Passes text (skipBlank text) :=
  ⟨text.takeWhile isJsonBlank, List.takeWhile_append_dropWhile.symm, fun _ hs =>
    .inr (List.mem_takeWhile_imp hs)⟩

theorem passes_of_skipBlank {text rest behind : List Symbol} (h : skipBlank text = behind)
    (hp : Passes behind rest) : Passes text rest :=
  (h ▸ passes_skipBlank text).trans hp

section Texts

theorem isPlain_of_le {c : Char} (h : 0x20 ≤ c.toNat) : IsPlain (.char c) :=
  .inl (decide_eq_false (Nat.not_lt.2 h))

theorem le_toNat_of_le {first c : Char} (h : first ≤ c) : first.toNat ≤ c.toNat :=
  UInt32.le_iff_toNat_le.1 h

theorem isPlain_of_isDigit {c : Char} (h : c.isDigit = true) : IsPlain (.char c) := by
  have hc : '0' ≤ c := of_decide_eq_true (Bool.and_eq_true_iff.1 h).1
  exact isPlain_of_le (Nat.le_trans (by decide) (le_toNat_of_le hc))

theorem isPlain_of_hexSymbol? {symbol : Symbol} {value : Nat}
    (h : hexSymbol? symbol = some value) : IsPlain symbol := by
  cases symbol with
  | half code => exact .inl rfl
  | char c =>
      unfold hexSymbol? hexValue? at h
      dsimp only at h
      split at h
      · next hd => exact isPlain_of_isDigit hd
      · split at h
        · next hl =>
            have hc : 'a' ≤ c := of_decide_eq_true (Bool.and_eq_true_iff.1 hl).1
            exact isPlain_of_le (Nat.le_trans (by decide) (le_toNat_of_le hc))
        · split at h
          · next hu =>
              have hc : 'A' ≤ c := of_decide_eq_true (Bool.and_eq_true_iff.1 hu).1
              exact isPlain_of_le (Nat.le_trans (by decide) (le_toNat_of_le hc))
          · cases h

theorem passes_hexCode? {a b c d : Symbol} {code : Nat} (h : hexCode? a b c d = some code)
    (rest : List Symbol) : Passes (a :: b :: c :: d :: rest) rest := by
  simp only [hexCode?, Option.bind_eq_bind, Option.bind_eq_some_iff] at h
  obtain ⟨_, ha, _, hb, _, hc, _, hd, -⟩ := h
  exact .cons (isPlain_of_hexSymbol? ha) (.cons (isPlain_of_hexSymbol? hb)
    (.cons (isPlain_of_hexSymbol? hc) (.cons (isPlain_of_hexSymbol? hd) (.refl rest))))

theorem isPlain_of_unescape {symbol : Symbol} {c : Char} (h : unescape symbol = some c) :
    IsPlain symbol := by
  unfold unescape at h
  split at h
  all_goals first | decide | cases h

theorem ok_of_consPiece {piece : Piece} {reading : Reading (List Piece)} {pieces : List Piece}
    {rest : List Symbol} (h : consPiece piece reading = .ok (pieces, rest)) :
    ∃ others, reading = .ok (others, rest) := by
  obtain ⟨⟨others, behind⟩, hr, he⟩ := map_eq_ok_iff.1 h
  cases he
  exact ⟨others, hr⟩

theorem passes_readPieces {opening : Nat} {text rest : List Symbol} {pieces : List Piece}
    (h : readPieces opening text = .ok (pieces, rest)) : Passes text rest := by
  fun_induction readPieces opening text generalizing pieces rest with
  | case2 behind =>
      cases h
      exact .cons (by decide) (.refl behind)
  | case5 a b c d behind code hcode _ ih =>
      obtain ⟨others, hr⟩ := ok_of_consPiece h
      exact .cons (by decide) (.cons (by decide) ((passes_hexCode? hcode behind).trans (ih hr)))
  | case7 symbol behind _ c hc ih =>
      obtain ⟨others, hr⟩ := ok_of_consPiece h
      exact .cons (by decide) (.cons (isPlain_of_unescape hc) (ih hr))
  | case11 symbol behind _ _ _ _ hs ih =>
      obtain ⟨others, hr⟩ := ok_of_consPiece h
      exact .cons (.inl (Bool.eq_false_iff.2 hs)) (ih hr)
  | _ => cases h

theorem passes_readText {text rest value : List Symbol} (h : readText text = .ok (value, rest)) :
    Passes text rest := by
  obtain ⟨⟨pieces, behind⟩, hr, he⟩ := map_eq_ok_iff.1 h
  cases he
  exact passes_readPieces hr

theorem passes_readName {text rest name : List Symbol} (h : readName text = .ok (name, rest)) :
    Passes text rest := by
  unfold readName at h
  split at h
  · obtain ⟨⟨value, behind⟩, hr, h⟩ := bind_eq_ok_iff.1 h
    dsimp only at h
    split at h
    · next colon hc =>
        cases h
        have hbehind := passes_of_skipBlank hc (.cons (by decide) (passes_skipBlank colon))
        exact .cons (by decide) ((passes_readText hr).trans hbehind)
    · cases h
  · cases h

end Texts

section Numbers

theorem passes_takeDigits (text : List Symbol) : Passes text (takeDigits text).2 := by
  fun_induction takeDigits text with
  | case1 c rest hd read ih => exact .cons (isPlain_of_isDigit hd) ih
  | case2 c rest hd => exact .refl _
  | case3 text hn => exact .refl _

theorem passes_readWhole {text rest : List Symbol} {digits : List Char}
    (h : readWhole text = some (digits, rest)) : Passes text rest := by
  unfold readWhole at h
  split at h
  · cases h
    exact .cons (by decide) (.refl _)
  · split at h
    · cases h
    · have hp := passes_takeDigits text
      rw [Option.some.inj h] at hp
      exact hp

theorem passes_readPlaces (text : List Symbol) : Passes text (readPlaces text).2 := by
  unfold readPlaces
  split
  · split
    · exact .refl _
    · exact .cons (by decide) (passes_takeDigits _)
  · exact .refl _

theorem passes_readSign (text : List Symbol) : Passes text (readSign text).2 := by
  unfold readSign
  split
  · exact .cons (by decide) (.refl _)
  · exact .cons (by decide) (.refl _)
  · exact .refl _

theorem passes_readPower (text : List Symbol) : Passes text (readPower text).2 := by
  unfold readPower
  split
  · next symbol rest =>
      split
      · next he =>
          have hs : IsPlain symbol := by rcases he with rfl | rfl <;> decide
          dsimp only
          split
          · exact .refl _
          · exact .cons hs ((passes_readSign rest).trans (passes_takeDigits _))
      · exact .refl _
  · exact .refl _

theorem passes_unsigned (text : List Symbol) :
    Passes text (if text.head? == some (.char '-') then text.drop 1 else text) := by
  split
  · next h =>
      obtain ⟨rest, rfl⟩ := List.head?_eq_some_iff.1 (eq_of_beq h)
      exact .cons (by decide) (.refl rest)
  · exact .refl text

theorem passes_readNumber {text rest : List Symbol} {value : Json}
    (h : readNumber text = .ok (value, rest)) : Passes text rest := by
  unfold readNumber at h
  dsimp only at h
  split at h
  · cases h
  · next whole behind hw =>
      have hwhole := (passes_unsigned text).trans (passes_readWhole hw)
      have hnumber := (hwhole.trans (passes_readPlaces behind)).trans (passes_readPower _)
      split at h
      · obtain ⟨integer, -, he⟩ := map_eq_ok_iff.1 h
        cases he
        exact hnumber
      · cases h
        exact hnumber

end Numbers

section Values

theorem plain_words : ∀ word ∈ words, ∀ symbol ∈ word.1, IsPlain symbol := by
  decide +kernel

theorem word_of_readWord? {text rest : List Symbol} {value : Json}
    (h : readWord? text = some (value, rest)) : ∃ word ∈ words, text = word.1 ++ rest := by
  obtain ⟨word, hw, he⟩ := Option.map_eq_some_iff.1 h
  cases he
  have hp := List.find?_some hw
  exact ⟨word, List.mem_of_find?_eq_some hw,
    (List.prefix_iff_eq_append.1 (List.isPrefixOf_iff_prefix.1 hp)).symm⟩

theorem passes_readWord? {text rest : List Symbol} {value : Json}
    (h : readWord? text = some (value, rest)) : Passes text rest := by
  obtain ⟨word, hm, rfl⟩ := word_of_readWord? h
  exact ⟨word.1, rfl, plain_words word hm⟩

section Containers

variable {fuel : Nat} {text rest : List Symbol}

theorem readValue_cases {value : Json} (h : readValue (fuel + 1) text = .ok (value, rest)) :
    (∃ behind name, text = .char '"' :: behind ∧ readText behind = .ok (name, rest)) ∨
    (∃ behind, text = .char '\x7b' :: behind ∧ (skipBlank behind = .char '\x7d' :: rest ∨
      ∃ members, readMembers fuel (skipBlank behind) = .ok (members, rest))) ∨
    (∃ behind, text = .char '[' :: behind ∧ (skipBlank behind = .char ']' :: rest ∨
      ∃ items, readItems fuel (skipBlank behind) = .ok (items, rest))) ∨
    readWord? text = some (value, rest) ∨ readNumber text = .ok (value, rest) := by
  unfold readValue at h
  split at h
  · next behind =>
      obtain ⟨⟨name, left⟩, hr, he⟩ := map_eq_ok_iff.1 h
      cases he
      exact .inl ⟨behind, name, rfl, hr⟩
  · next behind =>
      refine .inr (.inl ⟨behind, rfl, ?_⟩)
      split at h
      · next hs =>
          cases h
          exact .inl hs
      · obtain ⟨⟨members, left⟩, hr, he⟩ := map_eq_ok_iff.1 h
        cases he
        exact .inr ⟨members, hr⟩
  · next behind =>
      refine .inr (.inr (.inl ⟨behind, rfl, ?_⟩))
      split at h
      · next hs =>
          cases h
          exact .inl hs
      · obtain ⟨⟨items, left⟩, hr, he⟩ := map_eq_ok_iff.1 h
        cases he
        exact .inr ⟨items, hr⟩
  · refine .inr (.inr (.inr ?_))
    split at h
    · next read hw =>
        cases h
        exact .inl hw
    · exact .inr h

end Containers

theorem passes_values (fuel : Nat) :
    (∀ {text value rest}, readValue fuel text = .ok (value, rest) → Passes text rest) ∧
    (∀ {text items rest}, readItems fuel text = .ok (items, rest) → Passes text rest) ∧
    ∀ {text members rest}, readMembers fuel text = .ok (members, rest) → Passes text rest := by
  induction fuel with
  | zero => exact ⟨by simp [readValue], by simp [readItems], by simp [readMembers]⟩
  | succ fuel ih =>
      obtain ⟨hvalue, hitems, hmembers⟩ := ih
      refine ⟨fun h => ?_, fun h => ?_, fun h => ?_⟩
      · rcases readValue_cases h with ⟨behind, name, rfl, hr⟩ | ⟨behind, rfl, hs | ⟨_, hr⟩⟩ |
          ⟨behind, rfl, hs | ⟨_, hr⟩⟩ | hw | hn
        · exact .cons (by decide) (passes_readText hr)
        · exact .cons (by decide) (passes_of_skipBlank hs (.cons (by decide) (.refl _)))
        · exact .cons (by decide) (passes_of_skipBlank rfl (hmembers hr))
        · exact .cons (by decide) (passes_of_skipBlank hs (.cons (by decide) (.refl _)))
        · exact .cons (by decide) (passes_of_skipBlank rfl (hitems hr))
        · exact passes_readWord? hw
        · exact passes_readNumber hn
      · rw [readItems] at h
        obtain ⟨⟨item, behind⟩, hr, h⟩ := bind_eq_ok_iff.1 h
        dsimp only at h
        refine (hvalue hr).trans ?_
        split at h
        · next hs =>
            cases h
            exact passes_of_skipBlank hs (.cons (by decide) (.refl _))
        · next hs =>
            obtain ⟨⟨items, left⟩, hi, h⟩ := bind_eq_ok_iff.1 h
            cases h
            exact passes_of_skipBlank hs (.cons (by decide) (passes_of_skipBlank rfl (hitems hi)))
        · cases h
      · rw [readMembers] at h
        obtain ⟨⟨name, behind⟩, hn, h⟩ := bind_eq_ok_iff.1 h
        obtain ⟨⟨value, behind'⟩, hr, h⟩ := bind_eq_ok_iff.1 h
        dsimp only at h hr
        refine ((passes_readName hn).trans (hvalue hr)).trans ?_
        split at h
        · next hs =>
            cases h
            exact passes_of_skipBlank hs (.cons (by decide) (.refl _))
        · next hs =>
            obtain ⟨⟨members, left⟩, hm, h⟩ := bind_eq_ok_iff.1 h
            cases h
            exact passes_of_skipBlank hs (.cons (by decide) (passes_of_skipBlank rfl (hmembers hm)))
        · cases h

end Values

section Documents

def beginsLow : List Symbol → Bool
  | .char c :: _ => c.toNat < 0x80
  | _ => false

theorem beginsLow_words : ∀ word ∈ words, beginsLow word.1 = true := by
  decide +kernel

theorem beginsLow_append {front rest : List Symbol} (h : beginsLow front = true) :
    beginsLow (front ++ rest) = true := by
  cases front with
  | nil => cases h
  | cons symbol front => cases symbol <;> exact h

theorem beginsLow_of_isDigit {c : Char} (h : c.isDigit = true) (rest : List Symbol) :
    beginsLow (.char c :: rest) = true :=
  decide_eq_true (toNat_lt_of_isDigit h)

theorem beginsLow_takeDigits {text : List Symbol} (h : (takeDigits text).1 ≠ []) :
    beginsLow text = true := by
  fun_cases takeDigits text with
  | case1 c rest hd => exact beginsLow_of_isDigit hd rest
  | case2 c rest hd => simp [takeDigits, hd] at h
  | case3 text hn => simp [takeDigits] at h

theorem beginsLow_readWhole {text rest : List Symbol} {digits : List Char}
    (h : readWhole text = some (digits, rest)) : beginsLow text = true := by
  unfold readWhole at h
  split at h
  · rfl
  · split at h
    · cases h
    · next hd => exact beginsLow_takeDigits fun he => hd (List.isEmpty_iff.2 he)

theorem beginsLow_readNumber {text rest : List Symbol} {value : Json}
    (h : readNumber text = .ok (value, rest)) : beginsLow text = true := by
  unfold readNumber at h
  dsimp only at h
  split at h
  · cases h
  · next whole behind hw =>
      split at hw
      · next hs =>
          obtain ⟨rest, rfl⟩ := List.head?_eq_some_iff.1 (eq_of_beq hs)
          rfl
      · exact beginsLow_readWhole hw

theorem beginsLow_readValue {fuel : Nat} {text rest : List Symbol} {value : Json}
    (h : readValue fuel text = .ok (value, rest)) : beginsLow text = true := by
  cases fuel with
  | zero => simp [readValue] at h
  | succ fuel =>
      rcases readValue_cases h with ⟨behind, name, rfl, -⟩ | ⟨behind, rfl, -⟩ |
        ⟨behind, rfl, -⟩ | hw | hn
      · rfl
      · rfl
      · rfl
      · obtain ⟨word, hm, rfl⟩ := word_of_readWord? hw
        exact beginsLow_append (beginsLow_words word hm)
      · exact beginsLow_readNumber hn

theorem beginsLow_of_skipBlank {text : List Symbol} (h : beginsLow (skipBlank text) = true) :
    beginsLow text = true := by
  cases text with
  | nil => cases h
  | cons symbol text =>
      cases hb : isJsonBlank symbol with
      | true =>
          simp only [isJsonBlank, Bool.or_eq_true, beq_iff_eq] at hb
          rcases hb with ((rfl | rfl) | rfl) | rfl <;> rfl
      | false =>
          rw [skipBlank, List.dropWhile_cons_of_neg (Bool.eq_false_iff.1 hb)] at h
          exact h

theorem shape_of_readDocument {text : List Symbol} {value : Json}
    (h : readDocument text = .ok value) :
    beginsLow text = true ∧ ∀ symbol ∈ text, IsPlain symbol := by
  obtain ⟨⟨value, rest⟩, hv, h⟩ := bind_eq_ok_iff.1 h
  dsimp only at h
  split at h
  · next hs =>
      have hp := ((passes_skipBlank text).trans ((passes_values _).1 hv)).trans
        (passes_of_skipBlank hs (.refl []))
      obtain ⟨front, rfl, hf⟩ := hp
      rw [List.append_nil] at hv ⊢
      exact ⟨beginsLow_of_skipBlank (beginsLow_readValue hv), hf⟩
  · cases h

end Documents

end ImageRegistry.Json
