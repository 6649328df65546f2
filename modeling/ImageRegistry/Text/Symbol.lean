import ImageRegistry.Text.Utf8

namespace ImageRegistry.Text

-- Half of a surrogate pair may stand alone in a text, and is then like no other symbol.
inductive Symbol where
  | char (c : Char)
  | half (code : Nat)
  deriving DecidableEq, Repr

instance : Coe Char Symbol := ⟨.char⟩

namespace Symbol

def ofCode (code : Nat) : Symbol :=
  if code.isValidChar then .char (Char.ofNat code) else .half code

def is (p : Char → Bool) : Symbol → Bool
  | char c => p c
  | half _ => false

def toChar : Symbol → Char
  | char c => c
  | half _ => replacement

end Symbol

def symbolsOf (text : List Char) : List Symbol :=
  text.map .char

def charsOf (symbols : List Symbol) : List Char :=
  symbols.map Symbol.toChar

@[simp] theorem charsOf_symbolsOf (text : List Char) : charsOf (symbolsOf text) = text := by
  induction text with
  | nil => rfl
  | cons c text ih =>
      simp only [charsOf, symbolsOf] at ih
      simp [charsOf, symbolsOf, Symbol.toChar, ih]

theorem symbolsOf_inj {a b : List Char} : symbolsOf a = symbolsOf b ↔ a = b := by
  constructor
  · intro h
    rw [← charsOf_symbolsOf a, h, charsOf_symbolsOf]
  · rintro rfl
    rfl

@[simp] theorem char_mem_symbolsOf {c : Char} {text : List Char} :
    .char c ∈ symbolsOf text ↔ c ∈ text := by
  simp [symbolsOf]

theorem exists_char_of_mem_symbolsOf {symbol : Symbol} {text : List Char}
    (h : symbol ∈ symbolsOf text) : ∃ c ∈ text, symbol = .char c := by
  obtain ⟨c, hc, rfl⟩ := List.mem_map.1 h
  exact ⟨c, hc, rfl⟩

def Whole (text : List Symbol) : Prop :=
  ∀ code, .half code ∉ text

theorem whole_symbolsOf (text : List Char) : Whole (symbolsOf text) := by
  intro code hm
  obtain ⟨c, -, hc⟩ := exists_char_of_mem_symbolsOf hm
  cases hc

theorem Whole.exists_eq {text : List Symbol} (h : Whole text) :
    ∃ plain, text = symbolsOf plain := by
  induction text with
  | nil => exact ⟨[], rfl⟩
  | cons symbol text ih =>
      obtain ⟨plain, rfl⟩ := ih fun code hm => h code (List.mem_cons_of_mem _ hm)
      cases symbol with
      | char c => exact ⟨c :: plain, rfl⟩
      | half code => exact absurd List.mem_cons_self (h code)

def symbols (text : String) : List Symbol :=
  symbolsOf text.toList

-- Messages, lines of the log and what else is a `String` here hold no lone half: the replacement
-- character is written in its place.
def textOf (symbols : List Symbol) : String :=
  String.ofList (charsOf symbols)

end ImageRegistry.Text
