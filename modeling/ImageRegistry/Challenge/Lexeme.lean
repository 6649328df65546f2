import ImageRegistry.Text.Blank
import ImageRegistry.Text.Symbol
import ImageRegistry.Text.Word

namespace ImageRegistry.Challenge

open Text

inductive Lexeme where
  | word (text : List Symbol)
  | equals
  | comma
  deriving DecidableEq, Repr

def wordMarks : List Char :=
  "!#$%&'*+-.^|~/".toList ++ [Char.ofNat 0x60]

def isBare (symbol : Symbol) : Bool :=
  symbol.is fun c => isWord c || wordMarks.contains c

def splitPadding : List Symbol → List Symbol × List Symbol
  | [.char '='] => (['='], [])
  | [.char '=', .char '\n'] => (['='], ['\n'])
  | [.char '=', .char '='] => (['=', '='], [])
  | [.char '=', .char '=', .char '\n'] => (['=', '='], ['\n'])
  | text => ([], text)

theorem length_splitPadding (text : List Symbol) :
    (splitPadding text).2.length ≤ text.length := by
  unfold splitPadding
  split <;> simp

def readQuoted : List Symbol → Option (List Symbol × List Symbol)
  | [] => none
  | .char '"' :: rest => some ([], rest)
  | [.char '\\'] => none
  | .char '\\' :: c :: rest =>
      if c = .char '\\' ∨ c = .char '"' then
        (readQuoted rest).map fun read => (.char '\\' :: c :: read.1, read.2)
      else none
  | c :: rest => (readQuoted rest).map fun read => (c :: read.1, read.2)

theorem length_readQuoted {text : List Symbol} {read : List Symbol × List Symbol}
    (h : readQuoted text = some read) : read.2.length < text.length := by
  fun_induction readQuoted text generalizing read with
  | case1 => simp at h
  | case2 rest => simp at h; simp [← h]
  | case3 => simp at h
  | case4 c rest hc ih =>
      obtain ⟨read', h', rfl⟩ := Option.map_eq_some_iff.1 h
      have := ih h'
      simp
      omega
  | case5 => simp at h
  | case6 c rest _ _ _ ih =>
      obtain ⟨read', h', rfl⟩ := Option.map_eq_some_iff.1 h
      have := ih h'
      simp
      omega

def readLexeme : List Symbol → Option (Option Lexeme × List Symbol)
  | [] => none
  | c :: rest =>
      if isBare c then
        let (padding, rest') := splitPadding (rest.dropWhile isBare)
        some (some (.word (c :: rest.takeWhile isBare ++ padding)), rest')
      else if c = .char '"' then
        match readQuoted rest with
        | some ([], _) => none
        | some (text, rest) => some (some (.word text), rest)
        | none => none
      else if c.is isBlank then some (none, rest)
      else if c = .char '=' then some (some .equals, rest)
      else if c = .char ',' then some (some .comma, rest)
      else none

theorem length_dropWhile_le (p : Symbol → Bool) (text : List Symbol) :
    (text.dropWhile p).length ≤ text.length :=
  (List.dropWhile_suffix p).length_le

theorem length_readLexeme {text : List Symbol} {read : Option Lexeme × List Symbol}
    (h : readLexeme text = some read) : read.2.length < text.length := by
  cases text with
  | nil => simp [readLexeme] at h
  | cons c rest =>
      simp only [readLexeme] at h
      split at h
      · simp only [Option.some.injEq] at h
        have h1 := length_splitPadding (rest.dropWhile isBare)
        have h2 := length_dropWhile_le isBare rest
        simp only [← h, List.length_cons]
        omega
      · split at h
        · split at h
          · simp at h
          · next text' rest' hq =>
              have := length_readQuoted hq
              simp only [Option.some.injEq] at h
              simp only [← h, List.length_cons]
              simp at this
              omega
          · simp at h
        · split at h
          · simp only [Option.some.injEq] at h
            simp [← h]
          · split at h
            · simp only [Option.some.injEq] at h
              simp [← h]
            · split at h
              · simp only [Option.some.injEq] at h
                simp [← h]
              · simp at h

def lexemes? (text : List Symbol) : Option (List Lexeme) :=
  if text.isEmpty then some []
  else
    match _h : readLexeme text with
    | none => none
    | some (lexeme, rest) => (lexemes? rest).map fun lexemes => lexeme.toList ++ lexemes
termination_by text.length
decreasing_by exact length_readLexeme _h

end ImageRegistry.Challenge
