import ImageRegistry.Proofs.Challenge.Outcome

namespace ImageRegistry.Challenge

open Text
open Text.Symbol (char)

structure Name where
  text : List Char
  ne_nil : text ≠ []
  plain : ∀ c ∈ text, (c.isAlphanum || c == '-') = true

def Name.symbols (name : Name) : List Symbol :=
  symbolsOf name.text

structure Parameter where
  name : Name
  value : List Symbol
  value_ne_nil : value ≠ []
  unquoted : char '"' ∉ value
  unescaped : char '\\' ∉ value

structure Offer where
  scheme : Name
  parameters : List Parameter
  parameters_ne_nil : parameters ≠ []

def Parameter.text (p : Parameter) : List Symbol :=
  p.name.symbols ++ char '=' :: char '"' :: (p.value ++ [char '"'])

def separator : List Symbol :=
  [',', ' ']

def Offer.text (o : Offer) : List Symbol :=
  o.scheme.symbols ++ char ' ' :: separator.intercalate (o.parameters.map Parameter.text)

def offered (offers : List Offer) : List Symbol :=
  separator.intercalate (offers.map Offer.text)

theorem isBare_of_plain {c : Char} (h : (c.isAlphanum || c == '-') = true) :
    isBare (.char c) = true := by
  rw [Bool.or_eq_true, beq_iff_eq] at h
  rcases h with h | rfl
  · simp only [isBare, Symbol.is, isWord_of_isAlphanum h, Bool.true_or]
  · decide

theorem readQuoted_cons {c : Symbol} (hq : c ≠ .char '"') (hb : c ≠ .char '\\')
    (rest : List Symbol) :
    readQuoted (c :: rest) = (readQuoted rest).map fun read => (c :: read.1, read.2) := by
  simp [readQuoted, hb]

theorem readQuoted_append {value : List Symbol} (hq : char '"' ∉ value)
    (hb : char '\\' ∉ value) (rest : List Symbol) :
    readQuoted (value ++ char '"' :: rest) = some (value, rest) := by
  induction value with
  | nil => rfl
  | cons c value ih =>
      rw [List.mem_cons, not_or] at hq hb
      rw [List.cons_append, readQuoted_cons (Ne.symm hq.1) (Ne.symm hb.1), ih hq.2 hb.2]
      rfl

theorem readLexeme_name (name : Name) {c : Symbol} {rest : List Symbol} (hc : isBare c = false)
    (hp : splitPadding (c :: rest) = ([], c :: rest)) :
    readLexeme (name.symbols ++ c :: rest) = some (some (.word name.symbols), c :: rest) := by
  obtain ⟨text, hne, hplain⟩ := name
  cases text with
  | nil => exact absurd rfl hne
  | cons x text =>
      obtain ⟨hx, ht⟩ := List.forall_mem_cons.1 hplain
      have hb : ∀ y ∈ symbolsOf text, isBare y = true := by
        intro y hy
        obtain ⟨d, hd, rfl⟩ := List.mem_map.1 hy
        exact isBare_of_plain (ht d hd)
      have hd : (symbolsOf text ++ c :: rest).dropWhile isBare = c :: rest := by
        rw [List.dropWhile_append_of_pos hb, List.dropWhile_cons_of_neg (by simp [hc])]
      have hw : (symbolsOf text ++ c :: rest).takeWhile isBare = symbolsOf text := by
        rw [List.takeWhile_append_of_pos hb, List.takeWhile_cons_of_neg (by simp [hc]),
          List.append_nil]
      have hs : symbolsOf (x :: text) = char x :: symbolsOf text := rfl
      simp only [Name.symbols, hs, List.cons_append, readLexeme, isBare_of_plain hx, if_true, hd,
        hw, hp, List.append_nil]

theorem readLexeme_value (p : Parameter) (rest : List Symbol) :
    readLexeme (char '"' :: (p.value ++ char '"' :: rest)) =
      some (some (.word p.value), rest) := by
  have hb : isBare (char '"') = false := rfl
  have hr := readQuoted_append p.unquoted p.unescaped rest
  have hne := p.value_ne_nil
  cases hv : p.value with
  | nil => exact absurd hv hne
  | cons c value =>
      rw [hv] at hr
      simp only [readLexeme, hb, hr]
      rfl

theorem intercalate_of_append {α β γ : Type} {R : List α → List β → Prop} (hn : R [] [])
    (ha : ∀ {a b : List α} {c d : List β}, R a c → R b d → R (a ++ b) (c ++ d))
    {separator : List α} {mark : List β} (hs : R separator mark) {f : γ → List α} {g : γ → List β}
    {parts : List γ} (h : ∀ part ∈ parts, R (f part) (g part)) :
    R (separator.intercalate (parts.map f)) (mark.intercalate (parts.map g)) := by
  induction parts with
  | nil => exact hn
  | cons part parts ih =>
      obtain ⟨hp, hr⟩ := List.forall_mem_cons.1 h
      cases parts with
      | nil => simpa using hp
      | cons next parts =>
          simp only [List.map_cons, List.intercalate_cons_cons]
          exact ha (ha hp hs) (ih hr)

theorem exists_intercalate_cons {α : Type} (separator first : List α) (parts : List (List α)) :
    ∃ rest, separator.intercalate (first :: parts) = first ++ rest := by
  cases parts with
  | nil => exact ⟨[], by simp⟩
  | cons next parts => exact ⟨_, by rw [List.intercalate_cons_cons, List.append_assoc]⟩

def Reads (text : List Symbol) (lexemes : List Lexeme) : Prop :=
  ∀ rest, lexemes? (text ++ rest) = (lexemes? rest).map (lexemes ++ ·)

theorem reads_nil : Reads [] [] := by
  intro rest
  simp

theorem Reads.append {a b : List Symbol} {as bs : List Lexeme} (ha : Reads a as) (hb : Reads b bs) :
    Reads (a ++ b) (as ++ bs) := by
  intro rest
  rw [List.append_assoc, ha, hb, Option.map_map]
  simp [Function.comp_def]

theorem reads_separator : Reads separator [.comma] := by
  intro rest
  have hc : readLexeme (char ',' :: char ' ' :: rest) = some (some .comma, char ' ' :: rest) := rfl
  have hb : readLexeme (char ' ' :: rest) = some (none, rest) := rfl
  rw [separator, List.cons_append, List.cons_append, List.nil_append, lexemes?_step hc,
    lexemes?_step hb, Option.map_map]
  rfl

theorem reads_scheme (name : Name) : Reads (name.symbols ++ [char ' ']) [.word name.symbols] := by
  intro rest
  have hn : readLexeme (name.symbols ++ char ' ' :: rest) =
      some (some (.word name.symbols), char ' ' :: rest) :=
    readLexeme_name name rfl rfl
  have hb : readLexeme (char ' ' :: rest) = some (none, rest) := rfl
  rw [List.append_assoc, List.singleton_append, lexemes?_step hn, lexemes?_step hb, Option.map_map]
  rfl

def Parameter.lexemes (p : Parameter) : List Lexeme :=
  [.word p.name.symbols, .equals, .word p.value]

theorem reads_parameter_text (p : Parameter) : Reads p.text p.lexemes := by
  intro rest
  have hn : readLexeme (p.name.symbols ++ char '=' :: char '"' :: (p.value ++ char '"' :: rest)) =
      some (some (.word p.name.symbols), char '=' :: char '"' :: (p.value ++ char '"' :: rest)) :=
    readLexeme_name p.name rfl rfl
  have he : readLexeme (char '=' :: char '"' :: (p.value ++ char '"' :: rest)) =
      some (some .equals, char '"' :: (p.value ++ char '"' :: rest)) := rfl
  have ht : p.text ++ rest =
      p.name.symbols ++ char '=' :: char '"' :: (p.value ++ char '"' :: rest) := by
    simp [Parameter.text]
  rw [ht, lexemes?_step hn, lexemes?_step he, lexemes?_step (readLexeme_value p rest),
    Option.map_map, Option.map_map]
  rfl

def Offer.lexemes (o : Offer) : List Lexeme :=
  .word o.scheme.symbols :: [.comma].intercalate (o.parameters.map Parameter.lexemes)

theorem reads_offer (o : Offer) : Reads o.text o.lexemes := by
  have hp := intercalate_of_append reads_nil Reads.append reads_separator
    fun p (_ : p ∈ o.parameters) => reads_parameter_text p
  have ho := (reads_scheme o.scheme).append hp
  simpa [Offer.text, Offer.lexemes] using ho

theorem lexemes?_offered (offers : List Offer) :
    lexemes? (offered offers) = some ([.comma].intercalate (offers.map Offer.lexemes)) := by
  have ho := intercalate_of_append reads_nil Reads.append reads_separator
    fun o (_ : o ∈ offers) => reads_offer o
  have hn : lexemes? [] = some [] := by
    rw [lexemes?]
    rfl
  have h := ho []
  rw [List.append_nil, hn, Option.map_some, List.append_nil] at h
  exact h

def Parameter.item (p : Parameter) : Item :=
  .pair p.name.symbols p.value

def contents (ps : List Parameter) : List Item :=
  [.comma].intercalate (ps.map fun p => [p.item])

theorem contents_cons_cons (p q : Parameter) (ps : List Parameter) :
    contents (p :: q :: ps) = p.item :: .comma :: contents (q :: ps) := by
  simp [contents]

theorem exists_contents_cons (p : Parameter) (ps : List Parameter) :
    ∃ rest, contents (p :: ps) = p.item :: rest := by
  obtain ⟨rest, hr⟩ := exists_intercalate_cons [Item.comma] [p.item] (ps.map fun p => [p.item])
  exact ⟨rest, hr⟩

def Offer.items (o : Offer) : List Item :=
  .word o.scheme.symbols :: contents o.parameters

def Draws (lexemes : List Lexeme) (drawn : List Item) : Prop :=
  ∀ rest, items (lexemes ++ rest) = drawn ++ items rest

theorem draws_nil : Draws [] [] := by
  intro rest
  rfl

theorem Draws.append {a b : List Lexeme} {c d : List Item} (hc : Draws a c) (hd : Draws b d) :
    Draws (a ++ b) (c ++ d) := by
  intro rest
  rw [List.append_assoc, hc, hd, List.append_assoc]

theorem draws_parameter (p : Parameter) : Draws p.lexemes [p.item] := by
  intro rest
  simp [Parameter.lexemes, Parameter.item, items]

theorem draws_comma : Draws [.comma] [.comma] := by
  intro rest
  simp [items, Lexeme.item]

theorem Offer.exists_lexemes (o : Offer) : ∃ name rest,
    [.comma].intercalate (o.parameters.map Parameter.lexemes) = .word name :: rest := by
  have hne := o.parameters_ne_nil
  cases hp : o.parameters with
  | nil => exact absurd hp hne
  | cons p ps =>
      obtain ⟨rest, hr⟩ := exists_intercalate_cons [.comma] p.lexemes (ps.map Parameter.lexemes)
      exact ⟨p.name.symbols, _, hr⟩

theorem draws_offer (o : Offer) : Draws o.lexemes o.items := by
  intro rest
  have hp := intercalate_of_append draws_nil Draws.append draws_comma
    fun p (_ : p ∈ o.parameters) => draws_parameter p
  obtain ⟨name, tail, hl⟩ := o.exists_lexemes
  rw [Offer.items, contents, List.cons_append, ← hp rest, Offer.lexemes, hl]
  simp [items, Lexeme.item]

theorem items_offered (offers : List Offer) :
    items ([.comma].intercalate (offers.map Offer.lexemes)) =
      [.comma].intercalate (offers.map Offer.items) := by
  have ho := intercalate_of_append draws_nil Draws.append draws_comma
    fun o (_ : o ∈ offers) => draws_offer o
  have h := ho []
  rw [List.append_nil] at h
  rw [h, items, List.append_nil]

theorem startsWithPair_contents (p : Parameter) (ps : List Parameter) (tail : List Item) :
    startsWithPair (contents (p :: ps) ++ tail) = true := by
  obtain ⟨rest, hr⟩ := exists_contents_cons p ps
  rw [hr]
  rfl

-- What follows the parameters is a separator, and then no pair.
theorem takeParameters_contents {ps : List Parameter} (h : ps ≠ []) {tail : List Item}
    (ht : startsWithPair (tail.drop 1) = false) :
    takeParameters (contents ps ++ tail) = (contents ps, tail.drop 1) := by
  induction ps with
  | nil => exact absurd rfl h
  | cons p ps ih =>
      cases ps with
      | nil =>
          cases tail with
          | nil => rfl
          | cons item tail =>
              have hn : ¬ startsWithPair tail = true := Bool.eq_false_iff.1 ht
              exact if_neg hn
      | cons q ps =>
          have hs := startsWithPair_contents q ps tail
          have hr := ih (List.cons_ne_nil q ps)
          rw [contents_cons_cons, List.cons_append, List.cons_append, takeParameters, if_pos hs, hr]

def Offer.group (o : Offer) : Group :=
  ⟨.word o.scheme.symbols, contents o.parameters⟩

theorem groups_offer (o : Offer) {tail : List Item} (ht : startsWithPair (tail.drop 1) = false) :
    groups (o.items ++ tail) = o.group :: groups (tail.drop 1) := by
  have hne := o.parameters_ne_nil
  have htake := takeParameters_contents hne ht
  rw [Offer.items, Offer.group, List.cons_append]
  cases hp : o.parameters with
  | nil => exact absurd hp hne
  | cons p ps =>
      obtain ⟨rest, hr⟩ := exists_contents_cons p ps
      rw [hp, hr, List.cons_append, Parameter.item] at htake
      rw [hr, List.cons_append, Parameter.item, groups]
      simp only [htake]

theorem startsWithPair_items (o : Offer) (offers : List Offer) :
    startsWithPair ([.comma].intercalate ((o :: offers).map Offer.items)) = false := by
  obtain ⟨rest, hr⟩ := exists_intercalate_cons [.comma] o.items (offers.map Offer.items)
  rw [List.map_cons, hr]
  rfl

theorem groups_offered (offers : List Offer) :
    groups ([.comma].intercalate (offers.map Offer.items)) = offers.map Offer.group := by
  induction offers with
  | nil => exact groups_nil
  | cons o offers ih =>
      cases offers with
      | nil =>
          have hn : startsWithPair (([] : List Item).drop 1) = false := rfl
          have hg := groups_offer o hn
          rw [List.append_nil, List.drop_nil, groups_nil] at hg
          simpa using hg
      | cons next offers =>
          have hn : startsWithPair ((Item.comma ::
              [.comma].intercalate ((next :: offers).map Offer.items)).drop 1) = false :=
            startsWithPair_items next offers
          have hg := groups_offer o hn
          rw [List.drop_one, List.tail_cons, ih] at hg
          rw [List.map_cons, List.map_cons, List.intercalate_cons_cons, List.append_assoc,
            List.singleton_append, ← List.map_cons]
          exact hg

end ImageRegistry.Challenge
