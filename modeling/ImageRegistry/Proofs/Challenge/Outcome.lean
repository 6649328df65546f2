import ImageRegistry.Proofs.Challenge.Names
import ImageRegistry.Proofs.Text.Stripping

namespace ImageRegistry

open Text

namespace Challenge

theorem isBare_of_isBlank {symbol : Symbol} (h : symbol.is isBlank = true) :
    isBare symbol = false := by
  cases symbol with
  | half code => rfl
  | char c =>
      have hc : isBlank c = true := h
      have hmarks : wordMarks.any isBlank = false := by decide
      have hn : ¬ wordMarks.contains c = true := by
        rw [List.contains_iff_mem]
        exact fun hm => List.any_eq_false.1 hmarks c hm hc
      simp only [isBare, Symbol.is, isWord_of_isBlank hc, Bool.false_or]
      exact Bool.eq_false_iff.2 hn

theorem readLexeme_blank {symbol : Symbol} (h : symbol.is isBlank = true) (rest : List Symbol) :
    readLexeme (symbol :: rest) = some (none, rest) := by
  have hb := isBare_of_isBlank h
  have hq : symbol ≠ .char '"' := by
    rintro rfl
    exact absurd h (by decide)
  simp [readLexeme, hb, hq, h]

theorem lexemes?_step {text rest : List Symbol} {lexeme : Option Lexeme}
    (h : readLexeme text = some (lexeme, rest)) :
    lexemes? text = (lexemes? rest).map fun lexemes => lexeme.toList ++ lexemes := by
  cases text with
  | nil => cases h
  | cons c text =>
      rw [lexemes?]
      split
      · next hn => cases hn
      · split
        · next hn => rw [h] at hn; cases hn
        · next lexeme' rest' hn =>
            rw [h] at hn
            cases hn
            rfl

theorem lexemes?_blank {text : List Symbol} (h : ∀ symbol ∈ text, symbol.is isBlank = true) :
    lexemes? text = some [] := by
  induction text with
  | nil => rw [lexemes?]; rfl
  | cons c text ih =>
      obtain ⟨hc, ht⟩ := List.forall_mem_cons.1 h
      rw [lexemes?_step (readLexeme_blank hc text), ih ht]
      rfl

def addGroup (challenges : List (List Symbol × Raw)) (group : Group) :
    Except HeaderFault (List (List Symbol × Raw)) := do
  let name ← group.name.name
  pure (putPair (· == ·) (foldCase name) (Raw.ofItems group.contents) challenges)

theorem collect_eq (groups : List Group) : collect groups = groups.foldlM addGroup [] := rfl

theorem addGroup_pair {group : Group} (h : group.name.isPair = true)
    (challenges : List (List Symbol × Raw)) : addGroup challenges group = .error .nameless := by
  obtain ⟨name, contents⟩ := group
  cases name with
  | pair name value => rfl
  | word text => cases h
  | equals => cases h
  | comma => cases h

theorem addGroup_named {group : Group} (h : group.name.isPair = false)
    (challenges : List (List Symbol × Raw)) : ∃ next, addGroup challenges group = .ok next := by
  obtain ⟨name, contents⟩ := group
  cases name with
  | pair name value => cases h
  | word text => exact ⟨_, rfl⟩
  | equals => exact ⟨_, rfl⟩
  | comma => exact ⟨_, rfl⟩

theorem foldlM_addGroup_named {groups : List Group}
    (h : ∀ group ∈ groups, group.name.isPair = false) (challenges : List (List Symbol × Raw)) :
    ∃ all, groups.foldlM addGroup challenges = .ok all := by
  induction groups generalizing challenges with
  | nil => exact ⟨challenges, rfl⟩
  | cons group groups ih =>
      obtain ⟨hg, hr⟩ := List.forall_mem_cons.1 h
      obtain ⟨next, hn⟩ := addGroup_named hg challenges
      rw [List.foldlM_cons, hn]
      exact ih hr next

-- The groups in front of the nameless one are added before it is met.
theorem foldlM_addGroup_pair {groups : List Group}
    (h : ∃ group ∈ groups, group.name.isPair = true) (challenges : List (List Symbol × Raw)) :
    groups.foldlM addGroup challenges = .error .nameless := by
  induction groups generalizing challenges with
  | nil =>
      obtain ⟨group, hm, _⟩ := h
      cases hm
  | cons group groups ih =>
      rw [List.foldlM_cons]
      cases hp : group.name.isPair with
      | true =>
          rw [addGroup_pair hp]
          rfl
      | false =>
          obtain ⟨next, hn⟩ := addGroup_named hp challenges
          rw [hn]
          obtain ⟨group', hm, hp'⟩ := h
          rcases List.mem_cons.1 hm with rfl | hm
          · rw [hp] at hp'
            cases hp'
          · exact ih ⟨group', hm, hp'⟩ next

def MisplacesPair (header : List Symbol) : Prop :=
  ∃ lexemes, lexemes? header = some lexemes ∧
    Place.name.reads (items lexemes) = false

theorem readHeader_misplaced {header : List Symbol} (h : MisplacesPair header) :
    readHeader header = .error .nameless := by
  obtain ⟨lexemes, hl, hr⟩ := h
  rw [readHeader, hl]
  simp only
  rw [collect_eq]
  refine foldlM_addGroup_pair ?_ []
  by_contra hn
  refine Bool.false_ne_true (hr.symm.trans ((reads_iff_isPair_groups _).2 fun group hm => ?_))
  exact Bool.eq_false_iff.2 fun hp => hn ⟨group, hm, hp⟩

theorem readHeader_placed {header : List Symbol} (h : ¬ MisplacesPair header) :
    (∃ challenges, readHeader header = .ok challenges) ∨
      readHeader header = .error .unreadable := by
  rw [readHeader]
  cases hl : lexemes? header with
  | none => exact .inr rfl
  | some lexemes =>
      have hr : Place.name.reads (items lexemes) = true :=
        eq_true_of_ne_false fun hf => h ⟨lexemes, hl, hf⟩
      exact .inl (foldlM_addGroup_named ((reads_iff_isPair_groups _).1 hr) [])

theorem not_misplacesPair_blank {header : List Symbol}
    (h : ∀ symbol ∈ header, symbol.is isBlank = true) : ¬ MisplacesPair header := by
  rintro ⟨lexemes, hl, hr⟩
  rw [lexemes?_blank h] at hl
  cases hl
  cases hr

theorem groups_nil : groups [] = [] := by
  rw [groups]

theorem readHeader_blank {header : List Symbol} (h : ∀ symbol ∈ header, symbol.is isBlank = true) :
    readHeader header = .ok [] := by
  have hg : groups (items []) = [] := groups_nil
  rw [readHeader, lexemes?_blank h]
  simp only [hg]
  rfl

namespace Decoders

variable {α : Type} (decoders : Decoders α)

theorem read_blank {header : List Symbol} (h : ∀ symbol ∈ header, symbol.is isBlank = true) :
    decoders.read (some header) = .ok [] :=
  if_pos (List.all_eq_true.2 h)

theorem read_of_not_blank {header : List Symbol}
    (h : ¬ ∀ symbol ∈ header, symbol.is isBlank = true) :
    decoders.read (some header) =
      match readHeader header with
      | .ok challenges => .ok (decoders.decode challenges)
      | .error .unreadable => .error (.malformed (.unreadable header))
      | .error .nameless => .error .nameless :=
  if_neg fun ha => h (List.all_eq_true.1 ha)

theorem read_of_readHeader {header : List Symbol} {challenges : List (List Symbol × Raw)}
    (h : readHeader header = .ok challenges) :
    decoders.read (some header) = .ok (decoders.decode challenges) := by
  by_cases hb : ∀ symbol ∈ header, symbol.is isBlank = true
  · rw [readHeader_blank hb] at h
    cases h
    exact decoders.read_blank hb
  · rw [decoders.read_of_not_blank hb, h]

end Decoders

theorem decoded_or_malformed_unless_misplaced {α : Type} (decoders : Decoders α)
    (header : List Symbol) :
    (¬ MisplacesPair header →
      (∃ challenges, decoders.read (some header) = .ok challenges) ∨
        ∃ error, decoders.read (some header) = .error (.malformed error)) ∧
    (MisplacesPair header → decoders.read (some header) = .error .nameless) := by
  by_cases hb : ∀ symbol ∈ header, symbol.is isBlank = true
  · exact ⟨fun _ => .inl ⟨[], decoders.read_blank hb⟩,
      fun hm => absurd hm (not_misplacesPair_blank hb)⟩
  · rw [decoders.read_of_not_blank hb]
    constructor
    · intro hm
      rcases readHeader_placed hm with ⟨challenges, hr⟩ | hr
      · rw [hr]
        exact .inl ⟨_, rfl⟩
      · rw [hr]
        exact .inr ⟨_, rfl⟩
    · intro hm
      rw [readHeader_misplaced hm]

theorem pair_without_scheme_escapes :
    ¬ ∀ header : List Symbol,
      (∃ challenges, Bearer.decoders.read (some header) = .ok challenges) ∨
        ∃ error, Bearer.decoders.read (some header) = .error (.malformed error) := by
  intro h
  have hr : Bearer.decoders.read (some (symbols "realm=\"x\"")) = .error .nameless := by
    decide +kernel
  rcases h (symbols "realm=\"x\"") with ⟨challenges, hc⟩ | ⟨error, he⟩
  · rw [hr] at hc
    cases hc
  · rw [hr] at he
    cases he

end Challenge

end ImageRegistry
