import Mathlib.Data.List.Forall2
import ImageRegistry.DecodeError
import ImageRegistry.Json.Coerce

namespace ImageRegistry

open Text

section Results

variable {ε α β : Type}

theorem bind_eq_ok_iff {result : Except ε α} {next : α → Except ε β} {b : β} :
    (result >>= next) = .ok b ↔ ∃ a, result = .ok a ∧ next a = .ok b := by
  cases result with
  | ok a => simp [bind, Except.bind]
  | error fault => simp [bind, Except.bind]

theorem mapError_eq_ok_iff {ε' : Type} {f : ε → ε'} {result : Except ε α} {a : α} :
    result.mapError f = .ok a ↔ result = .ok a := by
  cases result with
  | ok b => simp [Except.mapError]
  | error fault => simp [Except.mapError]

theorem map_eq_ok_iff {result : Except ε α} {f : α → β} {b : β} :
    result.map f = .ok b ↔ ∃ a, result = .ok a ∧ f a = b := by
  cases result with
  | ok a => simp [Except.map]
  | error fault => simp [Except.map]

theorem mapM_eq_ok_iff {f : α → Except ε β} {items : List α} {results : List β} :
    items.mapM f = .ok results ↔
      List.Forall₂ (fun item result => f item = .ok result) items results := by
  induction items generalizing results with
  | nil => simp [pure, Except.pure, eq_comm]
  | cons item items ih =>
      rw [List.mapM_cons, bind_eq_ok_iff, List.forall₂_cons_left_iff]
      refine exists_congr fun first => ?_
      rw [bind_eq_ok_iff]
      constructor
      · rintro ⟨hf, rest, hr, he⟩
        cases he
        exact ⟨rest, hf, ih.1 hr, rfl⟩
      · rintro ⟨rest, hf, hr, rfl⟩
        exact ⟨hf, rest, ih.2 hr, rfl⟩

theorem exists_forall₂_iff {R : α → β → Prop} {items : List α} :
    (∃ results, List.Forall₂ R items results) ↔ ∀ item ∈ items, ∃ result, R item result := by
  induction items with
  | nil => simp
  | cons item items ih =>
      rw [List.forall_mem_cons, ← ih]
      constructor
      · rintro ⟨results, h⟩
        cases h with
        | cons hi hr => exact ⟨⟨_, hi⟩, _, hr⟩
      · rintro ⟨⟨first, hi⟩, rest, hr⟩
        exact ⟨first :: rest, .cons hi hr⟩

theorem exists_ok_mapM_iff {f : α → Except ε β} {items : List α} :
    (∃ results, items.mapM f = .ok results) ↔ ∀ item ∈ items, ∃ result, f item = .ok result := by
  simp only [mapM_eq_ok_iff, exists_forall₂_iff]

end Results

namespace Json

def field? (name : String) : Json → Option Json
  | .obj members => member? name members
  | _ => none

def items (name : String) (value : Json) : List Json :=
  match value.field? name with
  | some (.arr items) => items
  | _ => []

theorem object_of_field? {name : String} {value member : Json}
    (h : value.field? name = some member) : ∃ members, value = .obj members := by
  cases value with
  | obj members => exact ⟨members, rfl⟩
  | _ => cases h

theorem members_eq_ok_iff {shape : Shape} {value : Json} {ms : Members} :
    value.members shape = .ok ms ↔ value = .obj ms := by
  cases value with
  | obj members => simp [Json.members]
  | _ => simp [Json.members]

theorem given?_eq_some {name : String} {ms : Members} {value : Json}
    (h : member? name ms = some value) (hn : value ≠ .null) : given? name ms = some value := by
  unfold given?
  rw [h]
  split
  · next hm => exact absurd (Option.some.inj hm) hn
  · rfl

inductive Given {α β : Type} (kind : α → Json) (reads : α → β → Prop) :
    Option Json → Option β → Prop
  | absent : Given kind reads none none
  | null : Given kind reads (some .null) none
  | given {a : α} {b : β} : reads a b → Given kind reads (some (kind a)) (some b)

theorem given?_eq_none_iff {name : String} {ms : Members} :
    given? name ms = none ↔ member? name ms = none ∨ member? name ms = some .null := by
  unfold given?
  split
  · next hm => simp [hm]
  · next hm => exact ⟨.inl, fun h => h.resolve_right fun hn => hm hn⟩

theorem member?_of_given? {name : String} {ms : Members} {value : Json}
    (h : given? name ms = some value) : member? name ms = some value := by
  unfold given? at h
  split at h
  · cases h
  · exact h

section Given

variable {α β : Type} {kind : α → Json} {reads : α → β → Prop} {name : String} {ms : Members}
  {result : Option β}

theorem given_iff_of_none (hk : ∀ a, kind a ≠ .null) (hg : given? name ms = none) :
    Given kind reads (member? name ms) result ↔ result = none := by
  constructor
  · intro h
    generalize hm : member? name ms = value at h
    cases h with
    | absent => rfl
    | null => rfl
    | given _ => cases hg.symm.trans (given?_eq_some hm (hk _))
  · rintro rfl
    rcases given?_eq_none_iff.1 hg with hm | hm
    · rw [hm]
      exact .absent
    · rw [hm]
      exact .null

theorem given_iff_of_some {value : Json} (hg : given? name ms = some value) :
    Given kind reads (member? name ms) result ↔
      ∃ a b, value = kind a ∧ reads a b ∧ result = some b := by
  have hm := member?_of_given? hg
  constructor
  · intro h
    generalize hv : member? name ms = member at h
    cases h with
    | absent => cases hm.symm.trans hv
    | null => cases hg.symm.trans (given?_eq_none_iff.2 (.inr hv))
    | given hr => exact ⟨_, _, Option.some.inj (hm.symm.trans hv), hr, rfl⟩
  · rintro ⟨a, b, rfl, hr, rfl⟩
    rw [hm]
    exact .given hr

end Given

inductive OptionalText : Option Json → Option String → Prop
  | absent : OptionalText none none
  | null : OptionalText (some .null) none
  | text (text : List Symbol) : OptionalText (some (.str text)) (some (textOf text))

theorem exists_optionalText_iff {value : Option Json} :
    (∃ text, OptionalText value text) ↔ ∀ v ∈ value, v = .null ∨ ∃ text, v = .str text := by
  constructor
  · rintro ⟨text, h⟩ v hv
    cases h with
    | absent => cases hv
    | null =>
        cases hv
        exact .inl rfl
    | text text =>
        cases hv
        exact .inr ⟨text, rfl⟩
  · intro h
    cases value with
    | none => exact ⟨none, .absent⟩
    | some v =>
        rcases h v rfl with rfl | ⟨text, rfl⟩
        · exact ⟨none, .null⟩
        · exact ⟨_, .text text⟩

theorem text?_eq_ok_iff {name : String} {ms : Members} {text : Option String} :
    text? name ms = .ok text ↔ OptionalText (member? name ms) text := by
  constructor
  · intro h
    unfold text? at h
    cases hm : member? name ms with
    | none =>
        simp only [given?, hm] at h
        cases h
        exact .absent
    | some value =>
        cases value with
        | null =>
            simp only [given?, hm] at h
            cases h
            exact .null
        | str written =>
            simp only [given?, hm] at h
            cases h
            exact .text written
        | _ =>
            simp only [given?, hm] at h
            cases h
  · intro h
    unfold text? given?
    generalize member? name ms = value at h
    cases h with
    | absent => rfl
    | null => rfl
    | text written => rfl

inductive TextList : Option Json → List Json → Prop
  | absent : TextList none []
  | null : TextList (some .null) []
  | texts (texts : List (List Symbol)) :
      TextList (some (.arr (texts.map .str))) (texts.map .str)

inductive TextTable : Option Json → Table → Prop
  | absent : TextTable none []
  | null : TextTable (some .null) []
  | texts (texts : List (List Symbol × List Symbol)) :
      TextTable (some (.obj (texts.map fun text => (text.1, .str text.2))))
        (texts.map fun text => (.str text.1, .str text.2))

inductive Optional {α β : Type} (kind : α → Json) (read : α → List β) :
    Option Json → List β → Prop
  | absent : Optional kind read none []
  | null : Optional kind read (some .null) []
  | given (a : α) : Optional kind read (some (kind a)) (read a)

section Optional

variable {α β : Type} {kind : α → Json} {read : α → List β} {value : Option Json}

theorem exists_optional_iff :
    (∃ list, Optional kind read value list) ↔ ∀ v ∈ value, v = .null ∨ ∃ a, v = kind a := by
  constructor
  · rintro ⟨list, h⟩ v hv
    cases h with
    | absent => cases hv
    | null =>
        cases hv
        exact .inl rfl
    | given a =>
        cases hv
        exact .inr ⟨a, rfl⟩
  · intro h
    cases value with
    | none => exact ⟨[], .absent⟩
    | some v =>
        rcases h v rfl with rfl | ⟨a, rfl⟩
        · exact ⟨[], .null⟩
        · exact ⟨read a, .given a⟩

theorem Optional.orEmpty_eq {convert : Json → Except ConversionError (List β)} {list : List β}
    (h : Optional kind read value list) (hc : ∀ a, convert (kind a) = .ok (read a))
    (hf : ∀ a, (kind a).isTruthy = false → read a = []) : orEmpty convert value = .ok list := by
  cases h with
  | absent => rfl
  | null => rfl
  | given a =>
      rw [orEmpty, hc a]
      split
      · rfl
      · next ht => rw [hf a (Bool.eq_false_iff.2 ht)]

end Optional

abbrev OptionalList : Option Json → List Json → Prop :=
  Optional .arr id

def pairs (members : Members) : Table :=
  members.map fun member => (.str member.1, member.2)

abbrev OptionalTable : Option Json → Table → Prop :=
  Optional .obj pairs

theorem orEmpty_toList_of_optional {value : Option Json} {list : List Json}
    (h : OptionalList value list) : orEmpty toList value = .ok list := by
  refine h.orEmpty_eq (fun items => rfl) fun items hf => ?_
  simpa [isTruthy] using hf

theorem orEmpty_toTable_of_optional {value : Option Json} {table : Table}
    (h : OptionalTable value table) : orEmpty toTable value = .ok table := by
  refine h.orEmpty_eq (fun members => rfl) fun members hf => ?_
  simpa [isTruthy, pairs] using hf

theorem TextList.optional {value : Option Json} {list : List Json} (h : TextList value list) :
    OptionalList value list := by
  cases h with
  | absent => exact .absent
  | null => exact .null
  | texts texts => exact .given (texts.map Json.str)

theorem Optional.textList {value : Option Json} {list : List Json} (h : OptionalList value list)
    (ht : ∃ texts, TextList value texts) : TextList value list := by
  obtain ⟨texts, ht⟩ := ht
  have he := (orEmpty_toList_of_optional h).symm.trans (orEmpty_toList_of_optional ht.optional)
  rwa [Except.ok.inj he]

theorem TextTable.optional {value : Option Json} {table : Table} (h : TextTable value table) :
    OptionalTable value table := by
  cases h with
  | absent => exact .absent
  | null => exact .null
  | texts texts =>
      have hp : pairs (texts.map fun text => (text.1, .str text.2)) =
          texts.map fun text => (.str text.1, .str text.2) := by
        rw [pairs, List.map_map]
        rfl
      rw [← hp]
      exact .given _

theorem Optional.textTable {value : Option Json} {table : Table} (h : OptionalTable value table)
    (ht : ∃ texts, TextTable value texts) : TextTable value table := by
  obtain ⟨texts, ht⟩ := ht
  have he := (orEmpty_toTable_of_optional h).symm.trans (orEmpty_toTable_of_optional ht.optional)
  rwa [Except.ok.inj he]

end Json

end ImageRegistry
