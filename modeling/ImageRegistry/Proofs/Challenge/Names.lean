import Mathlib.Data.List.Induction
import ImageRegistry.Challenge.Bearer

namespace ImageRegistry.Challenge

open Text

inductive Place where
  | name
  | content
  | dropped
  | separator
  | parameter
  deriving DecidableEq, Repr

namespace Place

def next? : Place → Item → Option Place
  | .name, .pair _ _ => none
  | .name, _ => some .content
  | .content, .comma => some .name
  | .content, .word _ => some .dropped
  | .content, .equals => some .content
  | .content, .pair _ _ => some .separator
  | .dropped, _ => some .name
  | .separator, _ => some .parameter
  | .parameter, .pair _ _ => some .separator
  | .parameter, _ => some .content

def reads : Place → List Item → Bool
  | _, [] => true
  | place, item :: items =>
      match place.next? item with
      | some next => next.reads items
      | none => false

theorem reads_parameter {items : List Item} (h : startsWithPair items = false) :
    parameter.reads items = name.reads items := by
  cases items with
  | nil => rfl
  | cons item items =>
      cases item with
      | pair name value => cases h
      | word text => rfl
      | equals => rfl
      | comma => rfl

-- By the recursion of the parameters: what follows the last pair and one item more is a name again.
theorem reads_separator (items : List Item) (h : startsWithPair items = true) :
    separator.reads items.tail = name.reads (takeParameters items).2 := by
  fun_induction takeParameters items with
  | case1 pair between rest hrest parameters ih =>
      rw [← ih hrest]
      cases rest with
      | nil => cases hrest
      | cons item rest =>
          cases item with
          | pair name value => rfl
          | word text => cases hrest
          | equals => cases hrest
          | comma => cases hrest
  | case2 pair between rest hrest => exact reads_parameter (by simpa using hrest)
  | case3 items hitems =>
      cases items with
      | nil => rfl
      | cons item rest =>
          cases rest with
          | nil => rfl
          | cons between rest => exact absurd rfl (hitems item between rest)

theorem reads_dropped (items : List Item) : dropped.reads items = name.reads (items.drop 1) := by
  cases items with
  | nil => rfl
  | cons item items => rfl

theorem reads_name_cons (item : Item) (items : List Item) :
    name.reads (item :: items) = (!item.isPair && content.reads items) := by
  cases item with
  | pair name value => rfl
  | word text => rfl
  | equals => rfl
  | comma => rfl

end Place

theorem reads_iff_isPair_groups (items : List Item) :
    Place.name.reads items = true ↔ ∀ group ∈ groups items, group.name.isPair = false := by
  fun_induction groups items with
  | case1 => simp [Place.reads]
  | case2 name =>
      rw [Place.reads_name_cons, List.forall_mem_singleton, Bool.and_eq_true, Bool.not_eq_true']
      exact and_iff_left rfl
  | case3 name rest ih =>
      have hr : Place.content.reads (.comma :: rest) = Place.name.reads rest := rfl
      rw [Place.reads_name_cons, hr, List.forall_mem_cons, Bool.and_eq_true, Bool.not_eq_true', ih]
  | case4 name text rest ih =>
      have hr : Place.content.reads (.word text :: rest) = Place.dropped.reads rest := rfl
      rw [Place.reads_name_cons, hr, Place.reads_dropped, List.forall_mem_cons, Bool.and_eq_true,
        Bool.not_eq_true', ih]
  | case5 name rest ih =>
      have hr : Place.content.reads (.equals :: rest) = Place.name.reads (.equals :: rest) := rfl
      rw [Place.reads_name_cons, hr, List.forall_mem_cons, Bool.and_eq_true, Bool.not_eq_true', ih]
  | case6 name key value rest parameters ih =>
      have hr : Place.content.reads (.pair key value :: rest) = Place.name.reads parameters.2 :=
        Place.reads_separator (.pair key value :: rest) rfl
      rw [Place.reads_name_cons, hr, List.forall_mem_cons, Bool.and_eq_true, Bool.not_eq_true', ih]

end ImageRegistry.Challenge
