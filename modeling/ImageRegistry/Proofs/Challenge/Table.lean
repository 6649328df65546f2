import Mathlib.Data.List.Induction
import Mathlib.Data.List.Nodup
import ImageRegistry.Json.Value

namespace ImageRegistry

section Table

variable {κ ν : Type} [BEq κ]

def putAll (table pairs : List (κ × ν)) : List (κ × ν) :=
  pairs.foldl (fun table pair => putPair (· == ·) pair.1 pair.2 table) table

@[simp]
theorem putAll_nil (table : List (κ × ν)) : putAll table [] = table := rfl

@[simp]
theorem putAll_cons (table : List (κ × ν)) (pair : κ × ν) (pairs : List (κ × ν)) :
    putAll table (pair :: pairs) = putAll (putPair (· == ·) pair.1 pair.2 table) pairs := rfl

theorem putAll_append (table pairs more : List (κ × ν)) :
    putAll table (pairs ++ more) = putAll (putAll table pairs) more :=
  List.foldl_append

theorem putPair_ne_nil (key : κ) (value : ν) (table : List (κ × ν)) :
    putPair (· == ·) key value table ≠ [] := by
  cases table with
  | nil => simp [putPair]
  | cons pair table =>
      rw [putPair]
      split <;> simp

theorem putAll_ne_nil {pairs : List (κ × ν)} (h : pairs ≠ []) (table : List (κ × ν)) :
    putAll table pairs ≠ [] := by
  induction pairs generalizing table with
  | nil => exact absurd rfl h
  | cons pair pairs ih =>
      cases pairs with
      | nil => exact putPair_ne_nil pair.1 pair.2 table
      | cons next pairs => exact ih (by simp) _

section Last

variable {P : ν → Prop}

theorem last_putPair {key : κ} {value : ν} {table : List (κ × ν)} (hv : P value)
    (ht : ∀ pair ∈ table.getLast?, P pair.2) :
    ∀ pair ∈ (putPair (· == ·) key value table).getLast?, P pair.2 := by
  induction table with
  | nil => simpa [putPair] using hv
  | cons first table ih =>
      have htable : ∀ pair ∈ table.getLast?, P pair.2 := fun pair hm =>
        ht pair (List.mem_getLast?_cons hm)
      by_cases hk : (first.1 == key) = true
      · cases table with
        | nil => simpa [putPair, hk] using hv
        | cons next table => simpa [putPair, hk] using htable
      · obtain ⟨next, rest, hr⟩ := List.exists_cons_of_ne_nil (putPair_ne_nil key value table)
        have ih := ih htable
        rw [hr] at ih
        simpa [putPair, hk, hr] using ih

theorem last_putAll {table pairs : List (κ × ν)} (ht : ∀ pair ∈ table.getLast?, P pair.2)
    (hp : ∀ pair ∈ pairs, P pair.2) : ∀ pair ∈ (putAll table pairs).getLast?, P pair.2 := by
  induction pairs generalizing table with
  | nil => exact ht
  | cons pair pairs ih =>
      obtain ⟨hpair, hpairs⟩ := List.forall_mem_cons.1 hp
      exact ih (last_putPair hpair ht) hpairs

theorem last_putPair_singleton (pair : κ × ν) (key : κ) (value : ν) :
    ∀ last ∈ (putPair (· == ·) key value [pair]).getLast?, last.2 = value := by
  by_cases hk : (pair.1 == key) = true <;> simp [putPair, hk]

end Last

theorem last_of_settled {pairs : List (κ × ν)}
    (h : ∀ v ∈ (pairs.map Prod.snd).tail, ∀ w ∈ (pairs.map Prod.snd).tail, v = w) :
    (putAll [] pairs).getLast?.map Prod.snd =
      (pairs.map Prod.snd).tail.head?.or (pairs.map Prod.snd).head? := by
  cases pairs with
  | nil => rfl
  | cons first pairs =>
      cases pairs with
      | nil => rfl
      | cons second pairs =>
          have hvalues : ∀ pair ∈ pairs, pair.2 = second.2 := fun pair hm =>
            h pair.2 (by simp [List.mem_map_of_mem hm]) second.2 (by simp)
          have heq : putAll [] (first :: second :: pairs) =
              putAll (putPair (· == ·) second.1 second.2 [first]) pairs := rfl
          have hsettled := last_putPair_singleton first second.1 second.2
          have hlast : ∀ pair ∈
              (putAll (putPair (· == ·) second.1 second.2 [first]) pairs).getLast?,
              pair.2 = second.2 :=
            last_putAll (P := (· = second.2)) hsettled hvalues
          have hne : putAll [] (first :: second :: pairs) ≠ [] := putAll_ne_nil (by simp) []
          rw [← heq, List.getLast?_eq_some_getLast hne] at hlast
          rw [List.getLast?_eq_some_getLast hne]
          simpa using hlast _ rfl

variable [LawfulBEq κ]

theorem putPair_fresh {key : κ} {pairs : List (κ × ν)} (h : key ∉ pairs.map Prod.fst) (value : ν) :
    putPair (· == ·) key value pairs = pairs ++ [(key, value)] := by
  induction pairs with
  | nil => rfl
  | cons pair pairs ih =>
      rw [List.map_cons, List.mem_cons, not_or] at h
      have hn : ¬ (pair.1 == key) = true := fun he => h.1 (eq_of_beq he).symm
      rw [putPair, if_neg hn, ih h.2, List.cons_append]

theorem putAll_fresh {pairs : List (κ × ν)} {table : List (κ × ν)}
    (h : ((table ++ pairs).map Prod.fst).Nodup) : putAll table pairs = table ++ pairs := by
  induction pairs generalizing table with
  | nil => rw [putAll_nil, List.append_nil]
  | cons pair pairs ih =>
      have hfresh : pair.1 ∉ table.map Prod.fst := by
        intro hm
        rw [List.map_append, List.map_cons] at h
        exact List.disjoint_of_nodup_append h hm List.mem_cons_self
      have hsplit : table ++ pair :: pairs = (table ++ [pair]) ++ pairs := by simp
      rw [hsplit] at h
      rw [putAll_cons, putPair_fresh hfresh, ih h, hsplit]

theorem lookup_putPair (key other : κ) (value : ν) (table : List (κ × ν)) :
    (putPair (· == ·) key value table).lookup other =
      if other == key then some value else table.lookup other := by
  induction table with
  | nil => cases ho : other == key <;> simp [putPair, List.lookup_cons, ho]
  | cons pair table ih =>
      obtain ⟨k, v⟩ := pair
      by_cases hk : k = key
      · subst hk
        cases ho : other == k <;> simp [putPair, List.lookup_cons, ho]
      · rw [putPair, if_neg (mt eq_of_beq hk), List.lookup_cons, ih, List.lookup_cons]
        cases ho : other == k with
        | true => simp [eq_of_beq ho, hk]
        | false => rfl

theorem filter_putPair (p : κ → Bool) (key : κ) (value : ν) (table : List (κ × ν)) :
    (putPair (· == ·) key value table).filter (fun pair => p pair.1) =
      if p key then putPair (· == ·) key value (table.filter fun pair => p pair.1)
      else table.filter fun pair => p pair.1 := by
  induction table with
  | nil => cases hp : p key <;> simp [putPair, hp]
  | cons pair table ih =>
      by_cases hk : pair.1 = key
      · subst hk
        cases hp : p pair.1 <;> simp [putPair, hp]
      -- The pair in front stays; whether the filter keeps it has nothing to do with the key put.
      · cases hp : p key <;> cases hq : p pair.1 <;> rw [hp] at ih <;>
          simpa [putPair, hk, hq] using ih

theorem filter_putAll (p : κ → Bool) (table pairs : List (κ × ν)) :
    (putAll table pairs).filter (fun pair => p pair.1) =
      putAll (table.filter fun pair => p pair.1) (pairs.filter fun pair => p pair.1) := by
  induction pairs generalizing table with
  | nil => rfl
  | cons pair pairs ih =>
      rw [putAll_cons, ih, filter_putPair]
      cases hp : p pair.1 <;> simp [hp]

theorem putAll_one_key {key : κ} {pairs : List (κ × ν)} (h : ∀ pair ∈ pairs, pair.1 = key) :
    putAll [] pairs = pairs.getLast?.toList := by
  induction pairs using List.reverseRecOn with
  | nil => rfl
  | append_singleton pairs pair ih =>
      have hpairs : ∀ other ∈ pairs, other.1 = pair.1 := fun other hm =>
        (h other (by simp [hm])).trans (h pair (by simp)).symm
      rw [putAll_append, ih fun other hm => h other (by simp [hm])]
      cases hl : pairs.getLast? with
      | none => simp [putPair]
      | some last =>
          have hk : last.1 = pair.1 := hpairs last (List.mem_of_getLast? hl)
          simp [putPair, hk]

theorem putAll_behind_first {key : κ} {pairs : List (κ × ν)} (h : ∀ pair ∈ pairs, pair.1 = key)
    (value : ν) (table : List (κ × ν)) :
    ∃ latest, putAll ((key, value) :: table) pairs = (key, latest) :: table := by
  induction pairs generalizing value with
  | nil => exact ⟨value, rfl⟩
  | cons pair pairs ih =>
      obtain ⟨hpair, hpairs⟩ := List.forall_mem_cons.1 h
      obtain ⟨latest, hl⟩ := ih hpairs pair.2
      exact ⟨latest, by simpa [putPair, hpair] using hl⟩

theorem last_of_new_key {key other : κ} (hk : key ≠ other) {before behind : List (κ × ν)}
    (hne : before ≠ []) (hbefore : ∀ pair ∈ before, pair.1 = key)
    (hbehind : ∀ pair ∈ behind, pair.1 = key) (value : ν) :
    (putAll [] (before ++ (other, value) :: behind)).getLast? = some (other, value) := by
  have hlast := List.getLast?_eq_some_getLast hne
  have hkey : (before.getLast hne).1 = key := hbefore _ (List.getLast_mem hne)
  have hfresh : other ∉ [before.getLast hne].map Prod.fst := by
    simp [hkey, Ne.symm hk]
  obtain ⟨latest, hl⟩ := putAll_behind_first hbehind (before.getLast hne).2 [(other, value)]
  rw [← hkey] at hl
  rw [putAll_append, putAll_one_key hbefore, hlast, putAll_cons, Option.toList_some,
    putPair_fresh hfresh, List.singleton_append, hl]
  simp

end Table

end ImageRegistry
