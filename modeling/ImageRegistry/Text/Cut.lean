namespace ImageRegistry.Text

variable {α : Type} [DecidableEq α]

def cutFirst (c : α) : List α → Option (List α × List α)
  | [] => none
  | x :: text =>
      if x = c then some ([], text)
      else (cutFirst c text).map fun parts => (x :: parts.1, parts.2)

theorem cutFirst_append {c : α} {a : List α} (b : List α) (h : c ∉ a) :
    cutFirst c (a ++ c :: b) = some (a, b) := by
  induction a with
  | nil => simp [cutFirst]
  | cons x a ih =>
      simp only [List.mem_cons, not_or] at h
      simp [cutFirst, Ne.symm h.1, ih h.2]

theorem cutFirst_eq_none_iff {c : α} {text : List α} :
    cutFirst c text = none ↔ c ∉ text := by
  induction text with
  | nil => simp [cutFirst]
  | cons x text ih =>
      by_cases hx : x = c
      · simp [cutFirst, hx]
      · simp [cutFirst, hx, ih, Ne.symm hx]

theorem eq_of_cutFirst {c : α} {text a b : List α} (h : cutFirst c text = some (a, b)) :
    text = a ++ c :: b ∧ c ∉ a := by
  induction text generalizing a with
  | nil => simp [cutFirst] at h
  | cons x text ih =>
      by_cases hx : x = c
      · simp only [cutFirst, hx, if_true, Option.some.injEq, Prod.mk.injEq] at h
        obtain ⟨rfl, rfl⟩ := h
        simp [hx]
      · simp only [cutFirst, hx, if_false, Option.map_eq_some_iff, Prod.mk.injEq] at h
        obtain ⟨⟨a', b'⟩, h', rfl, rfl⟩ := h
        obtain ⟨rfl, ha⟩ := ih h'
        simp [ha, Ne.symm hx]

def cutLast (c : α) : List α → Option (List α × List α)
  | [] => none
  | x :: text =>
      match cutLast c text with
      | some parts => some (x :: parts.1, parts.2)
      | none => if x = c then some ([], text) else none

theorem cutLast_eq_none_iff {c : α} {text : List α} :
    cutLast c text = none ↔ c ∉ text := by
  induction text with
  | nil => simp [cutLast]
  | cons x text ih =>
      cases h : cutLast c text with
      | some parts =>
          have : c ∈ text := Decidable.byContradiction fun hc => by simp [ih.2 hc] at h
          simp [cutLast, h, this]
      | none =>
          have hc := ih.1 h
          by_cases hx : x = c
          · simp [cutLast, h, hx]
          · simp [cutLast, h, hx, hc, Ne.symm hx]

theorem cutLast_append {c : α} (a : List α) {b : List α} (h : c ∉ b) :
    cutLast c (a ++ c :: b) = some (a, b) := by
  induction a with
  | nil => simp [cutLast, cutLast_eq_none_iff.2 h]
  | cons x a ih => simp [cutLast, ih]

theorem eq_of_cutLast {c : α} {text a b : List α} (h : cutLast c text = some (a, b)) :
    text = a ++ c :: b ∧ c ∉ b := by
  induction text generalizing a with
  | nil => simp [cutLast] at h
  | cons x text ih =>
      cases ht : cutLast c text with
      | some parts =>
          simp only [cutLast, ht, Option.some.injEq, Prod.mk.injEq] at h
          obtain ⟨rfl, rfl⟩ := h
          obtain ⟨e, hb⟩ := ih (a := parts.1) (by rw [ht])
          exact ⟨by rw [List.cons_append, ← e], hb⟩
      | none =>
          by_cases hx : x = c
          · simp only [cutLast, ht, hx, if_true, Option.some.injEq, Prod.mk.injEq] at h
            obtain ⟨rfl, rfl⟩ := h
            exact ⟨by simp [hx], cutLast_eq_none_iff.1 ht⟩
          · simp [cutLast, ht, hx] at h

def pieces (c : α) : List α → List (List α)
  | [] => [[]]
  | x :: text =>
      if x = c then [] :: pieces c text
      else
        match pieces c text with
        | [] => [[x]]
        | piece :: rest => (x :: piece) :: rest

@[simp] theorem pieces_nil (c : α) : pieces c [] = [[]] := rfl

theorem pieces_ne_nil (c : α) (text : List α) : pieces c text ≠ [] := by
  cases text with
  | nil => simp
  | cons x text =>
      simp only [pieces]
      split
      · simp
      · split <;> simp

theorem pieces_append (c : α) {a : List α} (b : List α) (h : c ∉ a) :
    pieces c (a ++ c :: b) = a :: pieces c b := by
  induction a with
  | nil => simp [pieces]
  | cons x a ih =>
      simp only [List.mem_cons, not_or] at h
      simp [pieces, Ne.symm h.1, ih h.2]

theorem pieces_of_not_mem (c : α) {a : List α} (h : c ∉ a) : pieces c a = [a] := by
  induction a with
  | nil => rfl
  | cons x a ih =>
      simp only [List.mem_cons, not_or] at h
      simp [pieces, Ne.symm h.1, ih h.2]

def withoutFinalBreak (text : List Char) : List Char :=
  if text.getLast? = some '\n' then text.dropLast else text

end ImageRegistry.Text
