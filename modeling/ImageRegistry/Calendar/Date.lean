namespace ImageRegistry.Calendar

structure Date where
  year : Nat
  month : Nat
  day : Nat
  deriving DecidableEq, Repr

def isLeap (year : Nat) : Bool :=
  year % 4 == 0 && (year % 100 != 0 || year % 400 == 0)

def yearLength (year : Nat) : Nat :=
  if isLeap year then 366 else 365

def monthLength (year : Nat) : Nat → Nat
  | 2 => if isLeap year then 29 else 28
  | 4 | 6 | 9 | 11 => 30
  | _ => 31

def Date.IsValid (d : Date) : Prop :=
  1 ≤ d.year ∧ d.year ≤ 9999 ∧ 1 ≤ d.month ∧ d.month ≤ 12 ∧ 1 ≤ d.day ∧
    d.day ≤ monthLength d.year d.month

instance (d : Date) : Decidable d.IsValid := by
  unfold Date.IsValid
  infer_instance

def Date.valid? (d : Date) : Option Date :=
  if d.IsValid then some d else none

def Date.next (d : Date) : Date :=
  if d.day < monthLength d.year d.month then { d with day := d.day + 1 }
  else if d.month < 12 then ⟨d.year, d.month + 1, 1⟩
  else ⟨d.year + 1, 1, 1⟩

def ofDays (year : Nat) : (months : Nat) → (month n : Nat) → Date
  | 0, month, n => ⟨year, month, n⟩
  | months + 1, month, n =>
      if n ≤ monthLength year month then ⟨year, month, n⟩
      else ofDays year months (month + 1) (n - monthLength year month)

def ofYearDay (year n : Nat) : Date :=
  ofDays year 11 1 n

def daysBefore (year : Nat) : Nat :=
  let past := year - 1
  365 * past + past / 4 - past / 100 + past / 400

def firstMonday (year : Nat) : Int :=
  4 - ((daysBefore year + 3) % 7 : Nat)

def ofWeek (year week day : Nat) : Date :=
  let n := firstMonday year + 7 * (week - 1) + (day - 1)
  if n < 1 then ofYearDay (year - 1) (yearLength (year - 1) + n).toNat
  else if yearLength year < n then ofYearDay (year + 1) (n - yearLength year).toNat
  else ofYearDay year n.toNat

end ImageRegistry.Calendar
