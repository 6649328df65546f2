import ImageRegistry.Calendar.Timestamp

namespace ImageRegistry.Calendar

open Text

-- Releases of the reader differ in what may stand in the places of a field: a digit in each of
-- them, or any integer literal, at the end of a text in fewer places too.
inductive NumberForm where
  | digits
  | literal
  deriving DecidableEq, Repr

def NumberForm.read? (form : NumberForm) (width : Nat) (field : List Char) : Option Int :=
  match form with
  | digits =>
      if field.length = width ∧ field.all Char.isDigit then some (decimalValue field : Int)
      else none
  | literal => integer? field

variable (form : NumberForm)

def number? (width : Nat) (text : List Char) : Option (Int × List Char) :=
  (form.read? width (text.take width)).map fun n => (n, text.drop width)

def wholeNumber? (width : Nat) (text : List Char) : Option (Int × List Char) :=
  if text.length < width then none else number? form width text

-- Not checked against the calendar; what is below zero is no better than zero there.
def monthDate? (text : List Char) : Option (Date × List Char) := do
  let (year, rest) ← wholeNumber? form 4 text
  match rest with
  | [] => pure (⟨year.toNat, 1, 1⟩, [])
  | '-' :: rest =>
      let (month, rest) ← wholeNumber? form 2 rest
      match rest with
      | [] => pure (⟨year.toNat, month.toNat, 1⟩, [])
      | '-' :: rest =>
          let (day, rest) ← wholeNumber? form 2 rest
          pure (⟨year.toNat, month.toNat, day.toNat⟩, rest)
      | _ => none
  | rest =>
      let (month, rest) ← wholeNumber? form 2 rest
      let (day, rest) ← wholeNumber? form 2 rest
      pure (⟨year.toNat, month.toNat, day.toNat⟩, rest)

def weekDay? (dashed : Bool) (text : List Char) : Option (Int × List Char) :=
  if text.isEmpty then some (1, [])
  else if (text.head? == some '-') == dashed then
    number? form 1 (if dashed then text.drop 1 else text)
  else none

def yearDate? (text : List Char) : Option (Date × List Char) := do
  let (year, rest) ← wholeNumber? form 4 text
  let dashed := rest.head? == some '-'
  match if dashed then rest.drop 1 else rest with
  | 'W' :: rest =>
      let (week, rest) ← number? form 2 rest
      let (day, rest) ← weekDay? form dashed rest
      if 1 ≤ year ∧ 1 ≤ week ∧ week ≤ 53 ∧ 1 ≤ day ∧ day ≤ 7 then
        pure (ofWeek year.toNat week.toNat day.toNat, rest)
      else none
  | rest =>
      let (day, rest) ← wholeNumber? form 3 rest
      if 1 ≤ year ∧ 1 ≤ day ∧ day ≤ yearLength year.toNat then
        pure (ofYearDay year.toNat day.toNat, rest)
      else none

-- A date by month and day that turns out to be none is not read again as one by week or day.
def date? (text : List Char) : Option (Date × List Char) :=
  monthDate? form text <|> yearDate? form text

def clock? (text : List Char) : Option (Int × Int) := do
  let (hours, rest) ← number? form 2 text
  if text.length = 2 then pure (hours, 0)
  else if text.length = 4 ∨ text.length = 5 then
    let minutes ← form.read? 2 (if rest.head? = some ':' then rest.drop 1 else rest)
    pure (hours, minutes)
  else none

def signedZone? (negative : Bool) (text : List Char) : Option Zone := do
  let (hours, minutes) ← clock? form text
  let seconds := (hours * 60 + minutes) * 60
  if hours = 0 ∧ minutes = 0 then pure .universal
  else if hours ≤ 23 ∧ minutes ≤ 59 then pure (.fixed (if negative then -seconds else seconds))
  else none

def zone? : List Char → Option Zone
  | ['Z'] => some .universal
  | ['z'] => some .universal
  | '+' :: rest => signedZone? form false rest
  | '-' :: rest => signedZone? form true rest
  | _ => none

structure DayTime where
  hour : Int := 0
  minute : Int := 0
  second : Int := 0
  microsecond : Nat := 0
  zone : Option Zone := none
  deriving DecidableEq, Repr

def startsZone (text : List Char) : Bool :=
  match text with
  | c :: _ => c == '+' || c == '-' || c == 'Z' || c == 'z'
  | [] => false

def DayTime.finish? (t : DayTime) (text : List Char) : Option DayTime :=
  if text.isEmpty then some t else (zone? form text).map fun zone => { t with zone := some zone }

def microseconds (digits : List Char) : Nat :=
  decimalValue (digits.take 6) * Nat.pow 10 (6 - digits.length)

def DayTime.fraction? (t : DayTime) (text : List Char) : Option DayTime :=
  match text with
  | c :: rest =>
      let digits := rest.takeWhile Char.isDigit
      if (c = '.' ∨ c = ',') ∧ digits ≠ [] then
        { t with microsecond := microseconds digits }.finish? form (rest.dropWhile Char.isDigit)
      else t.finish? form text
  | [] => some t

def DayTime.second? (t : DayTime) (colon : Bool) (text : List Char) : Option DayTime :=
  if text.isEmpty || startsZone text then t.finish? form text
  else do
    let rest ←
      if !colon then some text else if text.head? = some ':' then some (text.drop 1) else none
    let (second, rest) ← number? form 2 rest
    { t with second := second }.fraction? form rest

def DayTime.minute? (t : DayTime) (text : List Char) : Option DayTime :=
  if text.isEmpty || startsZone text then t.finish? form text
  else do
    let colon := text.head? == some ':'
    let (minute, rest) ← number? form 2 (if colon then text.drop 1 else text)
    { t with minute := minute }.second? form colon rest

def dayTime? (text : List Char) : Option DayTime :=
  if text.length < 2 then none
  else if startsZone text then DayTime.finish? form {} text
  else do
    let (hour, rest) ← number? form 2 text
    DayTime.minute? form { hour := hour } rest

def DayTime.InRange (t : DayTime) : Prop :=
  0 ≤ t.hour ∧ t.hour < 24 ∧ 0 ≤ t.minute ∧ t.minute < 60 ∧ 0 ≤ t.second ∧ t.second < 60

instance (t : DayTime) : Decidable t.InRange := by
  unfold DayTime.InRange
  infer_instance

-- Hour 24 is the first moment of the next day.
def Timestamp.at? (date : Date) (t : DayTime) : Option Timestamp := do
  let date ← date.valid?
  if t.hour = 24 then
    if t.minute = 0 ∧ t.second = 0 ∧ t.microsecond = 0 then
      let date ← date.next.valid?
      pure ⟨date, 0, 0, 0, 0, t.zone⟩
    else none
  else if t.InRange then
    pure ⟨date, t.hour.toNat, t.minute.toNat, t.second.toNat, t.microsecond, t.zone⟩
  else none

def Timestamp.read? (text : List Char) : Option Timestamp :=
  if text.all fun c => c.toNat < 0x80 then do
    let (date, rest) ← date? form text
    match rest with
    | [] => Timestamp.at? date {}
    | _ :: rest =>
        let time ← dayTime? form rest
        Timestamp.at? date time
  else none

end ImageRegistry.Calendar
