import ImageRegistry.Calendar.Date
import ImageRegistry.Text.Digits

namespace ImageRegistry.Calendar

open Text

-- A fixed zone may have no offset either; it is still shown by its seconds.
inductive Zone where
  | universal
  | fixed (seconds : Int)
  deriving DecidableEq, Repr

def Zone.seconds : Zone → Int
  | universal => 0
  | fixed seconds => seconds

def Zone.display : Zone → String
  | universal => "tzutc()"
  | fixed seconds => "tzoffset(None, " ++ toString seconds ++ ")"

structure Timestamp where
  date : Date
  hour : Nat
  minute : Nat
  second : Nat
  microsecond : Nat
  zone : Option Zone
  deriving DecidableEq, Repr

def Timestamp.offset (t : Timestamp) : Option Int :=
  t.zone.map Zone.seconds

def Timestamp.IsValid (t : Timestamp) : Prop :=
  t.date.IsValid ∧ t.hour < 24 ∧ t.minute < 60 ∧ t.second < 60 ∧ t.microsecond < 1000000 ∧
    ∀ offset ∈ t.offset, -86400 < offset ∧ offset < 86400

instance (t : Timestamp) : Decidable t.IsValid := by
  unfold Timestamp.IsValid
  infer_instance

def writeDate (d : Date) : List Char :=
  padded 10 4 d.year ++ '-' :: padded 10 2 d.month ++ '-' :: padded 10 2 d.day

def writeOffset (offset : Int) : List Char :=
  let minutes := offset.natAbs / 60
  (if offset < 0 then '-' else '+') ::
    (padded 10 2 (minutes / 60) ++ ':' :: padded 10 2 (minutes % 60))

def Timestamp.write (t : Timestamp) : List Char :=
  writeDate t.date ++ 'T' :: padded 10 2 t.hour ++ ':' :: padded 10 2 t.minute ++
    ':' :: padded 10 2 t.second ++
    (if t.microsecond = 0 then [] else '.' :: padded 10 6 t.microsecond) ++
    (t.offset.map writeOffset).getD []

def Timestamp.isoFormat (t : Timestamp) : String :=
  String.ofList t.write

def Timestamp.display (t : Timestamp) : String :=
  let parts := [t.date.year, t.date.month, t.date.day, t.hour, t.minute] ++
    (if t.microsecond ≠ 0 then [t.second, t.microsecond]
      else if t.second ≠ 0 then [t.second]
      else [])
  let zone := t.zone.toList.map fun zone => "tzinfo=" ++ zone.display
  "datetime.datetime(" ++ ", ".intercalate (parts.map toString ++ zone) ++ ")"

end ImageRegistry.Calendar
