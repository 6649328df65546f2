import Mathlib.Data.List.TakeWhile
import ImageRegistry.Calendar.Reader
import ImageRegistry.Proofs.Text.Digits

namespace ImageRegistry.Calendar

open Text

theorem microseconds_eq (digits : List Char) :
    microseconds digits = decimalValue ((digits ++ List.replicate 6 '0').take 6) := by
  have hmissing : min (6 - digits.length) 6 = 6 - digits.length := by omega
  rw [List.take_append, List.take_replicate, hmissing, decimalValue_append_zeros, Nat.mul_comm]
  rfl

theorem microseconds_nil : microseconds [] = 0 := by
  rw [microseconds, List.take_nil]
  exact Nat.zero_mul _

theorem microseconds_lt {digits : List Char} (h : ∀ c ∈ digits, c.isDigit = true) :
    microseconds digits < 1000000 := by
  have hd : ∀ c ∈ (digits ++ List.replicate 6 '0').take 6, c.isDigit = true := by
    intro c hc
    rcases List.mem_append.1 (List.mem_of_mem_take hc) with hc | hz
    · exact h c hc
    · rw [List.eq_of_mem_replicate hz]
      rfl
  have hl : ((digits ++ List.replicate 6 '0').take 6).length = 6 := by
    rw [List.length_take, List.length_append, List.length_replicate]
    omega
  have hv := decimalValue_lt hd
  rwa [hl, ← microseconds_eq] at hv

variable {form : NumberForm}

theorem NumberForm.read?_bounds {places width : Nat} {field : List Char} {n : Int}
    (h : form.read? places field = some n) (hl : field.length ≤ width + 1) :
    -(Nat.pow 10 width : Int) < n ∧ n < (Nat.pow 10 (width + 1) : Int) := by
  cases form with
  | digits =>
      unfold read? at h
      dsimp only at h
      split at h
      · next hd =>
          cases h
          have hpow : 0 < Nat.pow 10 width := Nat.pow_pos (by decide)
          have hlt : decimalValue field < Nat.pow 10 (width + 1) :=
            Nat.lt_of_lt_of_le (decimalValue_lt (List.all_eq_true.1 hd.2))
              (Nat.pow_le_pow_right (by decide) hl)
          omega
      · cases h
  | literal => exact integer?_bounds h hl

theorem NumberForm.read?_numeral {width n : Nat} {digits : List Char}
    (h : IsNumeral width n digits) (hw : 0 < width) : form.read? width digits = some (n : Int) := by
  cases form with
  | digits =>
      have hd : digits.length = width ∧ digits.all Char.isDigit = true :=
        ⟨h.length, List.all_eq_true.2 h.isDigit⟩
      unfold read?
      dsimp only
      rw [if_pos hd, h.value]
  | literal => exact integer?_numeral h hw

def IsOffset (offset : Int) : Prop :=
  -86400 < offset ∧ offset < 86400

structure Zone.IsWritable (zone : Zone) : Prop where
  isOffset : IsOffset zone.seconds
  whole : 60 ∣ zone.seconds

theorem Zone.isWritable_universal : Zone.universal.IsWritable :=
  ⟨⟨by decide, by decide⟩, by decide⟩

-- A sign of their own may take hours and minutes below zero, but not out of a day.
theorem clock?_bounds {text : List Char} {hours minutes : Int}
    (h : clock? form text = some (hours, minutes)) : -10 < hours ∧ -100 < minutes := by
  obtain ⟨⟨read, rest⟩, hn, h⟩ := Option.bind_eq_some_iff.1 h
  obtain ⟨_, hi, ⟨⟩⟩ := Option.map_eq_some_iff.1 hn
  have hl : (text.take 2).length ≤ 1 + 1 := List.length_take_le 2 text
  have hb : -10 < read := (NumberForm.read?_bounds hi hl).1
  dsimp only at h
  split at h
  · cases h
    exact ⟨hb, by decide⟩
  · split at h
    · next hlength =>
        obtain ⟨m, hm, h⟩ := Option.bind_eq_some_iff.1 h
        cases h
        have hd : (text.drop 2).length ≤ 2 + 1 := by
          rw [List.length_drop]
          omega
        have hr : (if (text.drop 2).head? = some ':' then (text.drop 2).drop 1
            else text.drop 2).length ≤ 2 + 1 := by
          split
          · exact Nat.le_trans (List.drop_sublist 1 _).length_le hd
          · exact hd
        exact ⟨hb, (NumberForm.read?_bounds hm hr).1⟩
    · cases h

theorem isWritable_of_signedZone? {negative : Bool} {text : List Char} {zone : Zone}
    (h : signedZone? form negative text = some zone) : zone.IsWritable := by
  obtain ⟨⟨hours, minutes⟩, hc, h⟩ := Option.bind_eq_some_iff.1 h
  obtain ⟨hh, hm⟩ := clock?_bounds hc
  dsimp only at h
  split at h
  · cases h
    exact Zone.isWritable_universal
  · split at h
    · cases h
      constructor
      · unfold IsOffset Zone.seconds
        dsimp only
        split <;> omega
      · unfold Zone.seconds
        dsimp only
        split <;> omega
    · cases h

theorem isWritable_of_zone? {text : List Char} {zone : Zone} (h : zone? form text = some zone) :
    zone.IsWritable := by
  unfold zone? at h
  split at h
  · cases h
    exact Zone.isWritable_universal
  · cases h
    exact Zone.isWritable_universal
  · exact isWritable_of_signedZone? h
  · exact isWritable_of_signedZone? h
  · cases h

inductive DayTime.Filled : DayTime → Prop
  | hour (hour : Int) : Filled { hour := hour }
  | minute {t : DayTime} (minute : Int) : Filled t → Filled { t with minute := minute }
  | second {t : DayTime} (second : Int) : Filled t → Filled { t with second := second }
  | fraction {t : DayTime} {digits : List Char} :
      (∀ c ∈ digits, c.isDigit = true) → Filled t →
        Filled { t with microsecond := microseconds digits }
  | zone {t : DayTime} {zone : Zone} :
      zone.IsWritable → Filled t → Filled { t with zone := some zone }

namespace DayTime.Filled

variable {t t' : DayTime} {text : List Char}

theorem finish? (h : t.Filled) (hf : t.finish? form text = some t') : t'.Filled := by
  unfold DayTime.finish? at hf
  split at hf
  · cases hf
    exact h
  · obtain ⟨zone, hz, rfl⟩ := Option.map_eq_some_iff.1 hf
    exact h.zone (isWritable_of_zone? hz)

theorem fraction? (h : t.Filled) (hf : t.fraction? form text = some t') : t'.Filled := by
  unfold DayTime.fraction? at hf
  split at hf
  · dsimp only at hf
    split at hf
    · exact (Filled.fraction (fun c hc => List.mem_takeWhile_imp hc) h).finish? hf
    · exact h.finish? hf
  · cases hf
    exact h

theorem second? (h : t.Filled) {colon : Bool} (hs : t.second? form colon text = some t') :
    t'.Filled := by
  unfold DayTime.second? at hs
  split at hs
  · exact h.finish? hs
  · have hbehind {rest : List Char} (hr : ((number? form 2 rest).bind fun read =>
        { t with second := read.1 }.fraction? form read.2) = some t') : t'.Filled := by
      obtain ⟨read, -, hf⟩ := Option.bind_eq_some_iff.1 hr
      exact (h.second read.1).fraction? hf
    dsimp only at hs
    split at hs
    · exact hbehind hs
    · split at hs
      · exact hbehind hs
      · cases hs

theorem minute? (h : t.Filled) (hm : t.minute? form text = some t') : t'.Filled := by
  unfold DayTime.minute? at hm
  split at hm
  · exact h.finish? hm
  · obtain ⟨⟨minute, rest⟩, -, hm⟩ := Option.bind_eq_some_iff.1 hm
    exact (h.minute minute).second? hm

theorem of_dayTime? (h : dayTime? form text = some t) : t.Filled := by
  unfold dayTime? at h
  split at h
  · cases h
  · split at h
    · exact (Filled.hour 0).finish? h
    · obtain ⟨⟨hour, rest⟩, -, hm⟩ := Option.bind_eq_some_iff.1 h
      exact (Filled.hour hour).minute? hm

theorem isWritable (h : t.Filled) : ∀ zone ∈ t.zone, zone.IsWritable := by
  induction h with
  | hour hour => exact nofun
  | minute minute _ ih => exact ih
  | second second _ ih => exact ih
  | fraction _ _ ih => exact ih
  | zone hw _ _ =>
      intro zone hz
      cases hz
      exact hw

theorem microsecond_lt (h : t.Filled) : t.microsecond < 1000000 := by
  induction h with
  | hour hour => exact Nat.zero_lt_succ _
  | minute minute _ ih => exact ih
  | second second _ ih => exact ih
  | fraction hd _ _ => exact microseconds_lt hd
  | zone _ _ ih => exact ih

end DayTime.Filled

namespace Timestamp

theorem isValid_of_valid? {d d' : Date} (h : d.valid? = some d') : d'.IsValid := by
  unfold Date.valid? at h
  split at h
  · next hv =>
      cases h
      exact hv
  · cases h

theorem inRange_of_at? {date : Date} {t : DayTime} {time : Timestamp}
    (hm : t.microsecond < 1000000) (h : Timestamp.at? date t = some time) :
    (time.date.IsValid ∧ time.hour < 24 ∧ time.minute < 60 ∧ time.second < 60 ∧
      time.microsecond < 1000000) ∧ time.zone = t.zone := by
  simp only [Timestamp.at?, Option.bind_eq_bind, Option.bind_eq_some_iff] at h
  obtain ⟨date, hd, h⟩ := h
  split at h
  · split at h
    · obtain ⟨next, hn, h⟩ := Option.bind_eq_some_iff.1 h
      cases h
      exact ⟨⟨isValid_of_valid? hn, Nat.zero_lt_succ _, Nat.zero_lt_succ _, Nat.zero_lt_succ _,
        Nat.zero_lt_succ _⟩, rfl⟩
    · cases h
  · split at h
    · next hr =>
        obtain ⟨h0, h24, m0, m60, s0, s60⟩ := hr
        cases h
        refine ⟨⟨isValid_of_valid? hd, ?_, ?_, ?_, hm⟩, rfl⟩
        all_goals
          dsimp only
          omega
    · cases h

theorem exists_filled_of_read? {text : List Char} {time : Timestamp}
    (h : read? form text = some time) :
    ∃ date t, DayTime.Filled t ∧ Timestamp.at? date t = some time := by
  unfold read? at h
  split at h
  · obtain ⟨⟨date, rest⟩, -, h⟩ := Option.bind_eq_some_iff.1 h
    cases rest with
    | nil => exact ⟨date, {}, .hour 0, h⟩
    | cons c rest =>
        obtain ⟨t, ht, h⟩ := Option.bind_eq_some_iff.1 h
        exact ⟨date, t, .of_dayTime? ht, h⟩
  · cases h

theorem isWritable_of_read? {text : List Char} {time : Timestamp}
    (h : read? form text = some time) : ∀ zone ∈ time.zone, zone.IsWritable := by
  obtain ⟨date, t, hf, ht⟩ := exists_filled_of_read? h
  rw [(inRange_of_at? hf.microsecond_lt ht).2]
  exact hf.isWritable

theorem isValid_of_read? {text : List Char} {time : Timestamp} (h : read? form text = some time) :
    time.IsValid := by
  obtain ⟨date, t, hf, ht⟩ := exists_filled_of_read? h
  obtain ⟨⟨hd, hh, hm, hs, hu⟩, -⟩ := inRange_of_at? hf.microsecond_lt ht
  refine ⟨hd, hh, hm, hs, hu, fun offset ho => ?_⟩
  obtain ⟨zone, hz, rfl⟩ := Option.map_eq_some_iff.1 ho
  exact (isWritable_of_read? h zone hz).isOffset

-- The third of December, parted from the time by a digit.
example : read? .literal "2020123 110000".toList = some ⟨⟨2020, 12, 3⟩, 10, 0, 0, 0, none⟩ := by
  decide +kernel

end Timestamp

end ImageRegistry.Calendar
