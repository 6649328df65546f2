import ImageRegistry.Proofs.AccessToken

namespace ImageRegistry

namespace Calendar

open Text

inductive Offset where
  | utc
  | shifted (west : Bool) (hours : Fin 24) (minutes : Fin 60)

namespace Offset

def text : Offset → List Char
  | utc => ['Z']
  | shifted west hours minutes =>
      (if west then '-' else '+') :: (padded 10 2 hours ++ ':' :: padded 10 2 minutes)

def seconds : Offset → Int
  | utc => 0
  | shifted west hours minutes =>
      if west then -((hours * 60 + minutes) * 60) else (hours * 60 + minutes) * 60

def zone (offset : Offset) : Zone :=
  if offset.seconds = 0 then .universal else .fixed offset.seconds

theorem seconds_zone (offset : Offset) : offset.zone.seconds = offset.seconds := by
  unfold zone
  split
  · next h => exact h.symm
  · rfl

end Offset

structure Timestamp.Agrees (a b : Timestamp) : Prop where
  date : a.date = b.date
  hour : a.hour = b.hour
  minute : a.minute = b.minute
  second : a.second = b.second
  microsecond : a.microsecond = b.microsecond
  offset : a.offset = b.offset

structure InternetTime where
  date : Date
  hour : Fin 24
  minute : Fin 60
  second : Fin 60
  fraction : List Char
  offset : Offset
  valid : date.IsValid
  isDigit : ∀ c ∈ fraction, c.isDigit = true

def fractionText : List Char → List Char
  | [] => []
  | digit :: digits => '.' :: digit :: digits

namespace InternetTime

def text (t : InternetTime) : List Char :=
  writeDate t.date ++ 'T' :: padded 10 2 t.hour ++ ':' :: padded 10 2 t.minute ++
    ':' :: padded 10 2 t.second ++ fractionText t.fraction ++ t.offset.text

def microsecond (t : InternetTime) : Nat :=
  decimalValue ((t.fraction ++ List.replicate 6 '0').take 6)

def timestamp (t : InternetTime) : Timestamp :=
  ⟨t.date, t.hour, t.minute, t.second, t.microsecond, some t.offset.zone⟩

end InternetTime

variable {form : NumberForm}

section Fields

theorem number?_numeral {width n : Nat} {digits : List Char} (h : IsNumeral width n digits)
    (hw : 0 < width) (rest : List Char) :
    number? form width (digits ++ rest) = some ((n : Int), rest) := by
  unfold number?
  rw [List.take_left' h.length, List.drop_left' h.length, NumberForm.read?_numeral h hw]
  rfl

theorem wholeNumber?_numeral {width n : Nat} {digits : List Char} (h : IsNumeral width n digits)
    (hw : 0 < width) (rest : List Char) :
    wholeNumber? form width (digits ++ rest) = some ((n : Int), rest) := by
  have hl : ¬ (digits ++ rest).length < width := by
    rw [List.length_append, h.length]
    omega
  rw [wholeNumber?, if_neg hl, number?_numeral h hw]

theorem isNumeral_two {n : Nat} (h : n < 100) : IsNumeral 2 n (padded 10 2 n) :=
  isNumeral_padded (by decide) h

theorem number?_two {n : Nat} (h : n < 100) (rest : List Char) :
    number? form 2 (padded 10 2 n ++ rest) = some ((n : Int), rest) :=
  number?_numeral (isNumeral_two h) (by decide) rest

theorem wholeNumber?_two {n : Nat} (h : n < 100) (rest : List Char) :
    wholeNumber? form 2 (padded 10 2 n ++ rest) = some ((n : Int), rest) :=
  wholeNumber?_numeral (isNumeral_two h) (by decide) rest

theorem digit_ne {c : Char} (h : c.isDigit = true) : c ≠ '+' ∧ c ≠ '-' ∧ c ≠ 'Z' ∧ c ≠ 'z' := by
  refine ⟨?_, ?_, ?_, ?_⟩
  all_goals
    rintro rfl
    exact absurd h (by decide)

theorem startsZone_numeral {width n : Nat} {digits : List Char} (h : IsNumeral width n digits)
    (hw : 0 < width) (rest : List Char) : startsZone (digits ++ rest) = false := by
  cases digits with
  | nil => exact absurd h.length (Nat.ne_of_lt hw)
  | cons c digits =>
      obtain ⟨hplus, hminus, hZ, hz⟩ := digit_ne (h.isDigit c List.mem_cons_self)
      simp [startsZone, hplus, hminus, hZ, hz]

theorem monthLength_le (year month : Nat) : monthLength year month ≤ 31 := by
  unfold monthLength
  split
  · split <;> decide
  all_goals decide

theorem date?_writeDate {d : Date} (h : d.IsValid) (rest : List Char) :
    date? form (writeDate d ++ rest) = some (d, rest) := by
  obtain ⟨-, hyear, -, hmonth, -, hday⟩ := h
  have hlength := monthLength_le d.year d.month
  have hy : IsNumeral 4 d.year (padded 10 4 d.year) :=
    isNumeral_padded (by decide) (Nat.lt_succ_of_le hyear)
  have hm : monthDate? form (writeDate d ++ rest) = some (d, rest) := by
    unfold monthDate? writeDate
    simp only [List.append_assoc, List.cons_append]
    rw [wholeNumber?_numeral hy (by decide)]
    simp only [Option.bind_eq_bind, Option.bind_some]
    rw [wholeNumber?_two (by omega)]
    simp only [Option.bind_some]
    rw [wholeNumber?_two (by omega)]
    rfl
  rw [date?, hm]
  rfl

end Fields

section Clock

theorem clock?_written (hours : Fin 24) (minutes : Fin 60) :
    clock? form (padded 10 2 hours ++ ':' :: padded 10 2 minutes) =
      some ((hours.val : Int), (minutes.val : Int)) := by
  have hh : IsNumeral 2 hours (padded 10 2 hours) := isNumeral_two (by omega)
  have hm : IsNumeral 2 minutes (padded 10 2 minutes) := isNumeral_two (by omega)
  have hl : (padded 10 2 hours ++ ':' :: padded 10 2 minutes).length = 5 := by
    rw [List.length_append, List.length_cons, hh.length, hm.length]
  unfold clock?
  rw [number?_two (by omega), hl]
  simp [NumberForm.read?_numeral hm]

theorem signedZone?_written (negative : Bool) (hours : Fin 24) (minutes : Fin 60) :
    signedZone? form negative (padded 10 2 hours ++ ':' :: padded 10 2 minutes) =
      some (Offset.shifted negative hours minutes).zone := by
  have hh : (hours.val : Int) ≤ 23 := by omega
  have hm : (minutes.val : Int) ≤ 59 := by omega
  unfold signedZone?
  rw [clock?_written]
  simp only [Option.bind_eq_bind, Option.bind_some, Offset.zone]
  by_cases hz : (hours.val : Int) = 0 ∧ (minutes.val : Int) = 0
  · have hs : (Offset.shifted negative hours minutes).seconds = 0 := by
      simp only [Offset.seconds]
      split <;> omega
    rw [if_pos hz, if_pos hs]
    rfl
  · have hs : (Offset.shifted negative hours minutes).seconds ≠ 0 := by
      simp only [Offset.seconds]
      split <;> omega
    rw [if_neg hz, if_pos ⟨hh, hm⟩, if_neg hs]
    rfl

theorem zone?_text (offset : Offset) : zone? form offset.text = some offset.zone := by
  cases offset with
  | utc => rfl
  | shifted west hours minutes =>
      cases west with
      | true => exact signedZone?_written true hours minutes
      | false => exact signedZone?_written false hours minutes

theorem Offset.exists_text_eq_cons (offset : Offset) :
    ∃ c rest, offset.text = c :: rest ∧ ¬ (c = '.' ∨ c = ',') ∧ ¬ c.isDigit = true := by
  cases offset with
  | utc => exact ⟨'Z', [], rfl, by decide, by decide⟩
  | shifted west hours minutes =>
      refine ⟨_, _, rfl, ?_⟩
      cases west with
      | true => decide
      | false => decide

end Clock

namespace DayTime

variable (t : DayTime)

theorem finish?_offset (offset : Offset) :
    t.finish? form offset.text = some { t with zone := some offset.zone } := by
  have hn : offset.text.isEmpty = false := by cases offset <;> rfl
  rw [DayTime.finish?, hn, zone?_text]
  rfl

theorem fraction?_written {digits : List Char} (hd : ∀ c ∈ digits, c.isDigit = true)
    (ht : t.microsecond = 0) (offset : Offset) :
    t.fraction? form (fractionText digits ++ offset.text) =
      some { t with microsecond := microseconds digits, zone := some offset.zone } := by
  obtain ⟨c, rest, hz, hmark, hc⟩ := offset.exists_text_eq_cons
  cases digits with
  | nil =>
      have hf : t.fraction? form offset.text = t.finish? form offset.text := by
        rw [hz]
        exact if_neg fun h => hmark h.1
      rw [fractionText, List.nil_append, hf, finish?_offset, microseconds_nil, ← ht]
  | cons digit digits =>
      have htake : ((digit :: digits) ++ offset.text).takeWhile Char.isDigit = digit :: digits := by
        rw [List.takeWhile_append_of_pos hd, hz, List.takeWhile_cons, if_neg hc, List.append_nil]
      have hdrop : ((digit :: digits) ++ offset.text).dropWhile Char.isDigit = offset.text := by
        rw [List.dropWhile_append_of_pos hd, hz, List.dropWhile_cons, if_neg hc]
      rw [fractionText, List.cons_append, DayTime.fraction?, htake, hdrop]
      rw [if_pos ⟨.inl rfl, List.cons_ne_nil digit digits⟩]
      exact finish?_offset _ offset

theorem second?_written (second : Fin 60) (rest : List Char) :
    t.second? form true (':' :: (padded 10 2 second ++ rest)) =
      { t with second := second }.fraction? form rest := by
  have hd : number? form 2 (padded 10 2 second ++ rest) = some ((second.val : Int), rest) :=
    number?_two (by omega) rest
  unfold DayTime.second?
  simp [startsZone, hd]

theorem minute?_written (minute : Fin 60) (rest : List Char) :
    t.minute? form (':' :: (padded 10 2 minute ++ rest)) =
      { t with minute := minute }.second? form true rest := by
  have hd : number? form 2 (padded 10 2 minute ++ rest) = some ((minute.val : Int), rest) :=
    number?_two (by omega) rest
  unfold DayTime.minute?
  simp [startsZone, hd]

end DayTime

theorem dayTime?_written (hour : Fin 24) (rest : List Char) :
    dayTime? form (padded 10 2 hour ++ rest) = DayTime.minute? form { hour := hour } rest := by
  have hn : IsNumeral 2 hour (padded 10 2 hour) := isNumeral_two (by omega)
  have hl : ¬ (padded 10 2 hour ++ rest).length < 2 := by
    rw [List.length_append, hn.length]
    omega
  rw [dayTime?, if_neg hl, startsZone_numeral hn (by decide), number?_numeral hn (by decide)]
  rfl

namespace InternetTime

variable (t : InternetTime)

theorem text_eq : t.text =
    writeDate t.date ++ 'T' :: (padded 10 2 t.hour ++ ':' :: (padded 10 2 t.minute ++
      ':' :: (padded 10 2 t.second ++ (fractionText t.fraction ++ t.offset.text)))) := by
  simp only [text, List.append_assoc, List.cons_append]

theorem ascii_text : ∀ c ∈ t.text, c.toNat < 0x80 := by
  have hdigits (width n : Nat) : ∀ c ∈ padded 10 width n, c.toNat < 0x80 := fun c hc =>
    toNat_lt_of_isDigit (isDigit_padded width n c hc)
  have hf : ∀ c ∈ fractionText t.fraction, c.toNat < 0x80 := by
    cases hd : t.fraction with
    | nil => exact nofun
    | cons digit digits =>
        refine List.forall_mem_cons.2 ⟨by decide, fun c hc => toNat_lt_of_isDigit (t.isDigit c ?_)⟩
        rwa [hd]
  have hz : ∀ c ∈ t.offset.text, c.toNat < 0x80 := by
    cases t.offset with
    | utc => exact List.forall_mem_singleton.2 (by decide)
    | shifted west hours minutes =>
        refine List.forall_mem_cons.2 ⟨by cases west <;> decide, ?_⟩
        exact List.forall_mem_append.2
          ⟨hdigits _ _, List.forall_mem_cons.2 ⟨by decide, hdigits _ _⟩⟩
  simp only [text, writeDate, List.forall_mem_append, List.forall_mem_cons]
  and_intros
  all_goals first | exact hdigits _ _ | exact hf | exact hz | decide

theorem at?_timestamp : Timestamp.at? t.date
    ⟨t.hour, t.minute, t.second, t.microsecond, some t.offset.zone⟩ = some t.timestamp := by
  have hday : (t.hour.val : Int) ≠ 24 := by omega
  have hd : t.date.valid? = some t.date := if_pos t.valid
  have hr : DayTime.InRange ⟨t.hour, t.minute, t.second, t.microsecond, some t.offset.zone⟩ := by
    unfold DayTime.InRange
    dsimp only
    omega
  rw [Timestamp.at?, hd]
  simp only [Option.bind_eq_bind, Option.bind_some]
  rw [if_neg hday, if_pos hr]
  rfl

theorem read?_text : Timestamp.read? form t.text = some t.timestamp := by
  have hascii : t.text.all (fun c => c.toNat < 0x80) = true :=
    List.all_eq_true.2 fun c hc => decide_eq_true (t.ascii_text c hc)
  have hday : dayTime? form (padded 10 2 t.hour ++ ':' :: (padded 10 2 t.minute ++
      ':' :: (padded 10 2 t.second ++ (fractionText t.fraction ++ t.offset.text)))) =
      some ⟨t.hour, t.minute, t.second, t.microsecond, some t.offset.zone⟩ := by
    rw [dayTime?_written, DayTime.minute?_written, DayTime.second?_written,
      DayTime.fraction?_written _ t.isDigit rfl, microseconds_eq]
    rfl
  rw [Timestamp.read?, if_pos hascii, text_eq, date?_writeDate t.valid]
  simp only [Option.bind_eq_bind, Option.bind_some, hday]
  exact t.at?_timestamp

end InternetTime

section Written

-- Not always the offset that was read: `Z` and `-00:00` are both written as `+00:00`.
theorem exists_offset_written {zone : Zone} (h : zone.IsWritable) :
    ∃ offset : Offset, offset.text = writeOffset zone.seconds ∧ offset.seconds = zone.seconds := by
  obtain ⟨⟨hl, hh⟩, hw⟩ := h
  let minutes := zone.seconds.natAbs / 60
  refine ⟨.shifted (zone.seconds < 0) ⟨minutes / 60, by omega⟩ ⟨minutes % 60, by omega⟩, ?_, ?_⟩
  · simp only [Offset.text, writeOffset, minutes, decide_eq_true_eq]
  · simp only [Offset.seconds, minutes, decide_eq_true_eq]
    split <;> omega

theorem exists_fraction_written {n : Nat} (h : n < 1000000) :
    ∃ digits : List Char, (∀ c ∈ digits, c.isDigit = true) ∧
      fractionText digits = (if n = 0 then [] else '.' :: padded 10 6 n) ∧
      microseconds digits = n := by
  by_cases hz : n = 0
  · exact ⟨[], nofun, (if_pos hz).symm, microseconds_nil.trans hz.symm⟩
  · have hn : IsNumeral 6 n (padded 10 6 n) := isNumeral_padded (by decide) h
    refine ⟨padded 10 6 n, hn.isDigit, ?_, ?_⟩
    · rw [if_neg hz]
      cases hp : padded 10 6 n with
      | nil => exact absurd (congrArg List.length hp) (by rw [hn.length]; decide)
      | cons digit digits => rfl
    · rw [microseconds_eq, List.take_left' hn.length, hn.value]

theorem exists_text_of_read? {text : List Char} {time : Timestamp} {zone : Zone}
    (h : Timestamp.read? form text = some time) (hz : time.zone = some zone) :
    ∃ t : InternetTime, t.text = time.write ∧ t.timestamp.Agrees time := by
  obtain ⟨hdate, hhour, hminute, hsecond, hfraction, -⟩ := Timestamp.isValid_of_read? h
  obtain ⟨offset, ho, hseconds⟩ := exists_offset_written (Timestamp.isWritable_of_read? h zone hz)
  obtain ⟨digits, hd, hf, hvalue⟩ := exists_fraction_written hfraction
  obtain ⟨date, hour, minute, second, microsecond, _⟩ := time
  obtain rfl : _ = some zone := hz
  refine ⟨⟨date, ⟨hour, hhour⟩, ⟨minute, hminute⟩, ⟨second, hsecond⟩, digits, offset, hdate, hd⟩,
    ?_, rfl, rfl, rfl, rfl, ?_, ?_⟩
  · simp only [InternetTime.text, Timestamp.write, Timestamp.offset, hf, ho, Option.map_some,
      Option.getD_some]
  · simp only [InternetTime.timestamp, InternetTime.microsecond, ← microseconds_eq, hvalue]
  · simp only [InternetTime.timestamp, Timestamp.offset, Option.map_some, Offset.seconds_zone,
      hseconds]

end Written

end Calendar

open Calendar Text

theorem issue_time_read_as_written (form : NumberForm) :
    (∀ t : InternetTime, readIssueTime form (symbolsOf t.text) = .ok t.timestamp ∧
      t.timestamp.offset = some t.offset.seconds) ∧
      ∀ text time, readIssueTime form text = .ok time → time.offset ≠ none →
        ∃ again, readIssueTime form (symbols time.isoFormat) = .ok again ∧ again.Agrees time := by
  have hread (t : InternetTime) : readIssueTime form (symbolsOf t.text) = .ok t.timestamp := by
    rw [readIssueTime_eq_ok_iff, charsOf_symbolsOf]
    exact t.read?_text
  refine ⟨fun t => ⟨hread t, congrArg some t.offset.seconds_zone⟩, fun text time h ho => ?_⟩
  obtain ⟨offset, ho⟩ := Option.ne_none_iff_exists'.1 ho
  obtain ⟨zone, hz, -⟩ := Option.map_eq_some_iff.1 ho
  obtain ⟨t, ht, ha⟩ := exists_text_of_read? (readIssueTime_eq_ok_iff.1 h) hz
  rw [symbols, Timestamp.isoFormat, String.toList_ofList, ← ht]
  exact ⟨t.timestamp, hread t, ha⟩

theorem issue_time_read_as_written_of_last_moments :
    let late : Timestamp := ⟨⟨2024, 12, 31⟩, 23, 59, 59, 999999, some (.fixed (-12600))⟩
    let midnight : Timestamp := ⟨⟨2024, 3, 1⟩, 0, 0, 0, 0, some (.fixed 0)⟩
    readIssueTime .literal (symbols "2024-12-31T23:59:59.999999999-03:30") = .ok late ∧
      readIssueTime .literal (symbols "2024-060T24:00+01-60") = .ok midnight ∧
      ∃ again, readIssueTime .literal (symbols "2024-03-01T00:00:00+00:00") = .ok again ∧
        again.Agrees midnight := by
  intro late midnight
  let t : InternetTime :=
    ⟨⟨2024, 12, 31⟩, 23, 59, 59, List.replicate 9 '9', .shifted true 3 30, by decide,
      fun c hc => List.eq_of_mem_replicate hc ▸ rfl⟩
  have ht : t.text = "2024-12-31T23:59:59.999999999-03:30".toList := by decide +kernel
  have hlate : t.timestamp = late := by decide +kernel
  have hm : readIssueTime .literal (symbols "2024-060T24:00+01-60") = .ok midnight :=
    readIssueTime_eq_ok_iff.2 (by decide +kernel)
  have hf : midnight.isoFormat = "2024-03-01T00:00:00+00:00" := by decide +kernel
  have hread := ((issue_time_read_as_written .literal).1 t).1
  have hagain := (issue_time_read_as_written .literal).2 _ midnight hm nofun
  rw [ht, hlate] at hread
  rw [hf] at hagain
  exact ⟨hread, hm, hagain⟩

end ImageRegistry
