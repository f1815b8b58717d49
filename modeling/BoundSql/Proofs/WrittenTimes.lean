import BoundSql.Literal
import BoundSql.Proofs.DayNumbers
import BoundSql.Proofs.ScannedPlaceholders
import BoundSql.Proofs.StringConstants

/-! # Reading dates and timestamps

A date is read field by field: a year of four digits, or a sign and at least four
digits; a month; a day; and the day must exist.  A timestamp goes on with the time of
day, where second 60 is the leap second at the end of a minute, and with a fraction of
no digits or of three, six or nine.  What is written for a date or a timestamp reads as
that date or timestamp, so no two share a text; and the text holds nothing that would be
special in a string constant, so its constant is a plain one. -/
set_option autoImplicit false
namespace BoundSql.Calendar

open Text (padded paddedDigits toList_padded)

def expect? (c : Char) : List Char → Option (List Char)
  | [] => none
  | d :: rest => if d = c then some rest else none

def readField? (width : Nat) (s : List Char) : Option (Nat × List Char) :=
  let digits := s.take width
  if digits.length = width ∧ digits.all Char.isDigit then
    some (Nat.ofDigitChars 10 digits 0, s.drop width)
  else none

def readDigits (s : List Char) : List Char × List Char :=
  (s.takeWhile Char.isDigit, s.dropWhile Char.isDigit)

def readLongYear? (sign : Int) (s : List Char) : Option (Int × List Char) :=
  let (digits, rest) := readDigits s
  if 4 ≤ digits.length then some (sign * Nat.ofDigitChars 10 digits 0, rest) else none

def readYear? : List Char → Option (Int × List Char)
  | '-' :: rest => readLongYear? (-1) rest
  | '+' :: rest => readLongYear? 1 rest
  | s => (readField? 4 s).map fun (year, rest) => (year, rest)

def readDate? (s : List Char) : Option (Date × List Char) := do
  let (year, s) ← readYear? s
  let s ← expect? '-' s
  let (month, s) ← readField? 2 s
  let s ← expect? '-' s
  let (day, s) ← readField? 2 s
  let date ← Date.ofYearMonthDay? year month day
  return (date, s)

/-- Nanoseconds from a point and three, six or nine digits, or from nothing. -/
def readFraction? : List Char → Option (Nat × List Char)
  | '.' :: rest =>
    let (digits, rest) := readDigits rest
    let n := Nat.ofDigitChars 10 digits 0
    match digits.length with
    | 3 => some (n * 1000000, rest)
    | 6 => some (n * 1000, rest)
    | 9 => some (n, rest)
    | _ => none
  | s => some (0, s)

/-- The point in time at a time of a day.  Second 60 is second 59 with a full second of
nanoseconds more. -/
def Timestamp.ofClock? (d : Date) (hour minute second fraction : Nat) : Option Timestamp :=
  let leap := second / 60
  if hour < 24 ∧ minute < 60 ∧ second ≤ 60 then
    Timestamp.ofUnix? (86400 * d.epochDay + (3600 * hour + 60 * minute + (second - leap) : Nat))
      (1000000000 * leap + fraction)
  else none

def readTimestamp? (s : List Char) : Option (Timestamp × List Char) := do
  let (date, s) ← readDate? s
  let s ← expect? ' ' s
  let (hour, s) ← readField? 2 s
  let s ← expect? ':' s
  let (minute, s) ← readField? 2 s
  let s ← expect? ':' s
  let (second, s) ← readField? 2 s
  let (fraction, s) ← readFraction? s
  let s ← expect? 'Z' s
  let t ← Timestamp.ofClock? date hour minute second fraction
  return (t, s)

def readWhole? {α : Type} (read? : List Char → Option (α × List Char)) (s : String) : Option α :=
  (read? s.toList).bind fun (value, rest) => if rest.isEmpty then some value else none

def readQuoted? {α : Type} (read? : List Char → Option (α × List Char)) (s : String) :
    Option α := do
  let text ← readWhole? Text.readConstant s
  readWhole? read? text

theorem expect?_cons (c : Char) (rest : List Char) : expect? c (c :: rest) = some rest :=
  if_pos rfl

theorem isDigit_of_mem_paddedDigits {width n : Nat} {c : Char}
    (member : c ∈ paddedDigits width n) : c.isDigit = true := by
  rcases List.mem_append.mp member with zero | digit
  · rw [List.eq_of_mem_replicate zero]
    rfl
  · exact Nat.isDigit_of_mem_toDigits (by decide) (by decide) digit

theorem ofDigitChars_paddedDigits (width n : Nat) :
    Nat.ofDigitChars 10 (paddedDigits width n) 0 = n := by
  rw [paddedDigits, Nat.ofDigitChars_append, Nat.ofDigitChars_replicate_zero,
    Nat.mul_zero, Nat.ofDigitChars_toDigits (by decide) (by decide)]

theorem length_paddedDigits (width n : Nat) (wide : 0 < width) (fits : n < 10 ^ width) :
    (paddedDigits width n).length = width := by
  have length := (Nat.length_toDigits_le_iff (b := 10) (by decide) wide).mpr fits
  rw [paddedDigits, List.length_append, List.length_replicate]
  omega

theorem readField?_padded (width : Nat) {n : Nat} (wide : 0 < width) (fits : n < 10 ^ width)
    (rest : List Char) : readField? width (paddedDigits width n ++ rest) = some (n, rest) := by
  have length := length_paddedDigits width n wide fits
  have taken : (paddedDigits width n ++ rest).take width = paddedDigits width n :=
    List.take_left' length
  have left : (paddedDigits width n ++ rest).drop width = rest :=
    List.drop_left' length
  have digits : (paddedDigits width n).all Char.isDigit = true :=
    List.all_eq_true.mpr fun _ => isDigit_of_mem_paddedDigits
  rw [readField?, taken, left, if_pos ⟨length, digits⟩, ofDigitChars_paddedDigits]

theorem readDigits_padded (width n : Nat) {rest : List Char} (stop : EndsNumber rest) :
    readDigits (paddedDigits width n ++ rest) = (paddedDigits width n, rest) := by
  have all : ∀ c ∈ paddedDigits width n, c.isDigit = true := fun _ => isDigit_of_mem_paddedDigits
  have run := takeWhile_digits all stop
  have whole := List.takeWhile_append_dropWhile (p := Char.isDigit)
    (l := paddedDigits width n ++ rest)
  rw [run] at whole
  rw [readDigits, run, List.append_cancel_left whole]

/-- Where a digit comes first, no sign is read. -/
theorem readYear?_unsigned {c : Char} (digit : c.isDigit = true) (rest : List Char) :
    readYear? (c :: rest) =
      (readField? 4 (c :: rest)).map fun (year, rest) => ((year : Int), rest) := by
  unfold readYear?
  split
  next signed =>
    cases signed
    simp at digit
  next signed =>
    cases signed
    simp at digit
  next => rfl

theorem readLongYear?_padded (sign : Int) (n : Nat) {rest : List Char} (stop : EndsNumber rest) :
    readLongYear? sign (paddedDigits 4 n ++ rest) = some (sign * n, rest) := by
  rw [readLongYear?, readDigits_padded 4 n stop]
  simp only [if_pos (Text.le_length_paddedDigits 4 n), ofDigitChars_paddedDigits]

theorem readYear?_text (year : Int) {rest : List Char} (stop : EndsNumber rest) :
    readYear? ((yearText year).toList ++ rest) = some (year, rest) := by
  by_cases usual : 0 ≤ year ∧ year ≤ 9999
  · have field := readField?_padded 4 (n := year.toNat) (by decide) (by omega) rest
    have back : (year.toNat : Int) = year := Int.toNat_of_nonneg usual.1
    rw [yearText, if_pos usual, toList_padded]
    cases digits : paddedDigits 4 year.toNat with
    | nil => simpa [digits] using Text.le_length_paddedDigits 4 year.toNat
    | cons c later =>
      have first : c.isDigit = true :=
        isDigit_of_mem_paddedDigits (digits ▸ List.mem_cons_self : c ∈ paddedDigits 4 _)
      rw [digits] at field
      rw [List.cons_append, readYear?_unsigned first, ← List.cons_append, field]
      simp only [Option.map_some, back]
  · have long (sign : Int) := readLongYear?_padded sign year.natAbs stop
    rw [yearText, if_neg usual, String.toList_append, toList_padded, List.append_assoc]
    by_cases negative : year < 0
    · have back : -1 * (year.natAbs : Int) = year := by omega
      have read : readYear? ("-".toList ++ (paddedDigits 4 year.natAbs ++ rest)) = _ := long (-1)
      rw [if_pos negative, read, back]
    · have back : 1 * (year.natAbs : Int) = year := by omega
      have read : readYear? ("+".toList ++ (paddedDigits 4 year.natAbs ++ rest)) = _ := long 1
      rw [if_neg negative, read, back]

theorem endsNumber_cons {c : Char} (other : c.isDigit = false) (rest : List Char) :
    EndsNumber (c :: rest) := by
  rintro d ⟨⟩
  exact other

theorem daysInMonth_le (year : Int) (month : Nat) : daysInMonth year month ≤ 31 := by
  unfold daysInMonth
  split
  · split <;> decide
  · split <;> decide

theorem Date.ofYearMonthDay?_self (d : Date) :
    Date.ofYearMonthDay? d.year d.month d.day = some d :=
  dif_pos ⟨d.month_valid, d.day_valid⟩

theorem readDate?_text (d : Date) (rest : List Char) :
    readDate? (d.text.toList ++ rest) = some (d, rest) := by
  have month : d.month < 10 ^ 2 := Nat.lt_of_le_of_lt d.month_valid.2 (by decide)
  have day : d.day < 10 ^ 2 :=
    Nat.lt_of_le_of_lt (Nat.le_trans d.day_valid.2 (daysInMonth_le d.year d.month)) (by decide)
  have year (rest : List Char) := readYear?_text d.year (endsNumber_cons (c := '-') rfl rest)
  simp [Date.text, readDate?, toList_padded, expect?_cons, year,
    readField?_padded 2 (by decide) month,
    readField?_padded 2 (by decide) day, Date.ofYearMonthDay?_self]

theorem readFraction?_text {nanos : Nat} (fraction : nanos < 1000000000) (later : List Char) :
    readFraction? ((fractionText nanos).toList ++ 'Z' :: later) = some (nanos, 'Z' :: later) := by
  have digits (width n : Nat) := readDigits_padded width n (endsNumber_cons (c := 'Z') rfl later)
  unfold fractionText
  split
  next zero =>
    subst zero
    rfl
  split
  next millis =>
    have whole : nanos / 1000000 * 1000000 = nanos := by omega
    have length := length_paddedDigits 3 (nanos / 1000000) (by decide) (by omega)
    simp [readFraction?, toList_padded, digits, length, ofDigitChars_paddedDigits, whole]
  split
  next micros =>
    have whole : nanos / 1000 * 1000 = nanos := by omega
    have length := length_paddedDigits 6 (nanos / 1000) (by decide) (by omega)
    simp [readFraction?, toList_padded, digits, length, ofDigitChars_paddedDigits, whole]
  next =>
    have length := length_paddedDigits 9 nanos (by decide) (by omega)
    simp [readFraction?, toList_padded, digits, length, ofDigitChars_paddedDigits]

/-- A point in time is found again from its fields. -/
theorem Timestamp.ofClock?_self (t : Timestamp) :
    Timestamp.ofClock? t.date t.hour t.minute t.second t.fraction = some t := by
  have day : t.date.epochDay = t.seconds / 86400 := Date.epochDay_ofEpochDay (t.seconds / 86400)
  have nanos := t.nanos_lt
  have leap := t.leap_last
  have clock : t.hour < 24 ∧ t.minute < 60 ∧ t.second ≤ 60 := by
    simp only [Timestamp.hour, Timestamp.minute, Timestamp.second, Timestamp.secondOfDay]
    omega
  have extra : t.second / 60 = t.nanos / 1000000000 := by
    simp only [Timestamp.second, Timestamp.secondOfDay]
    omega
  have seconds : 86400 * t.date.epochDay +
      (3600 * t.hour + 60 * t.minute + (t.second - t.second / 60) : Nat) = t.seconds := by
    rw [extra, day]
    simp only [Timestamp.hour, Timestamp.minute, Timestamp.second, Timestamp.secondOfDay]
    omega
  have fraction : 1000000000 * (t.second / 60) + t.fraction = t.nanos := by
    rw [extra, Timestamp.fraction]
    omega
  rw [Timestamp.ofClock?, if_pos clock, seconds, fraction]
  exact dif_pos ⟨nanos, leap⟩

theorem readTimestamp?_text (t : Timestamp) (rest : List Char) :
    readTimestamp? ((t.text " ").toList ++ rest) = some (t, rest) := by
  have hour : t.hour < 10 ^ 2 := by
    simp only [Timestamp.hour, Timestamp.secondOfDay]
    omega
  have minute : t.minute < 10 ^ 2 := by
    simp only [Timestamp.minute]
    omega
  have second : t.second < 10 ^ 2 := by
    have := t.nanos_lt
    simp only [Timestamp.second]
    omega
  have fraction : t.fraction < 1000000000 := Nat.mod_lt _ (by decide)
  simp [Timestamp.text, Timestamp.timeText, readTimestamp?, toList_padded, expect?_cons,
    readDate?_text, readField?_padded 2 (by decide) hour,
    readField?_padded 2 (by decide) minute,
    readField?_padded 2 (by decide) second, readFraction?_text fraction,
    Timestamp.ofClock?_self]

def isTimeChar (c : Char) : Bool := c.isDigit || "-+ :.Z".toList.contains c

theorem isTimeChar_of_mem_padded {width n : Nat} {c : Char} (member : c ∈ (padded width n).toList) :
    isTimeChar c = true := by
  rw [toList_padded] at member
  simp [isTimeChar, isDigit_of_mem_paddedDigits member]

theorem isTimeChar_of_mem_yearText {year : Int} {c : Char}
    (member : c ∈ (yearText year).toList) : isTimeChar c = true := by
  unfold yearText at member
  split at member
  next => exact isTimeChar_of_mem_padded member
  next =>
    rcases List.mem_append.mp (String.toList_append ▸ member) with sign | digits
    · split at sign <;> simp_all [isTimeChar]
    · exact isTimeChar_of_mem_padded digits

theorem isTimeChar_of_mem_fractionText {nanos : Nat} {c : Char}
    (member : c ∈ (fractionText nanos).toList) : isTimeChar c = true := by
  have pointed {width n : Nat} (member : c ∈ ("." ++ padded width n).toList) :
      isTimeChar c = true := by
    rcases List.mem_append.mp (String.toList_append ▸ member) with point | digits
    · simp_all [isTimeChar]
    · exact isTimeChar_of_mem_padded digits
  unfold fractionText at member
  split at member
  next => simp at member
  split at member
  next => exact pointed member
  split at member
  next => exact pointed member
  next => exact pointed member

theorem Date.isTimeChar_of_mem_text (d : Date) : ∀ c ∈ d.text.toList, isTimeChar c = true := by
  intro c member
  simp only [Date.text, String.toList_append, List.mem_append] at member
  rcases member with (((year | mark) | month) | mark) | day
  · exact isTimeChar_of_mem_yearText year
  · simp_all [isTimeChar]
  · exact isTimeChar_of_mem_padded month
  · simp_all [isTimeChar]
  · exact isTimeChar_of_mem_padded day

theorem Timestamp.isTimeChar_of_mem_text (t : Timestamp) :
    ∀ c ∈ (t.text " ").toList, isTimeChar c = true := by
  intro c member
  simp only [Timestamp.text, Timestamp.timeText, String.toList_append, List.mem_append] at member
  rcases member with
    ((date | mark) | ((((hour | mark) | minute) | mark) | second) | fraction) | mark
  · exact t.date.isTimeChar_of_mem_text c date
  · simp_all [isTimeChar]
  · exact isTimeChar_of_mem_padded hour
  · simp_all [isTimeChar]
  · exact isTimeChar_of_mem_padded minute
  · simp_all [isTimeChar]
  · exact isTimeChar_of_mem_padded second
  · exact isTimeChar_of_mem_fractionText fraction
  · simp_all [isTimeChar]

end BoundSql.Calendar

namespace BoundSql.Text

/-- A constant between two quote marks that holds nothing special. -/
def IsPlainConstant (s : String) : Prop :=
  ∃ inside : String, s = "'" ++ inside ++ "'" ∧ '\'' ∉ inside.toList ∧ '\\' ∉ inside.toList

theorem doubled_eq_self {mark : Char} {s : List Char} (absent : mark ∉ s) :
    doubled mark s = s := by
  induction s with
  | nil => rfl
  | cons c rest ih =>
    rw [List.mem_cons, not_or] at absent
    rw [doubled_cons, if_neg (Ne.symm absent.1), ih absent.2, List.singleton_append]

theorem quote_of_notMem {s : String} (mark : '\'' ∉ s.toList) (backslash : '\\' ∉ s.toList) :
    quote s = "'" ++ s ++ "'" := by
  apply String.toList_injective
  simp [toList_quote, quoted, backslash, doubled_eq_self mark]

end BoundSql.Text

namespace BoundSql

open Calendar

theorem readWhole?_of_read {α : Type} {read? : List Char → Option (α × List Char)} {s : String}
    {value : α} (read : read? s.toList = some (value, [])) : readWhole? read? s = some value := by
  rw [readWhole?, read]
  rfl

/-- The text of a constant is what the reader sees. -/
theorem readQuoted?_quote {α : Type} {read? : List Char → Option (α × List Char)} {s : String}
    {value : α} (read : read? s.toList = some (value, [])) :
    readQuoted? read? (Text.quote s) = some value := by
  have constant : readWhole? Text.readConstant (Text.quote s) = some s := by
    apply readWhole?_of_read
    rw [Text.toList_quote, ← List.append_nil (Text.quoted s.toList)]
    exact Text.readConstant_quoted s (by simp)
  rw [readQuoted?, constant]
  exact readWhole?_of_read read

theorem notMem_of_times {s : String} (times : ∀ c ∈ s.toList, isTimeChar c = true) :
    '\'' ∉ s.toList ∧ '\\' ∉ s.toList :=
  ⟨fun mark => absurd (times _ mark) (by decide),
    fun backslash => absurd (times _ backslash) (by decide)⟩

theorem quote_times {s : String} (times : ∀ c ∈ s.toList, isTimeChar c = true) :
    Text.quote s = "'" ++ s ++ "'" :=
  Text.quote_of_notMem (notMem_of_times times).1 (notMem_of_times times).2

theorem isPlainConstant_of_times {s : String} (times : ∀ c ∈ s.toList, isTimeChar c = true) :
    Text.IsPlainConstant (Text.quote s) :=
  ⟨s, quote_times times, notMem_of_times times⟩

theorem Literal.render_timestamp_reads (t : Timestamp) :
    readQuoted? readTimestamp? (Literal.timestamp t).render = some t := by
  refine readQuoted?_quote ?_
  rw [← List.append_nil (t.text " ").toList]
  exact readTimestamp?_text t []

theorem Literal.render_date_reads (d : Date) :
    readQuoted? readDate? (Literal.date d).render = some d := by
  refine readQuoted?_quote ?_
  rw [← List.append_nil d.text.toList]
  exact readDate?_text d []

/-- What stands in a query for a timestamp or a date reads as it, whatever its year, its
fraction or its leap second, so different ones are written differently; and it is always a
plain constant. -/
theorem times_written_read_back :
    (∀ t : Timestamp,
      readQuoted? readTimestamp? (Literal.timestamp t).render = some t ∧
        Text.IsPlainConstant (Literal.timestamp t).render) ∧
    (∀ d : Date,
      readQuoted? readDate? (Literal.date d).render = some d ∧
        Text.IsPlainConstant (Literal.date d).render) ∧
    (Function.Injective fun t : Timestamp => (Literal.timestamp t).render) ∧
    Function.Injective fun d : Date => (Literal.date d).render := by
  refine ⟨fun t => ⟨Literal.render_timestamp_reads t, ?_⟩,
    fun d => ⟨Literal.render_date_reads d, ?_⟩, ?_, ?_⟩
  · exact isPlainConstant_of_times t.isTimeChar_of_mem_text
  · exact isPlainConstant_of_times d.isTimeChar_of_mem_text
  · intro t u equal
    have read := congrArg (readQuoted? readTimestamp?) equal
    simpa only [Literal.render_timestamp_reads, Option.some.injEq] using read
  · intro d e equal
    have read := congrArg (readQuoted? readDate?) equal
    simpa only [Literal.render_date_reads, Option.some.injEq] using read

/-- A leap second before the year -1. -/
example :
    ((Timestamp.ofUnix? (-62198755201) 1000000500).map fun t => (Literal.timestamp t).render) =
      some "'-0002-12-31 23:59:60.000000500Z'" := by
  decide +kernel

end BoundSql
