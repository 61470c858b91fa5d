import ActionBoard.Text.Blank
import ActionBoard.Text.Numeral

/-!
# Points in time

Boards record when they were made and when they were last changed, in universal time, as calendar
dates with the time of day.  A time is kept in the fields it is written with; so writing needs no
calendar arithmetic, and reading needs it only for the one day by which an offset from universal
time can move a date.

Reading is the relaxed form of RFC 3339: the date and the time of day may be separated by `T`, `t`
or a space, numbers may have fewer digits than usual, white space may stand before numbers and
separators, and the offset is `Z`, `z`, `UTC` in any case, or hours and minutes with a sign.  A
second 60 is read as the leap second it stands for.  Writing uses the fewest of 0, 3, 6 or 9 digits
for the fraction that lose nothing.
-/

namespace ActionBoard

/-- Whether a year has a 29th of February. -/
def isLeapYear (year : Int) : Bool :=
  (year % 4 == 0 && year % 100 != 0) || year % 400 == 0

def daysInMonth (year : Int) (month : Nat) : Nat :=
  if month == 2 then (if isLeapYear year then 29 else 28)
  else if month == 4 || month == 6 || month == 9 || month == 11 then 30
  else 31

/-- The least and the greatest year that a time can have. -/
def firstYear : Int := -262143

def lastYear : Int := 262142

/-- A second in universal time, with a fraction in nanoseconds. -/
structure UtcTime where
  year : Int
  month : Nat
  day : Nat
  hour : Nat
  minute : Nat
  second : Nat
  nanosecond : Nat
  yearRange : firstYear ≤ year ∧ year ≤ lastYear
  monthRange : 1 ≤ month ∧ month ≤ 12
  dayRange : 1 ≤ day ∧ day ≤ daysInMonth year month
  hourRange : hour < 24
  minuteRange : minute < 60
  secondRange : second ≤ 60
  nanosecondRange : nanosecond < 1000000000
  deriving DecidableEq

namespace UtcTime

/-- The time with these fields, if there is one. -/
def ofFields? (year : Int) (month day hour minute second nanosecond : Nat) : Option UtcTime :=
  if h : (firstYear ≤ year ∧ year ≤ lastYear) ∧ (1 ≤ month ∧ month ≤ 12)
      ∧ (1 ≤ day ∧ day ≤ daysInMonth year month) ∧ hour < 24 ∧ minute < 60 ∧ second ≤ 60
      ∧ nanosecond < 1000000000 then
    some ⟨year, month, day, hour, minute, second, nanosecond, h.1, h.2.1, h.2.2.1, h.2.2.2.1,
      h.2.2.2.2.1, h.2.2.2.2.2.1, h.2.2.2.2.2.2⟩
  else
    none

/-- The beginning of 1970. -/
def epoch : UtcTime :=
  ⟨1970, 1, 1, 0, 0, 0, 0, by decide, by decide, by decide, by decide, by decide, by decide,
    by decide⟩

/-! ## Moving by an offset -/

def dayAfter (year : Int) (month day : Nat) : Int × Nat × Nat :=
  if day < daysInMonth year month then (year, month, day + 1)
  else if month < 12 then (year, month + 1, 1)
  else (year + 1, 1, 1)

def dayBefore (year : Int) (month day : Nat) : Int × Nat × Nat :=
  if 1 < day then (year, month, day - 1)
  else if 1 < month then (year, month - 1, daysInMonth year (month - 1))
  else (year - 1, 12, 31)

/-- The universal time of a local time that is `offset` minutes, less than a day, ahead of it. -/
def ofLocal? (t : UtcTime) (offset : Int) : Option UtcTime :=
  let minutes : Int := t.hour * 60 + t.minute - offset
  let (year, month, day) :=
    if minutes < 0 then dayBefore t.year t.month t.day
    else if 1440 ≤ minutes then dayAfter t.year t.month t.day
    else (t.year, t.month, t.day)
  let minuteOfDay := (minutes % 1440).toNat
  ofFields? year month day (minuteOfDay / 60) (minuteOfDay % 60) t.second t.nanosecond

/-! ## From a clock -/

/-- The date so many days after the beginning of 1970. -/
def dateOfDay : Nat → Int × Nat × Nat
  | 0 => (1970, 1, 1)
  | days + 1 =>
    let (year, month, day) := dateOfDay days
    dayAfter year month day

/-- The time so many seconds and nanoseconds after the beginning of 1970. -/
def ofSeconds? (seconds nanosecond : Nat) : Option UtcTime :=
  let (year, month, day) := dateOfDay (seconds / 86400)
  let second := seconds % 86400
  ofFields? year month day (second / 3600) (second / 60 % 60) (second % 60) nanosecond

/-! ## Reading -/

open Text

/-- A number of at most `width` digits behind optional white space. -/
def readNumber (width : Nat) (text : List Char) : Option (Nat × List Char) :=
  let text := stripStart isBlank text
  let digits := (text.take width).takeWhile isAsciiDigit
  if digits.isEmpty then none else some (digitsValue digits, text.drop digits.length)

/-- A year: four digits at most, or any number of them behind a sign. -/
def readYear (text : List Char) : Option (Int × List Char) :=
  match stripStart isBlank text with
  | '-' :: rest =>
    let digits := rest.takeWhile isAsciiDigit
    (natOf? digits).map fun n => (-Int.ofNat n, rest.drop digits.length)
  | '+' :: rest =>
    let digits := rest.takeWhile isAsciiDigit
    (natOf? digits).map fun n => (Int.ofNat n, rest.drop digits.length)
  | text => (readNumber 4 text).map fun (n, rest) => (Int.ofNat n, rest)

/-- The text behind a separator and the white space before it. -/
def readSeparator (separator : Char) (text : List Char) : Option (List Char) :=
  match stripStart isBlank text with
  | c :: rest => if c == separator then some rest else none
  | [] => none

/-- A fraction of a second in nanoseconds; further digits are dropped. -/
def readFraction : List Char → Option (Nat × List Char)
  | '.' :: text =>
    let digits := text.takeWhile isAsciiDigit
    let kept := digits.take 9
    if digits.isEmpty then none
    else some (digitsValue kept * Nat.pow 10 (9 - kept.length), text.drop digits.length)
  | text => some (0, text)

def twoDigits? (text : List Char) : Option (Nat × List Char) :=
  match text with
  | a :: b :: rest =>
    if isAsciiDigit a && isAsciiDigit b then some (digitsValue [a, b], rest) else none
  | _ => none

/-- Hours and minutes behind the sign of an offset, in minutes. -/
def readHoursMinutes (text : List Char) : Option (Nat × List Char) := do
  let (hours, rest) ← twoDigits? text
  let (minutes, rest) ← twoDigits? (stripStart (fun c => c == ':' || isBlank c) rest)
  if minutes < 60 && hours < 24 then some (hours * 60 + minutes, rest) else none

/-- An offset from universal time in minutes. -/
def readOffset (text : List Char) : Option (Int × List Char) :=
  if (text.take 3).map asciiLower = ['u', 't', 'c'] then some (0, text.drop 3)
  else
    match text with
    | c :: rest =>
      if c == 'Z' || c == 'z' then some (0, rest)
      else if c == '+' then (readHoursMinutes rest).map fun (n, rest) => (Int.ofNat n, rest)
      else if c == '-' || c == '−' then
        (readHoursMinutes rest).map fun (n, rest) => (-Int.ofNat n, rest)
      else none
    | [] => none

/-- The time that a text names. -/
def ofText? (text : String) : Option UtcTime := do
  let (year, rest) ← readYear text.toList
  let (month, rest) ← readNumber 2 (← readSeparator '-' rest)
  let (day, rest) ← readNumber 2 (← readSeparator '-' rest)
  let rest ← match rest with
    | c :: behind => if c == 'T' || c == 't' || c == ' ' then some behind else none
    | [] => none
  let (hour, rest) ← readNumber 2 rest
  let (minute, rest) ← readNumber 2 (← readSeparator ':' rest)
  let (second, rest) ← readNumber 2 (← readSeparator ':' rest)
  let (nanosecond, rest) ← readFraction rest
  let (offset, rest) ← readOffset (stripStart isBlank rest)
  if rest.all isBlank then
    (← ofFields? year month day hour minute second nanosecond).ofLocal? offset
  else
    none

/-! ## Writing -/

/-- A number with zeros before it up to a width. -/
def padded (width n : Nat) : List Char :=
  let digits := decimal n
  List.replicate (width - digits.length) '0' ++ digits

/-- A year: four digits, with a sign outside of 0 to 9999. -/
def yearText (year : Int) : List Char :=
  if year < 0 then '-' :: padded 4 year.natAbs
  else if 9999 < year then '+' :: padded 4 year.natAbs
  else padded 4 year.natAbs

def fractionText (nanosecond : Nat) : List Char :=
  if nanosecond = 0 then []
  else if nanosecond % 1000000 = 0 then '.' :: padded 3 (nanosecond / 1000000)
  else if nanosecond % 1000 = 0 then '.' :: padded 6 (nanosecond / 1000)
  else '.' :: padded 9 nanosecond

/-- The text of a time. -/
def text (t : UtcTime) : String :=
  String.ofList
    (yearText t.year ++ '-' :: padded 2 t.month ++ '-' :: padded 2 t.day
      ++ 'T' :: padded 2 t.hour ++ ':' :: padded 2 t.minute ++ ':' :: padded 2 t.second
      ++ fractionText t.nanosecond ++ ['Z'])

end UtcTime

end ActionBoard
