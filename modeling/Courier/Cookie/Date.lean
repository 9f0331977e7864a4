/-
  Dates in cookies, as seconds since the beginning of 1970 in Universal Time.

  The strict form is `Wed, 09 Feb 1994 22:23:32 GMT`.  The loose form has no weekday, or one that is
  skipped, and then day, month, year, an optional clock, an optional zone and an optional remark in
  parentheses; a month is a name or a number, a year of fewer than four digits is taken in the century
  that puts it nearest to the present, and a zone is an offset or one of four names of Universal Time.

  A date that is in no form, or out of range, reads as no date; a strict one with a month that does not
  exist, and a year beyond 9999, spoil the whole cookie.
-/
import Courier.Number.Integer

/-! ## The calendar -/

namespace Courier.Calendar

/-- The number of days from the first of January 1970 to a day, which need not be in its month. -/
def days (year month day : Int) : Int :=
  -- a year begins in March, so that the leap day comes last
  let y := if month ≤ 2 then year - 1 else year
  let era := y.fdiv 400
  let yearOfEra := y - era * 400
  let monthOfYear := if month > 2 then month - 3 else month + 9
  let dayOfYear := (153 * monthOfYear + 2).fdiv 5 + day - 1
  let dayOfEra := yearOfEra * 365 + yearOfEra.fdiv 4 - yearOfEra.fdiv 100 + dayOfYear
  era * 146097 + dayOfEra - 719468

/-- The year of a number of seconds. -/
def yearOf (seconds : Int) : Int :=
  let z := seconds.fdiv 86400 + 719468
  let era := z.fdiv 146097
  let dayOfEra := z - era * 146097
  let yearOfEra :=
    (dayOfEra - dayOfEra.fdiv 1460 + dayOfEra.fdiv 36524 - dayOfEra.fdiv 146096).fdiv 365
  let dayOfYear := dayOfEra - (365 * yearOfEra + yearOfEra.fdiv 4 - yearOfEra.fdiv 100)
  let monthOfYear := (5 * dayOfYear + 2).fdiv 153
  yearOfEra + era * 400 + (if monthOfYear ≥ 10 then 1 else 0)

/-- The seconds of a moment. -/
def seconds (year month day hour minute second : Int) : Int :=
  ((days year month day * 24 + hour) * 60 + minute) * 60 + second

end Courier.Calendar

/-! ## Readings -/

namespace Courier.CookieDate

/-- What a text is as a date. -/
inductive Reading
  | instant (seconds : Int)
  | unreadable
  /-- the cookie with this date cannot be used at all -/
  | spoiled
  deriving DecidableEq, Repr

/-- The months, in lower case. -/
def months : List String :=
  ["jan", "feb", "mar", "apr", "may", "jun", "jul", "aug", "sep", "oct", "nov", "dec"]

/-- The weekdays, in lower case. -/
def weekdays : List String := ["sun", "mon", "tue", "wed", "thu", "fri", "sat"]

/-- ASCII lower case. -/
def lowered (s : Text) : Text := s.map Char.toLower

/-- The number of a month from its name. -/
def monthNumber? (name : Text) : Option Nat :=
  (months.findIdx? fun m => m.toList == lowered name).map (· + 1)

/-- The last year that a date can have. -/
def lastYear : Int := 9999

/-- A moment from its parts, when each is in its range. -/
def moment (year month day hour minute second : Int) : Reading :=
  if 1970 ≤ year ∧ 1 ≤ month ∧ month ≤ 12 ∧ 1 ≤ day ∧ day ≤ 31 ∧ 0 ≤ hour ∧ hour ≤ 24 ∧
      0 ≤ minute ∧ minute ≤ 59 ∧ 0 ≤ second ∧ second ≤ 61 then
    if year ≤ lastYear then .instant (Calendar.seconds year month day hour minute second) else .spoiled
  else .unreadable

/-- The value of ASCII digits. -/
def number (digits : Text) : Int := (decimalValue digits : Nat)

/-! ## The strict form -/

/-- Matches a shape: `9` is a digit, `a` a lower case letter, `W` and `M` the first letters of weekdays and
    months, and any other character itself. -/
def fitsShape (shape s : Text) : Bool :=
  s.length == shape.length && (shape.zip s).all fun (p, c) =>
    if p = '9' then c.isDigit
    else if p = 'a' then c.isLower
    else if p = 'W' then "SMTWF".toList.contains c
    else if p = 'M' then "JFMASOND".toList.contains c
    else p == c

/-- The shape of the strict form. -/
def strictShape : Text := "Waa, 99 Maa 9999 99:99:99 ".toList

/-- Reads the strict form, if the text has its shape. -/
def readStrict? (s : Text) : Option Reading :=
  let s := if s.getLast? = some '\n' then s.dropLast else s
  if fitsShape strictShape (s.take 26) && s.drop 26 == "GMT".toList then
    let part (i n : Nat) : Text := (s.drop i).take n
    match monthNumber? (part 8 3) with
    | none => some .spoiled
    | some month =>
      some (moment (number (part 12 4)) month (number (part 5 2)) (number (part 17 2))
        (number (part 20 2)) (number (part 23 2)))
  else none

/-! ## The loose form -/

/-- A character of a word. -/
def isWordChar (c : Char) : Bool := c.isAlphanum || c == '_'

/-- The text after a weekday, a comma and blanks. -/
def dropWeekday (s : Text) : Text :=
  if weekdays.any fun w => w.toList == lowered (s.take 3) then
    let rest := s.dropWhile Char.isAlpha
    let rest := match rest with | ',' :: r => r | r => r
    rest.dropWhile isAsciiBlank
  else s

/-- The text after blanks, or after one dash or slash. -/
def dropSeparator? (s : Text) : Option Text :=
  match s with
  | c :: rest =>
    if isAsciiBlank c then some (s.dropWhile isAsciiBlank)
    else if c = '-' ∨ c = '/' then some rest else none
  | [] => none

/-- The parts of a date in loose form. -/
structure Parts where
  day : Text
  month : Text
  year : Text
  clock : Option (Text × Text × Text)
  zone : Option Text

/-- Two digits at the front. -/
def twoDigits? (s : Text) : Option (Text × Text) :=
  if s.length ≥ 2 ∧ (s.take 2).all Char.isDigit then some (s.take 2, s.drop 2) else none

/-- Hours, minutes and seconds after blanks or a colon. -/
def takeClock (s : Text) : Option (Text × Text × Text) × Text :=
  let after? := match s with
    | ':' :: r => some r
    | c :: _ => if isAsciiBlank c then some (s.dropWhile isAsciiBlank) else none
    | [] => none
  let clock? : Option ((Text × Text × Text) × Text) := do
    let s ← after?
    let hour := s.takeWhile Char.isDigit
    if hour.isEmpty || 2 < hour.length then none
    else match s.drop hour.length with
      | ':' :: s => do
        let (minute, s) ← twoDigits? s
        match s with
        | ':' :: r =>
          match twoDigits? r with
          | some (second, r) => some ((hour, minute, second), r)
          | none => some ((hour, minute, ['0']), s)
        | _ => some ((hour, minute, ['0']), s)
      | _ => none
  match clock? with
  | some (clock, rest) => (some clock, rest)
  | none => (none, s)

/-- Whether a text begins with a mark of the half of the day, which is no zone. -/
def startsWithHalfDay (s : Text) : Bool :=
  match lowered (s.take 2) with
  | ['a', 'm'] | ['p', 'm'] => !(s.drop 2).head?.any isWordChar
  | _ => false

/-- A zone: an offset of two to four digits, or a word. -/
def takeZone (s : Text) : Option Text × Text :=
  let (sign, body) := match s with
    | '+' :: r => (['+'], r)
    | '-' :: r => (['-'], r)
    | r => ([], r)
  let digits := (body.takeWhile Char.isDigit).take 4
  let word := s.takeWhile Char.isAlpha
  if 2 ≤ digits.length then (some (sign ++ digits), body.drop digits.length)
  else if !word.isEmpty && !startsWithHalfDay s then (some word, s.drop word.length)
  else (none, s)

/-- The text after a word in parentheses. -/
def dropRemark (s : Text) : Text :=
  match s with
  | '(' :: r =>
    let word := r.takeWhile isWordChar
    match r.drop word.length with
    | ')' :: rest => if word.isEmpty then s else rest.dropWhile isAsciiBlank
    | _ => s
  | _ => s

/-- Cuts a date in loose form. -/
def takeParts? (s : Text) : Option Parts := do
  let day := s.takeWhile Char.isDigit
  if day.isEmpty || 2 < day.length then none
  else
    let s ← dropSeparator? (s.drop day.length)
    let month := s.takeWhile isWordChar
    if month.isEmpty then none
    else
      let s ← dropSeparator? (s.drop month.length)
      let year := s.takeWhile Char.isDigit
      if year.isEmpty then none
      else
        let (clock, s) := takeClock (s.drop year.length)
        let (zone, s) := takeZone (s.dropWhile isAsciiBlank)
        let s := dropRemark (s.dropWhile isAsciiBlank)
        if s.isEmpty then some { day, month, year, clock, zone } else none

/-- The offset of a zone in seconds. -/
def zoneOffset? (zone : Text) : Option Int :=
  let name := zone.map Char.toUpper
  if ["GMT", "UTC", "UT", "Z"].any fun z => z.toList == name then some 0
  else
    let (negative, digits) := match zone with
      | '-' :: d => (true, d)
      | '+' :: d => (false, d)
      | d => (false, d)
    if 2 ≤ digits.length ∧ digits.length ≤ 4 ∧ digits.all Char.isDigit then
      let hours := if digits.length = 3 then digits.take 1 else digits.take 2
      let minutes := digits.drop hours.length
      let offset := 3600 * number hours + 60 * number minutes
      some (if negative then -offset else offset)
    else none

/-- The full year of a short one: the century that puts it nearest to the present year. -/
def fullYear (present short : Int) : Int :=
  let inCentury := present.fmod 100
  let year := short + present - inCentury
  let distance := inCentury - short
  if distance.natAbs > 50 then (if distance > 0 then year + 100 else year - 100) else year

/-- The number of a month from its name or its digits. -/
def looseMonth? (month : Text) : Option Int :=
  match monthNumber? month with
  | some n => some n
  | none =>
    match readInteger? month with
    | some n => if 1 ≤ n ∧ n ≤ 12 then some n else none
    | none => none

/-- Reads the parts of a loose date. -/
def readParts (now : Int) (p : Parts) : Reading :=
  if maxDigits < p.year.length then .spoiled
  else
    let year := number p.year
    if year > lastYear then .unreadable
    else match looseMonth? p.month with
      | none => .unreadable
      | some month =>
        let (hour, minute, second) := p.clock.getD (['0'], ['0'], ['0'])
        let year := if year < 1000 then fullYear (Calendar.yearOf now) year else year
        match moment year month (number p.day) (number hour) (number minute) (number second) with
        | .instant t =>
          match zoneOffset? (p.zone.getD "UTC".toList) with
          | some offset => .instant (t - offset)
          | none => .unreadable
        | other => other

/-- Reads a date. -/
def read (now : Int) (s : Text) : Reading :=
  match readStrict? s with
  | some reading => reading
  | none =>
    match takeParts? (dropWeekday (s.dropWhile isBlank)) with
    | some p => readParts now p
    | none => .unreadable

end Courier.CookieDate
