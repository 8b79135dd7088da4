import MultiTarget.Text.Blank
import MultiTarget.Text.Numeral

/-!
# `MultiTarget.Timestamp`: points in time

A timestamp is written as a date, a time of day and an offset
(`2024-01-02T03:04:05+01:00`), with some latitude: blanks before numbers
and separators, numbers with fewer digits, signed years, a space for the
`T`, the word `UTC` for the offset. It is kept in universal time. A second
of 60 is a leap second and stays one; fractions of a second are dropped.

Specification X.4. `render` is `timestamp_string`.
-/

set_option autoImplicit false

namespace MultiTarget

/-- A second of universal time. -/
structure Timestamp where
  year : Int
  month : Nat
  day : Nat
  hour : Nat
  minute : Nat
  second : Nat
  deriving DecidableEq, Repr

namespace Timestamp

/-! ### Days -/

/-- A day of the Gregorian calendar. -/
structure Day where
  year : Int
  month : Nat
  day : Nat
  deriving DecidableEq, Repr

/-- Years with a 29th of February. -/
def isLeapYear (year : Int) : Bool := year % 4 = 0 && (year % 100 ≠ 0 || year % 400 = 0)

/-- The number of days of a month. -/
def daysInMonth (year : Int) (month : Nat) : Nat :=
  if month = 2 then if isLeapYear year then 29 else 28
  else if month = 4 || month = 6 || month = 9 || month = 11 then 30 else 31

/-- The years that can be represented. -/
def isYear (year : Int) : Bool := -262143 ≤ year && year ≤ 262142

/-- A day exists in the calendar and its year can be represented. -/
def Day.isValid (d : Day) : Bool :=
  isYear d.year && 1 ≤ d.month && d.month ≤ 12 && 1 ≤ d.day &&
    d.day ≤ daysInMonth d.year d.month

/-- The day after. -/
def Day.next (d : Day) : Day :=
  if d.day < daysInMonth d.year d.month then { d with day := d.day + 1 }
  else if d.month < 12 then ⟨d.year, d.month + 1, 1⟩ else ⟨d.year + 1, 1, 1⟩

/-- The day before. -/
def Day.previous (d : Day) : Day :=
  if 1 < d.day then { d with day := d.day - 1 }
  else if 1 < d.month then ⟨d.year, d.month - 1, daysInMonth d.year (d.month - 1)⟩
  else ⟨d.year - 1, 12, 31⟩

/-! ### Reading -/

/-- Text without blanks in front. -/
def skipBlanks (cs : List Char) : List Char := cs.dropWhile Text.isBlank

/-- A number of one to `width` digits, with the text after it. -/
def number? (width : Nat) (cs : List Char) : Option (Nat × List Char) :=
  let digits := (cs.take width).takeWhile Char.isDigit
  if digits.isEmpty then none else some (Text.digitsValue digits, cs.drop digits.length)

/-- A number of at most two digits after blanks. -/
def twoDigits? (cs : List Char) : Option (Nat × List Char) := number? 2 (skipBlanks cs)

/-- A year after blanks; with a sign it may have any number of digits. -/
def year? (cs : List Char) : Option (Int × List Char) :=
  match skipBlanks cs with
  | '-' :: rest => (number? rest.length rest).map fun (n, after) => (-(n : Int), after)
  | '+' :: rest => (number? rest.length rest).map fun (n, after) => ((n : Int), after)
  | rest => (number? 4 rest).map fun (n, after) => ((n : Int), after)

/-- The text after a separator, which blanks may precede. -/
def separator? (c : Char) (cs : List Char) : Option (List Char) :=
  match skipBlanks cs with
  | d :: rest => if d = c then some rest else none
  | [] => none

/-- The text after a fraction of a second, if there is one. -/
def fraction? : List Char → Option (List Char)
  | '.' :: rest =>
    match rest with
    | d :: _ => if d.isDigit then some (rest.dropWhile Char.isDigit) else none
    | [] => none
  | cs => some cs

/-- Hours and minutes of an offset after its sign, as minutes. -/
def offsetSize? : List Char → Option (Nat × List Char)
  | a :: b :: rest =>
    match Text.digits? [a, b], rest.dropWhile fun c => c = ':' || Text.isBlank c with
    | some hours, c :: d :: after =>
      match Text.digits? [c, d] with
      | some minutes => if minutes < 60 then some (hours * 60 + minutes, after) else none
      | none => none
    | _, _ => none
  | _ => none

/-- An offset from universal time in minutes, less than a day. -/
def offset? (cs : List Char) : Option (Int × List Char) :=
  if (cs.take 3).map Char.toUpper = ['U', 'T', 'C'] then some (0, cs.drop 3)
  else
    let size? (rest : List Char) (sign : Int) : Option (Int × List Char) :=
      match offsetSize? rest with
      | some (minutes, after) =>
        if minutes < 1440 then some (sign * minutes, after) else none
      | none => none
    match cs with
    | [] => none
    | c :: rest =>
      if c = 'Z' || c = 'z' then some (0, rest)
      else if c = '+' then size? rest 1
      else if c = '-' || c.toNat = 0x2212 then size? rest (-1)
      else none

/-- A local day and time of day, moved to universal time. -/
def ofLocal? (d : Day) (hour minute second : Nat) (offset : Int) : Option Timestamp :=
  let minutes : Int := hour * 60 + minute - offset
  -- An offset is less than a day, so it moves the day by one at most.
  let (day, minutes) :=
    if minutes < 0 then (d.previous, minutes + 1440)
    else if minutes < 1440 then (d, minutes) else (d.next, minutes - 1440)
  if d.isValid && day.isValid && hour < 24 && minute < 60 && second ≤ 60 then
    some ⟨day.year, day.month, day.day, minutes.toNat / 60, minutes.toNat % 60, second⟩
  else none

/-- The timestamp of a text. -/
def parse? (text : String) : Option Timestamp := do
  let (year, cs) ← year? text.toList
  let (month, cs) ← twoDigits? (← separator? '-' cs)
  let (day, cs) ← twoDigits? (← separator? '-' cs)
  let cs ← match cs with
    | 'T' :: rest | 't' :: rest | ' ' :: rest => some rest
    | _ => none
  let (hour, cs) ← twoDigits? cs
  let (minute, cs) ← twoDigits? (← separator? ':' cs)
  let (second, cs) ← twoDigits? (← separator? ':' cs)
  let cs ← fraction? cs
  let (offset, cs) ← offset? (skipBlanks cs)
  if (skipBlanks cs).isEmpty then ofLocal? ⟨year, month, day⟩ hour minute second offset else none

/-- The timestamp that many seconds after the beginning of 1970. -/
def ofUnixSeconds (seconds : Nat) : Timestamp :=
  let day := Nat.repeat Day.next (seconds / 86400) ⟨1970, 1, 1⟩
  let inDay := seconds % 86400
  ⟨day.year, day.month, day.day, inDay / 3600, inDay / 60 % 60, inDay % 60⟩

/-! ### Writing -/

/-- A number in at least `width` digits. -/
def padded (width n : Nat) : String :=
  let digits := toString n
  "".pushn '0' (width - digits.length) ++ digits

/-- A year in four digits, with a sign if it has more or is negative. -/
def yearText (year : Int) : String :=
  if 0 ≤ year && year ≤ 9999 then padded 4 year.toNat
  else if year < 0 then "-" ++ padded 4 year.natAbs else "+" ++ padded 4 year.natAbs

/-- The timestamp as digits from the year down to the second. -/
def render (t : Timestamp) : String :=
  yearText t.year ++ padded 2 t.month ++ padded 2 t.day ++ padded 2 t.hour ++
    padded 2 t.minute ++ padded 2 t.second

end Timestamp

end MultiTarget
