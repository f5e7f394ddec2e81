import CrashReporter.Decimal.Digits
import CrashReporter.Json.Reader
import CrashReporter.Text.Blank
import CrashReporter.Text.Cut
import CrashReporter.Time.Instant

-- Timestamps: the text of an instant. Written in UTC with the fewest of 0, 3, 6
-- or 9 places that lose nothing. Read leniently: blanks may stand before each
-- part, numbers may lack leading zeros, and the offset has several spellings.

namespace CrashReporter.Instant

open Time Decimal Text

/-! ## Writing -/

/-- Four digits without a sign for the years 0 to 9999, otherwise a sign and at
least four digits. -/
def yearText (year : Int) : List Char :=
  if 0 ≤ year ∧ year ≤ 9999 then padded 4 year.toNat
  else (if year < 0 then '-' else '+') :: padded 4 year.natAbs

def fractionText (nano : Nat) : List Char :=
  if nano = 0 then []
  else if nano % 1000000 = 0 then '.' :: padded 3 (nano / 1000000)
  else if nano % 1000 = 0 then '.' :: padded 6 (nano / 1000)
  else '.' :: padded 9 nano

def render (t : Instant) : List Char :=
  let date := dateOf t.day
  let leap := t.nano / 1000000000
  yearText date.year ++ '-' :: padded 2 date.month ++ '-' :: padded 2 date.day ++
    'T' :: padded 2 (t.second / 3600) ++ ':' :: padded 2 (t.second / 60 % 60) ++
    ':' :: padded 2 (t.second % 60 + leap) ++ fractionText (t.nano % 1000000000) ++ ['Z']

def text (t : Instant) : String := String.ofList t.render

def toJson (t : Instant) : Json := .str t.text

/-! ## Reading -/

/-- A number of one to `width` digits. -/
def readNumber (width : Nat) (s : List Char) : Option (Nat × List Char) :=
  let ds := (s.take width).takeWhile isDigit
  if ds.isEmpty then none else (valueFrom 0 ds).map fun n => (n, s.drop ds.length)

/-- Blanks, then a number of one or two digits. -/
def readPart (s : List Char) : Option (Nat × List Char) := readNumber 2 (trimStart s)

/-- Blanks, then one character. -/
def readMark (mark : Char) (s : List Char) : Option (List Char) := after? [mark] (trimStart s)

/-- The year: up to four digits, or a sign and any number of them. -/
def readYear (s : List Char) : Option (Int × List Char) :=
  match trimStart s with
  | '-' :: rest => (readNumber rest.length rest).map fun (n, rest) => (-(n : Int), rest)
  | '+' :: rest => (readNumber rest.length rest).map fun (n, rest) => ((n : Int), rest)
  | rest => (readNumber 4 rest).map fun (n, rest) => ((n : Int), rest)

def readDate (s : List Char) : Option (Date × List Char) := do
  let (year, s) ← readYear s
  let (month, s) ← readPart (← readMark '-' s)
  let (day, s) ← readPart (← readMark '-' s)
  return (← date? year month day, s)

/-- Nanoseconds; digits after the ninth are dropped. -/
def readFraction : List Char → Option (Nat × List Char)
  | '.' :: rest => do
    let (n, after) ← readNumber 9 rest
    return (n * Nat.pow 10 (9 - (rest.length - after.length)), after.dropWhile isDigit)
  | s => some (0, s)

/-- The second of the day and the nanosecond. Second 60 is a leap second. -/
def readTime (s : List Char) : Option (Nat × Nat × List Char) := do
  let (hour, s) ← readPart s
  let (minute, s) ← readPart (← readMark ':' s)
  let (second, s) ← readPart (← readMark ':' s)
  let (nano, s) ← readFraction s
  if hour < 24 ∧ minute < 60 ∧ second ≤ 60 then
    if second = 60 then return (hour * 3600 + minute * 60 + 59, nano + 1000000000, s)
    else return (hour * 3600 + minute * 60 + second, nano, s)
  else none

/-- Exactly two digits. -/
def readTwo : List Char → Option (Nat × List Char)
  | a :: b :: rest => do return ((← digitValue? a) * 10 + (← digitValue? b), rest)
  | _ => none

/-- The seconds that local time is ahead of UTC. -/
def readOffset (s : List Char) : Option (Int × List Char) :=
  match trimStart s with
  | 'Z' :: rest | 'z' :: rest => some (0, rest)
  | c :: rest =>
    if (((c :: rest).take 3).map Char.toUpper) = ['U', 'T', 'C'] then some (0, rest.drop 2)
    else do
      let sign : Int ← if c = '+' then some 1 else if c = '-' ∨ c = '−' then some (-1) else none
      let (hours, rest) ← readTwo rest
      let (minutes, rest) ← readTwo (rest.dropWhile fun c => c == ':' || isBlank c)
      if minutes < 60 ∧ hours < 24 then return (sign * (hours * 3600 + minutes * 60 : Nat), rest)
      else none
  | [] => none

/-- Date and time may be joined by a letter T or one blank. -/
def readJoin : List Char → Option (List Char)
  | c :: rest => if c = 'T' ∨ c = 't' ∨ c = ' ' then some rest else none
  | [] => none

def parse? (s : List Char) : Option Instant := do
  let (date, s) ← readDate s
  let (second, nano, s) ← readTime (← readJoin s)
  let (offset, s) ← readOffset s
  if (trimStart s).isEmpty then backBy? ⟨dayNumber date, second, nano⟩ offset else none

def ofText? (s : String) : Option Instant := parse? s.toList

/-- A point in time is written as a timestamp, or in milliseconds since 1970. -/
def ofJson? : Json → Option Instant
  | .str s => ofText? s
  | v => v.int?.bind ofMillis?

def reader : Reader Instant := fun room t => (Reader.string room t).bind ofText?

end CrashReporter.Instant
