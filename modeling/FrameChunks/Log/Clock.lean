import FrameChunks.Calendar
import FrameChunks.Text.Capital
import FrameChunks.Text.Padded

/-!
# Times in log records

A pattern tells how a time is written: a letter behind a percent sign stands for a field. Between
them there may be flags, a width and one of the letters `E` and `O`, which ask for other eras and
other digits where there are any.

## Main definitions

* `Moment`: a time
* `Moment.Directive`: what stands behind a percent sign
* `Moment.format`: a time by a pattern
-/

namespace FrameChunks.Log

open Text

/-- Why a time cannot be written. -/
inductive ClockError
  /-- The number of seconds, or that of the year, is too large. -/
  | tooLarge
  /-- The year is not one of a calendar of 32 bits. -/
  | noSuchYear
  /-- There is a character in the pattern that ends it. -/
  | cutPattern
  deriving DecidableEq, Repr

/-- A time of the calendar, in seconds since the start of 1970. -/
structure Moment where
  seconds : Int
  deriving DecidableEq, Repr

namespace Moment

/-- The day, counted from the first of January 1970. -/
def days (m : Moment) : Int := m.seconds.fdiv 86400

/-- The date. -/
def date (m : Moment) : Date := .ofDays m.days

/-- The second of the day. -/
def secondOfDay (m : Moment) : Nat := (m.seconds.fmod 86400).toNat

/-- The hour of the day. -/
def hour (m : Moment) : Nat := m.secondOfDay / 3600

/-- The hour of the half of the day, from one to twelve. -/
def shortHour (m : Moment) : Nat := (m.hour + 11) % 12 + 1

/-- The minute of the hour. -/
def minute (m : Moment) : Nat := m.secondOfDay / 60 % 60

/-- The second of the minute. -/
def second (m : Moment) : Nat := m.secondOfDay % 60

/-- The time that is so many seconds after the start of 1970. Seconds are numbers of 64 bits, and
years of 32, counted from 1900 at first and from zero on when they are written. -/
def ofSeconds (seconds : Int) : Except ClockError Moment :=
  let m : Moment := ⟨seconds⟩
  if seconds < -0x8000000000000000 ∨ 0x8000000000000000 ≤ seconds then .error .tooLarge
  else if m.date.year - 1900 < -0x80000000 ∨ 0x80000000 ≤ m.date.year - 1900 then
    .error .noSuchYear
  else if 0x80000000 ≤ m.date.year then .error .tooLarge
  else .ok m

/-- The names of the days of the week. -/
def weekdayNames : List String :=
  ["Sunday", "Monday", "Tuesday", "Wednesday", "Thursday", "Friday", "Saturday"]

/-- The names of the months. -/
def monthNames : List String :=
  ["January", "February", "March", "April", "May", "June", "July", "August", "September",
   "October", "November", "December"]

/-- The name of the day of the week. -/
def weekdayName (m : Moment) : List Char := (weekdayNames.getD (weekday m.days) "").toList

/-- The name of the month. -/
def monthName (m : Moment) : List Char := (monthNames.getD (m.date.month - 1) "").toList

/-- Before noon or after. -/
def half (m : Moment) : List Char := if m.hour < 12 then ['A', 'M'] else ['P', 'M']

/-- The number of the week in the year, where weeks begin on the day that is `first` days after
Sunday; the days before the first such day lie in week zero. -/
def weekFrom (m : Moment) (first : Nat) : Nat :=
  (m.date.dayOfYear + 7 - (weekday m.days + 7 - first) % 7) / 7

/-- The year that the week lies in, as a number of 32 bits. -/
def weekYear (m : Moment) : Int := Int.bmod (isoWeek m.days).1 0x100000000

/-- A number below a hundred, in two digits. -/
def two (n : Nat) : List Char := paddedNumeral 2 n

/-- The last two digits of a year. -/
def lastDigits (year : Int) : Nat := (year.emod 100).toNat

/-- The month, the day and the last digits of the year. -/
def dateText (m : Moment) : List Char :=
  two m.date.month ++ '/' :: two m.date.day ++ '/' :: two (lastDigits m.date.year)

/-- The hour and the minute. -/
def minuteText (m : Moment) : List Char := two m.hour ++ ':' :: two m.minute

/-- The time of day. -/
def timeText (m : Moment) : List Char := m.minuteText ++ ':' :: two m.second

/-- The year, the month and the day. -/
def isoText (m : Moment) : List Char :=
  paddedNumeral 0 m.date.year ++ '-' :: two m.date.month ++ '-' :: two m.date.day

/-- The time of the half of the day. -/
def halfText (m : Moment) : List Char :=
  two m.shortHour ++ ':' :: two m.minute ++ ':' :: two m.second ++ ' ' :: m.half

/-- The date, the time of day and the year. -/
def fullText (m : Moment) : List Char :=
  m.weekdayName.take 3 ++ ' ' :: m.monthName.take 3 ++ ' ' ::
    (Run.text [.left ' ' 2 (paddedNumeral 0 m.date.day)] ++ ' ' :: m.timeText ++ ' ' ::
      paddedNumeral 0 m.date.year)

/-! ## Fields -/

/-- How the letters of a text are written. -/
inductive Letters
  | kept
  | upper
  | lower
  deriving DecidableEq, Repr

/-- What a letter of a pattern stands for. -/
inductive Field
  /-- A text. With the flag for the other case its letters are written as told. -/
  | text (text : List Char) (swapped : Letters)
  /-- A text in small letters. -/
  | small (text : List Char)
  /-- A number of at least so many digits, filled up with a character. -/
  | number (least : Nat) (fill : Char) (value : Int)
  /-- The distance from universal time. -/
  | offset

/-- The name of the zone. -/
def zoneName : List Char := "UTC".toList

/-- The field of a letter. -/
def field? (m : Moment) : Char → Option Field
  | 'a' => some (.text (m.weekdayName.take 3) .upper)
  | 'A' => some (.text m.weekdayName .upper)
  | 'b' => some (.text (m.monthName.take 3) .upper)
  | 'h' => some (.text (m.monthName.take 3) .upper)
  | 'B' => some (.text m.monthName .upper)
  | 'c' => some (.text m.fullText .kept)
  | 'C' => some (.number 1 '0' (m.date.year.fdiv 100))
  | 'd' => some (.number 2 '0' m.date.day)
  | 'D' => some (.text m.dateText .kept)
  | 'e' => some (.number 2 ' ' m.date.day)
  | 'F' => some (.text m.isoText .kept)
  | 'g' => some (.number 2 '0' (lastDigits m.weekYear))
  | 'G' => some (.number 1 '0' m.weekYear)
  | 'H' => some (.number 2 '0' m.hour)
  | 'I' => some (.number 2 '0' m.shortHour)
  | 'j' => some (.number 3 '0' (m.date.dayOfYear + 1))
  | 'k' => some (.number 2 ' ' m.hour)
  | 'l' => some (.number 2 ' ' m.shortHour)
  | 'm' => some (.number 2 '0' m.date.month)
  | 'M' => some (.number 2 '0' m.minute)
  | 'n' => some (.text ['\n'] .kept)
  | 'p' => some (.text m.half .lower)
  | 'P' => some (.small m.half)
  | 'r' => some (.text m.halfText .kept)
  | 'R' => some (.text m.minuteText .kept)
  | 's' => some (.text (paddedNumeral 0 m.seconds) .kept)
  | 'S' => some (.number 2 '0' m.second)
  | 't' => some (.text ['\t'] .kept)
  | 'T' => some (.text m.timeText .kept)
  | 'u' => some (.number 1 '0' ((weekday m.days + 6) % 7 + 1 : Nat))
  | 'U' => some (.number 2 '0' (m.weekFrom 0))
  | 'V' => some (.number 2 '0' (isoWeek m.days).2)
  | 'w' => some (.number 1 '0' (weekday m.days))
  | 'W' => some (.number 2 '0' (m.weekFrom 1))
  | 'x' => some (.text m.dateText .kept)
  | 'X' => some (.text m.timeText .kept)
  | 'y' => some (.number 2 '0' (lastDigits m.date.year))
  | 'Y' => some (.number 1 '0' m.date.year)
  | 'z' => some .offset
  | 'Z' => some (.text zoneName .lower)
  | '%' => some (.text ['%'] .kept)
  | _ => none

/-- The letters that other eras can be asked for. -/
def eraLetters : List Char := "cCnpPrRstTuxXyYzZ%".toList

/-- The letters that other digits can be asked for. -/
def digitLetters : List Char := "bBCdegGhHIjklmMnpPrRsStTuUVwWyzZ%".toList

/-! ## What stands behind a percent sign -/

/-- What stands behind a percent sign. -/
structure Directive where
  /-- How to fill up: the last one of the flags `_`, `-` and `0`. -/
  fill : Option Char := none
  /-- Whether letters are to be capital ones. -/
  upper : Bool := false
  /-- Whether letters are to be written in the other case. -/
  swap : Bool := false
  width : Nat := 0
  /-- One of `E` and `O`, if it is given. -/
  modifier : Option Char := none
  /-- The letter; nothing if the pattern ends before. -/
  letter : Option Char := none
  /-- The directive as it is written, without the percent sign. -/
  written : List Char := []
  deriving DecidableEq, Repr

/-- Reads the flags. -/
def readFlags (d : Directive) : List Char → Directive × List Char
  | [] => (d, [])
  | c :: rest =>
    if c = '_' ∨ c = '-' ∨ c = '0' then
      readFlags { d with fill := some c, written := d.written ++ [c] } rest
    else if c = '^' then readFlags { d with upper := true, written := d.written ++ [c] } rest
    else if c = '#' then readFlags { d with swap := true, written := d.written ++ [c] } rest
    else (d, c :: rest)

/-- Widths are not larger than this. -/
def mostWidth : Nat := 0x7FFFFFFF

/-- Reads the width. -/
def readWidth (d : Directive) : List Char → Directive × List Char
  | [] => (d, [])
  | c :: rest =>
    if '0' ≤ c ∧ c ≤ '9' then
      let width := min mostWidth (10 * d.width + (c.toNat - 48))
      readWidth { d with width, written := d.written ++ [c] } rest
    else (d, c :: rest)

/-- Reads what stands behind a percent sign. -/
def Directive.read (s : List Char) : Directive × List Char :=
  let (d, s) := readFlags {} s
  let (d, s) := readWidth d s
  let (d, s) :=
    match s with
    | c :: rest =>
      if c = 'E' ∨ c = 'O' then ({ d with modifier := some c, written := d.written ++ [c] }, rest)
      else (d, s)
    | [] => (d, [])
  match s with
  | c :: rest => ({ d with letter := some c, written := d.written ++ [c] }, rest)
  | [] => (d, [])

namespace Directive

/-- A text in the given letters, filled up to the width. -/
def fillText (d : Directive) (letters : Letters) (s : List Char) : Run :=
  let s :=
    match letters with
    | .kept => s
    | .upper => s.map capital
    | .lower => s.map Char.toLower
  .left (if d.fill = some '0' then '0' else ' ') d.width s

/-- How the letters are written; `swapped` is the other case. -/
def letters (d : Directive) (swapped : Letters) : Letters :=
  if d.swap && swapped ≠ .kept then swapped else if d.upper then .upper else .kept

/-- A number filled up to the width. A sign comes before zeros and behind spaces. -/
def fillNumber (d : Directive) (least : Nat) (usual : Char) (n : Int) : List Run :=
  let digits := (toString n.natAbs).toList
  let sign := if n < 0 then ['-'] else []
  let fill :=
    match d.fill with
    | some '_' => ' '
    | some c => c
    | none => usual
  if fill = '-' then [.left ' ' d.width (sign ++ digits)]
  else
    let width := max least d.width
    if fill = ' ' then [.left ' ' width (sign ++ digits)]
    else [{ rest := sign }, .left '0' (width - sign.length) digits]

/-- Whether the modifier goes with the letter. -/
def fits (d : Directive) (letter : Char) : Bool :=
  match d.modifier with
  | some 'E' => letter ∈ eraLetters
  | some _ => letter ∈ digitLetters
  | none => true

/-- The other case of a directive that means nothing: short names of months are in capital letters
even so. -/
def otherCase (d : Directive) : Letters :=
  if d.letter = some 'b' ∨ d.letter = some 'h' then .upper else .kept

/-- What is written for a directive. One that means nothing is written as it is. -/
def runs (d : Directive) (m : Moment) : List Run :=
  match (d.letter.filter d.fits).bind m.field? with
  | none => [d.fillText (d.letters d.otherCase) ('%' :: d.written)]
  | some (.text s swapped) => [d.fillText (d.letters swapped) s]
  | some (.small s) => [d.fillText .lower s]
  | some (.number least usual n) => d.fillNumber least usual n
  | some .offset => d.fillText .kept ['+'] :: d.fillNumber 4 '0' 0

end Directive

/-- The pieces of a time by a pattern; `fuel` bounds the number of pieces. -/
def runs (m : Moment) (fuel : Nat) (s : List Char) : List Run :=
  match fuel, s with
  | 0, _ => []
  | _, [] => []
  | fuel + 1, c :: rest =>
    if c = '%' then
      let (d, rest) := Directive.read rest
      d.runs m ++ runs m fuel rest
    else { rest := [c] } :: runs m fuel rest

/-- The text of a time is shorter than this, for a pattern of `n` characters. -/
def room (n : Nat) : Nat := max 1024 (256 * n).nextPowerOfTwo

/-- A time by a pattern. What is too long comes out empty. -/
def format (m : Moment) (pattern : String) : Except ClockError String :=
  let s := pattern.toList
  if '\x00' ∈ s then .error .cutPattern
  else
    let runs := m.runs s.length s
    .ok (if Run.length runs < room s.length then String.ofList (Run.text runs) else "")

end Moment

end FrameChunks.Log
