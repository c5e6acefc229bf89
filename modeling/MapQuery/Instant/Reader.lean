import MapQuery.Instant.Basic
import MapQuery.Text.Ascii
import MapQuery.Text.Blank

/-!
# Reading instants

Instants are written in three ways. The strict form has a fixed number of digits and a zone; the
loose form allows blanks between its parts and needs a zone as well; the plain forms have no zone and
may leave out what is small: the seconds, the time of day, the day, the month.

* `strict?` — the strict form.
* `loose?` — the loose form.
* `plain?` — date and time without a zone, in a given layout.
* `Instant.read?` — what a query accepts: the strict form, a plain one, or a partial date.
* `Instant.readLoose?` — what a file accepts.
-/

namespace MapQuery

/-- The parts of a date and a time of day, as they are read. -/
structure Fields where
  date : Date
  hour : Nat
  minute : Nat
  second : Nat
  nanos : Nat
  deriving DecidableEq, Repr, Inhabited

namespace Fields

/-- Midnight of no particular day. -/
def blank : Fields :=
  ⟨⟨0, 0, 0⟩, 0, 0, 0, 0⟩

/-- Whether a date exists and can be represented. -/
def dateFits (d : Date) : Bool :=
  decide d.IsValid && Instant.firstYear ≤ d.year && d.year ≤ Instant.lastYear

/-- The instant of the fields, which are those of a place that is `offset` seconds ahead. A sixtieth
second belongs to the second before it. -/
def instant? (f : Fields) (offset : Int) : Option Instant :=
  if dateFits f.date && f.hour < 24 && f.minute < 60 && f.second ≤ 60 then
    let leap := f.second / 60
    let time : Int := f.hour * 3600 + f.minute * 60 + (f.second - leap : Nat)
    let seconds := f.date.dayNumber * 86400 + time - offset
    let day := seconds / 86400
    if (⟨Instant.firstYear, 1, 1⟩ : Date).dayNumber ≤ day &&
        day ≤ (⟨Instant.lastYear, 12, 31⟩ : Date).dayNumber then
      some ⟨seconds, leap * 1000000000 + f.nanos⟩
    else none
  else none

end Fields

namespace Instant

/-! ### Pieces -/

/-- At least `least` and at most `most` digits, as many as there are. -/
def digits? (least most : Nat) (cs : List Char) : Option (Nat × List Char) :=
  let ds := (cs.take most).takeWhile Ascii.isDigit
  if ds.length < least then none else some (Ascii.digitsValue ds, cs.drop ds.length)

/-- All the digits that there are, at least one. -/
def allDigits? (cs : List Char) : Option (Nat × List Char) :=
  digits? 1 cs.length cs

/-- A given character. -/
def sign? (c : Char) : List Char → Option (List Char)
  | d :: cs => if d = c then some cs else none
  | [] => none

/-- The digits of a second: a point and digits, of which those after the ninth do not count. -/
def fraction? : List Char → Option (Nat × List Char)
  | '.' :: cs =>
    match digits? 1 9 cs with
    | some (n, rest) =>
      some (n * Nat.pow 10 (9 - (cs.length - rest.length)), rest.dropWhile Ascii.isDigit)
    | none => none
  | cs => some (0, cs)

/-- A zone: the letter `Z`, or a sign, two digits of hours, what `separator` skips, and two digits of
minutes. The value is in seconds. -/
def zone? (separator : List Char → Option (List Char)) : List Char → Option (Int × List Char)
  | [] => none
  | c :: cs =>
    if c == 'Z' || c == 'z' then some (0, cs)
    else if c == '+' || c == '-' || c.toNat == 0x2212 then do
      let (hours, cs) ← digits? 2 2 cs
      let cs ← separator cs
      let (minutes, cs) ← digits? 2 2 cs
      let seconds : Int := hours * 3600 + minutes * 60
      if minutes < 60 then some (if c == '+' then seconds else -seconds, cs) else none
    else none

/-- The sign between date and time: the letter `T` in either case, or a blank. -/
def between? : List Char → Option (List Char)
  | c :: cs => if c == 'T' || c == 't' || c == ' ' then some cs else none
  | [] => none

/-! ### The strict form -/

/-- The strict form: four digits of a year, two of everything else, and a zone of less than a day. -/
def strict? (cs : List Char) : Option Instant := do
  let (year, cs) ← digits? 4 4 cs
  let cs ← sign? '-' cs
  let (month, cs) ← digits? 2 2 cs
  let cs ← sign? '-' cs
  let (day, cs) ← digits? 2 2 cs
  let cs ← between? cs
  let (hour, cs) ← digits? 2 2 cs
  let cs ← sign? ':' cs
  let (minute, cs) ← digits? 2 2 cs
  let cs ← sign? ':' cs
  let (second, cs) ← digits? 2 2 cs
  let (nanos, cs) ← fraction? cs
  let (offset, cs) ← zone? (sign? ':') cs
  if cs.isEmpty && offset.natAbs < 86400 then
    Fields.instant? ⟨⟨year, month, day⟩, hour, minute, second, nanos⟩ offset
  else none

/-! ### Layouts -/

/-- The parts of a layout. -/
inductive Part where
  | year
  | month
  | day
  | hour
  | minute
  | second
  | blanks
  | sign (c : Char)
  deriving DecidableEq, Repr

/-- A number of at most two digits, blanks in front of it apart. -/
def small? (cs : List Char) : Option (Nat × List Char) :=
  digits? 1 2 (Text.trimLeft cs)

/-- A year: at most four digits, or a sign and any number of them. -/
def year? (cs : List Char) : Option (Int × List Char) :=
  match Text.trimLeft cs with
  | '-' :: cs => (allDigits? cs).map fun (n, rest) => (-(n : Int), rest)
  | '+' :: cs => (allDigits? cs).map fun (n, rest) => ((n : Int), rest)
  | cs => (digits? 1 4 cs).map fun (n, rest) => ((n : Int), rest)

/-- Reads one part. -/
def part? (f : Fields) (cs : List Char) : Part → Option (Fields × List Char)
  | .year => (year? cs).map fun (n, rest) => ({ f with date := { f.date with year := n } }, rest)
  | .month => (small? cs).map fun (n, rest) => ({ f with date := { f.date with month := n } }, rest)
  | .day => (small? cs).map fun (n, rest) => ({ f with date := { f.date with day := n } }, rest)
  | .hour => (small? cs).map fun (n, rest) => ({ f with hour := n }, rest)
  | .minute => (small? cs).map fun (n, rest) => ({ f with minute := n }, rest)
  | .second => (small? cs).map fun (n, rest) => ({ f with second := n }, rest)
  | .blanks => some (f, Text.trimLeft cs)
  | .sign c => (sign? c cs).map fun rest => (f, rest)

/-- Reads the parts of a layout, one after the other. -/
def parts? : List Part → Fields → List Char → Option (Fields × List Char)
  | [], f, cs => some (f, cs)
  | p :: ps, f, cs =>
    match part? f cs p with
    | some (f, rest) => parts? ps f rest
    | none => none

/-- Year, month and day with dashes between them. -/
def dateLayout : List Part :=
  [.year, .sign '-', .month, .sign '-', .day]

/-- Hour and minute. -/
def minuteLayout : List Part :=
  [.hour, .sign ':', .minute]

/-- Hour, minute and second. -/
def secondLayout : List Part :=
  minuteLayout ++ [.sign ':', .second]

/-- The layouts of date and time: with the letter `T` or blanks, with or without seconds. -/
def plainLayouts : List (List Part) :=
  [dateLayout ++ [.sign 'T'] ++ secondLayout, dateLayout ++ [.blanks] ++ secondLayout,
    dateLayout ++ [.sign 'T'] ++ minuteLayout, dateLayout ++ [.blanks] ++ minuteLayout]

/-- A text that a layout takes in whole. -/
def plain? (layout : List Part) (cs : List Char) : Option Instant :=
  match parts? layout .blank cs with
  | some (f, []) => f.instant? 0
  | _ => none

/-! ### The loose form -/

/-- The date of the loose form, in which blanks may stand before each part. -/
def looseDate : List Part :=
  [.year, .blanks, .sign '-', .month, .blanks, .sign '-', .day]

/-- The time of the loose form. -/
def looseTime : List Part :=
  [.hour, .blanks, .sign ':', .minute, .blanks, .sign ':', .second]

/-- The loose form of a zone: `UTC` in any case, or a zone with colons or blanks inside. -/
def looseZone? (cs : List Char) : Option (Int × List Char) :=
  if Ascii.sameWord (cs.take 3) ['U', 'T', 'C'] then some (0, cs.drop 3)
  else zone? (fun r => some (r.dropWhile fun c => c == ':' || Text.isBlank c)) cs

/-- The loose form: date, time and zone, with blanks between them. -/
def loose? (cs : List Char) : Option Instant := do
  let (f, cs) ← parts? looseDate .blank cs
  let cs ← between? cs
  let (f, cs) ← parts? looseTime f cs
  let (nanos, cs) ← fraction? cs
  let (offset, cs) ← looseZone? (Text.trimLeft cs)
  if (Text.trimLeft cs).isEmpty && offset.natAbs < 86400 then
    Fields.instant? { f with nanos := nanos } offset
  else none

/-! ### What queries and files accept -/

/-- The number of bytes in UTF-8. -/
def byteLength : List Char → Nat
  | [] => 0
  | c :: cs => c.utf8Size + byteLength cs

/-- Four bytes are taken for a year and seven for a year and a month; the rest is filled up. -/
def fillDate (cs : List Char) : List Char :=
  if byteLength cs = 4 then cs ++ "-01-01".toList
  else if byteLength cs = 7 then cs ++ "-01".toList
  else cs

/-- A text without the letter `Z` at its end. -/
def dropZone (cs : List Char) : List Char :=
  if cs.getLast? = some 'Z' then cs.dropLast else cs

/-- The instant that a query means: the strict form, date and time, or a date of which the end may be
missing. A missing part is the first of its kind. -/
def read? (s : String) : Option Instant :=
  let cs := Text.trim s.toList
  match strict? cs with
  | some i => some i
  | none =>
    match plainLayouts.findSome? fun layout => plain? layout (dropZone cs) with
    | some i => some i
    | none => plain? dateLayout (fillDate cs)

/-- The instant that a file means. -/
def readLoose? (s : String) : Option Instant :=
  loose? s.toList

end Instant

end MapQuery
