import MapQuery.Instant.Reader
import MapQuery.Proofs.Number.Numeral
import Mathlib.Algebra.Group.Nat.Defs
import Mathlib.Data.List.TakeWhile

/-!
# Texts of dates and times of day

Dates and times of day are written with a fixed number of digits each. The readers of instants take such texts as
they were meant: each reader is worked out on the texts that it is given, with whatever follows them.

* `Instant.digits?_padded` — digits of a given number are read as the number that they were written for.
* `Date.text`, `Fields.minuteText`, `Fields.secondText` — the texts of a date and of a time of day.
* `Date.FitsDigits`, `Fields.FitsDigits` — what can be written with the digits that there are.
* `Instant.strict?_secondText`, `Instant.strict?_minuteText` — what the strict form makes of them.
* `Instant.findSome?_plainLayouts` — what the layouts of date and time make of them.
* `Instant.fillDate_year`, `Instant.fillDate_month` — dates of which the end is missing.
-/

namespace MapQuery

open Ascii (isDigit digitsValue)

/-- A text that neither begins nor ends with a blank. -/
theorem Text.trim_eq_self {cs : List Char} (hfirst : ∀ c ∈ cs.head?, isBlank c = false)
    (hlast : ∀ c ∈ cs.getLast?, isBlank c = false) : trim cs = cs := by
  have hkept {l : List Char} (h : ∀ c ∈ l.head?, isBlank c = false) : l.dropWhile isBlank = l := by
    cases l with
    | nil => rfl
    | cons c l => exact List.dropWhile_cons_of_neg (by rw [h c rfl]; decide)
  unfold trim trimRight trimLeft
  rw [hkept hfirst, hkept (by rwa [List.head?_reverse]), List.reverse_reverse]

/-! ### Digits -/

namespace Instant

section Padded

variable {width n : Nat}

theorem isDigit_of_mem_padded {c : Char} (h : c ∈ (padded width n).toList) : isDigit c = true := by
  unfold padded at h
  rw [String.toList_ofList, List.mem_append] at h
  rcases h with hzero | hdigit
  · rw [List.eq_of_mem_replicate hzero]
    rfl
  · exact (Whole.isDigits_toDigits n).2 c hdigit

/-- Zeros in front do not count. -/
theorem digitsValue_zeros (k : Nat) (ds : List Char) : digitsValue (List.replicate k '0' ++ ds) = digitsValue ds := by
  induction k with
  | zero => rfl
  | succ k ih => exact ih

theorem digitsValue_padded (width n : Nat) : digitsValue (padded width n).toList = n := by
  unfold padded
  rw [String.toList_ofList, digitsValue_zeros, Whole.digitsValue_toDigits]

theorem length_padded (hwidth : 0 < width) (h : n < 10 ^ width) : (padded width n).toList.length = width := by
  have hle : (Nat.toDigits 10 n).length ≤ width := (Nat.length_toDigits_le_iff (by omega) hwidth).mpr h
  unfold padded
  rw [String.toList_ofList, List.length_append, List.length_replicate]
  omega

theorem exists_cons_padded (hwidth : 0 < width) (h : n < 10 ^ width) :
    ∃ c cs, isDigit c = true ∧ (padded width n).toList = c :: cs := by
  cases hdigits : (padded width n).toList with
  | nil =>
    have hlength := length_padded hwidth h
    rw [hdigits, List.length_nil] at hlength
    omega
  | cons c cs => exact ⟨c, cs, isDigit_of_mem_padded (hdigits ▸ List.mem_cons_self), rfl⟩

theorem exists_head?_padded (hwidth : 0 < width) (h : n < 10 ^ width) (rest : List Char) :
    ∃ c, isDigit c = true ∧ ((padded width n).toList ++ rest).head? = some c := by
  obtain ⟨c, cs, hdigit, htext⟩ := exists_cons_padded hwidth h
  exact ⟨c, hdigit, by rw [htext, List.cons_append, List.head?_cons]⟩

theorem exists_getLast?_padded (hwidth : 0 < width) (h : n < 10 ^ width) (cs : List Char) :
    ∃ d, isDigit d = true ∧ (cs ++ (padded width n).toList).getLast? = some d := by
  obtain ⟨c, ds, -, htext⟩ := exists_cons_padded hwidth h
  have hne : (padded width n).toList ≠ [] := by
    rw [htext]
    exact List.cons_ne_nil c ds
  refine ⟨(padded width n).toList.getLast hne, isDigit_of_mem_padded (List.getLast_mem hne), ?_⟩
  rw [List.getLast?_append, List.getLast?_eq_some_getLast hne]
  rfl

theorem digits?_append {ds : List Char} {least : Nat} (hleast : least ≤ ds.length)
    (hdigits : ∀ d ∈ ds, isDigit d = true) (rest : List Char) :
    digits? least ds.length (ds ++ rest) = some (digitsValue ds, rest) := by
  unfold digits?
  rw [List.take_left, List.takeWhile_eq_self_iff.mpr hdigits]
  show (if ds.length < least then none else some (digitsValue ds, (ds ++ rest).drop ds.length)) = _
  rw [if_neg (Nat.not_lt.mpr hleast), List.drop_left]

/-- Digits of a given number are read as the number that they were written for, whatever follows. -/
theorem digits?_padded {least : Nat} (hwidth : 0 < width) (hleast : least ≤ width) (h : n < 10 ^ width)
    (rest : List Char) : digits? least width ((padded width n).toList ++ rest) = some (n, rest) := by
  have hlength := length_padded hwidth h
  have hread := digits?_append (hlength.symm ▸ hleast) (fun _ => isDigit_of_mem_padded) rest
  rwa [hlength, digitsValue_padded] at hread

theorem digits?_two (h : n < 100) (rest : List Char) :
    digits? 2 2 ((padded 2 n).toList ++ rest) = some (n, rest) :=
  digits?_padded (by omega) (by omega) h rest

theorem trimLeft_padded (hwidth : 0 < width) (h : n < 10 ^ width) (rest : List Char) :
    Text.trimLeft ((padded width n).toList ++ rest) = (padded width n).toList ++ rest := by
  obtain ⟨c, cs, hdigit, htext⟩ := exists_cons_padded hwidth h
  rw [htext]
  exact List.dropWhile_cons_of_neg (by rw [Text.isBlank_of_isDigit hdigit]; decide)

theorem small?_padded (h : n < 100) (rest : List Char) :
    small? ((padded 2 n).toList ++ rest) = some (n, rest) := by
  unfold small?
  rw [trimLeft_padded (by omega) h, digits?_padded (by omega) (by omega) h]

/-- A year that begins with a digit has no sign. -/
theorem year?_padded (h : n < 10000) (rest : List Char) :
    year? ((padded 4 n).toList ++ rest) = some ((n : Int), rest) := by
  obtain ⟨c, cs, hdigit, htext⟩ := exists_cons_padded (by omega : 0 < 4) h
  unfold year?
  rw [trimLeft_padded (by omega) h]
  split
  · next heq =>
    rw [htext] at heq
    cases heq
    cases hdigit
  · next heq =>
    rw [htext] at heq
    cases heq
    cases hdigit
  · rw [digits?_padded (by omega) (by omega) h]
    rfl

theorem sign?_nil (c : Char) : sign? c [] = none := rfl

theorem sign?_self (c : Char) (cs : List Char) : sign? c (c :: cs) = some cs :=
  if_pos rfl

end Padded

end Instant

/-! ### Texts -/

/-- A year that has four digits, and a month and a day of two. -/
structure Date.FitsDigits (d : Date) : Prop where
  yearFrom : 0 ≤ d.year
  yearTo : d.year < 10000
  month : d.month < 100
  day : d.day < 100

/-- Year, month and day with dashes between them. -/
def Date.text (d : Date) : String :=
  Instant.padded 4 d.year.toNat ++ "-" ++ Instant.padded 2 d.month ++ "-" ++ Instant.padded 2 d.day

namespace Fields

/-- A date that fits its digits, and a time of day of two digits each, without a fraction of a second. -/
structure FitsDigits (f : Fields) : Prop where
  date : f.date.FitsDigits
  hour : f.hour < 100
  minute : f.minute < 100
  second : f.second < 100
  nanos : f.nanos = 0

/-- Hour and minute with a colon between them. -/
def minuteText (f : Fields) : String :=
  Instant.padded 2 f.hour ++ ":" ++ Instant.padded 2 f.minute

/-- Hour, minute and second with colons between them. -/
def secondText (f : Fields) : String :=
  f.minuteText ++ ":" ++ Instant.padded 2 f.second

theorem toList_secondText (f : Fields) (rest : List Char) :
    f.secondText.toList ++ rest = f.minuteText.toList ++ ':' :: ((Instant.padded 2 f.second).toList ++ rest) := by
  simp [secondText]

theorem toList_minuteText (f : Fields) (rest : List Char) :
    f.minuteText.toList ++ rest =
      (Instant.padded 2 f.hour).toList ++ ':' :: ((Instant.padded 2 f.minute).toList ++ rest) := by
  simp [minuteText]

end Fields

namespace Date

variable {d : Date}

theorem FitsDigits.year_lt (h : d.FitsDigits) : d.year.toNat < 10000 := by
  have := h.yearFrom
  have := h.yearTo
  omega

theorem FitsDigits.cast_year (h : d.FitsDigits) : ((d.year.toNat : Nat) : Int) = d.year :=
  Int.toNat_of_nonneg h.yearFrom

theorem toList_text (d : Date) (rest : List Char) :
    d.text.toList ++ rest = (Instant.padded 4 d.year.toNat).toList ++ '-' ::
      ((Instant.padded 2 d.month).toList ++ '-' :: ((Instant.padded 2 d.day).toList ++ rest)) := by
  simp [text]

end Date

namespace Instant

variable {d : Date} {f : Fields} {c : Char} {rest : List Char}

/-! ### The strict form -/

/-- The next step after one that succeeds. -/
theorem some_bind {α β : Type} (a : α) (next : α → Option β) : (some a >>= next) = next a := rfl

theorem none_bind {α β : Type} (next : α → Option β) : (none >>= next) = none := rfl

theorem strict?_date (h : d.FitsDigits) (rest : List Char) :
    strict? (d.text.toList ++ rest) = (do
      let cs ← between? rest
      let (hour, cs) ← digits? 2 2 cs
      let cs ← sign? ':' cs
      let (minute, cs) ← digits? 2 2 cs
      let cs ← sign? ':' cs
      let (second, cs) ← digits? 2 2 cs
      let (nanos, cs) ← fraction? cs
      let (offset, cs) ← zone? (sign? ':') cs
      if cs.isEmpty && offset.natAbs < 86400 then
        Fields.instant? ⟨d, hour, minute, second, nanos⟩ offset
      else none) := by
  rw [d.toList_text]
  simp only [strict?, digits?_padded (by omega : 0 < 4) (by omega : 4 ≤ 4) h.year_lt, digits?_two h.month,
    digits?_two h.day, sign?_self, some_bind, h.cast_year]

theorem between?_of (h : c = 'T' ∨ c = ' ') (cs : List Char) : between? (c :: cs) = some cs := by
  rcases h with rfl | rfl <;> rfl

/-- Without seconds, the strict form is not there. -/
theorem strict?_minuteText (h : f.FitsDigits) (hbetween : c = 'T' ∨ c = ' ') (hrest : sign? ':' rest = none) :
    strict? (f.date.text.toList ++ c :: (f.minuteText.toList ++ rest)) = none := by
  rw [strict?_date h.date, f.toList_minuteText]
  simp only [between?_of hbetween, digits?_two h.hour, digits?_two h.minute, sign?_self, hrest, some_bind,
    none_bind]

/-- With seconds, the strict form is there if a zone follows. -/
theorem strict?_secondText (h : f.FitsDigits) (hbetween : c = 'T' ∨ c = ' ')
    (hfraction : fraction? rest = some (0, rest)) :
    strict? (f.date.text.toList ++ c :: (f.secondText.toList ++ rest)) =
      (do
        let (offset, cs) ← zone? (sign? ':') rest
        if cs.isEmpty && offset.natAbs < 86400 then f.instant? offset else none) := by
  rw [strict?_date h.date, f.toList_secondText, f.toList_minuteText]
  simp only [between?_of hbetween, digits?_two h.hour, digits?_two h.minute, digits?_two h.second, sign?_self,
    hfraction, some_bind, ← h.nanos]

/-! ### Layouts -/

theorem parts?_append_of_none {ps : List Part} {f : Fields} {cs : List Char} (h : parts? ps f cs = none)
    (qs : List Part) : parts? (ps ++ qs) f cs = none := by
  induction ps generalizing f cs with
  | nil => cases h
  | cons p ps ih =>
    rw [List.cons_append, parts?]
    rw [parts?] at h
    cases hp : part? f cs p with
    | none => rfl
    | some read =>
      rw [hp] at h
      exact ih h

theorem parts?_dateLayout (h : d.FitsDigits) (layout : List Part) (g : Fields) (rest : List Char) :
    parts? (dateLayout ++ layout) g (d.text.toList ++ rest) = parts? layout { g with date := d } rest := by
  rw [d.toList_text]
  simp only [dateLayout, List.cons_append, List.nil_append, parts?, part?, sign?_self, year?_padded h.year_lt,
    small?_padded h.month, small?_padded h.day, Option.map_some, h.cast_year]

theorem parts?_minuteLayout (h : f.FitsDigits) (layout : List Part) (g : Fields) (rest : List Char) :
    parts? (minuteLayout ++ layout) g (f.minuteText.toList ++ rest) =
      parts? layout { g with hour := f.hour, minute := f.minute } rest := by
  rw [f.toList_minuteText]
  simp only [minuteLayout, List.cons_append, List.nil_append, parts?, part?, sign?_self, small?_padded h.hour,
    small?_padded h.minute, Option.map_some]

theorem parts?_secondLayout (h : f.FitsDigits) (g : Fields) (rest : List Char) :
    parts? secondLayout g (f.secondText.toList ++ rest) =
      some ({ g with hour := f.hour, minute := f.minute, second := f.second }, rest) := by
  rw [f.toList_secondText, secondLayout, parts?_minuteLayout h]
  simp only [parts?, part?, sign?_self, small?_padded h.second, Option.map_some]

/-- The instant of what a layout has read, if nothing is left. -/
def whole? : Option (Fields × List Char) → Option Instant
  | some (f, []) => f.instant? 0
  | _ => none

theorem plain?_eq (layout : List Part) (cs : List Char) : plain? layout cs = whole? (parts? layout .blank cs) := by
  unfold plain? whole?
  rfl

theorem whole?_none : whole? none = none := rfl

theorem whole?_nil (f : Fields) : whole? (some (f, [])) = f.instant? 0 := rfl

theorem whole?_cons (f : Fields) (c : Char) (cs : List Char) : whole? (some (f, c :: cs)) = none := rfl

/-- A time of day that stands behind a date, with the letter `T` or a blank between them, is read with seconds or
else without them. -/
theorem findSome?_plainLayouts (h : d.FitsDigits) (hbetween : c = 'T' ∨ c = ' ') {time : List Char}
    (htime : Text.trimLeft time = time) :
    (plainLayouts.findSome? fun layout => plain? layout (d.text.toList ++ c :: time)) =
      (whole? (parts? secondLayout ⟨d, 0, 0, 0, 0⟩ time)).or
        (whole? (parts? minuteLayout ⟨d, 0, 0, 0, 0⟩ time)) := by
  have hdate (p : Part) (layout : List Part) :
      plain? (dateLayout ++ [p] ++ layout) (d.text.toList ++ c :: time) =
        whole? (parts? (p :: layout) ⟨d, 0, 0, 0, 0⟩ (c :: time)) := by
    rw [plain?_eq, List.append_assoc, parts?_dateLayout h]
    rfl
  have hor (read : List Part → Option Instant) (layout : List Part) (layouts : List (List Part)) :
      (layout :: layouts).findSome? read = (read layout).or (layouts.findSome? read) := by
    rw [List.findSome?_cons]
    cases read layout <;> rfl
  simp only [plainLayouts, hor, List.findSome?_nil, hdate]
  -- The letter is taken by the layouts with it only, and a blank by the other ones only.
  rcases hbetween with rfl | rfl
  · have hletter (g : Fields) (layout : List Part) :
        parts? (.sign 'T' :: layout) g ('T' :: time) = parts? layout g time := rfl
    have hblanks (g : Fields) (layout : List Part) :
        parts? (.blanks :: (minuteLayout ++ layout)) g ('T' :: time) = none := rfl
    have hminutes := hblanks ⟨d, 0, 0, 0, 0⟩ []
    rw [List.append_nil] at hminutes
    simp only [hletter, hminutes, secondLayout, hblanks, whole?_none, Option.or_none, Option.none_or]
  · have hletter (g : Fields) (layout : List Part) :
        parts? (.sign 'T' :: layout) g (' ' :: time) = none := rfl
    have hblanks (g : Fields) (layout : List Part) :
        parts? (.blanks :: layout) g (' ' :: time) = parts? layout g time := by
      show parts? layout g (Text.trimLeft time) = _
      rw [htime]
    simp only [hletter, hblanks, whole?_none, Option.or_none, Option.none_or]

theorem trimLeft_minuteText (h : f.FitsDigits) (rest : List Char) :
    Text.trimLeft (f.minuteText.toList ++ rest) = f.minuteText.toList ++ rest := by
  rw [f.toList_minuteText, trimLeft_padded (by omega) h.hour]

theorem parts?_minuteText (h : f.FitsDigits) (g : Fields) (rest : List Char) :
    parts? minuteLayout g (f.minuteText.toList ++ rest) =
      some ({ g with hour := f.hour, minute := f.minute }, rest) := by
  have hparts := parts?_minuteLayout h [] g rest
  rwa [List.append_nil] at hparts

theorem findSome?_plainLayouts_minuteText (h : f.FitsDigits) (hbetween : c = 'T' ∨ c = ' ')
    (hrest : sign? ':' rest = none) :
    (plainLayouts.findSome? fun layout => plain? layout (f.date.text.toList ++ c :: (f.minuteText.toList ++ rest))) =
      whole? (some (⟨f.date, f.hour, f.minute, 0, 0⟩, rest)) := by
  rw [findSome?_plainLayouts h.date hbetween (trimLeft_minuteText h rest), secondLayout, parts?_minuteLayout h,
    parts?_minuteText h]
  simp only [parts?, part?, hrest, Option.map_none, whole?_none, Option.none_or]

theorem findSome?_plainLayouts_secondText (h : f.FitsDigits) (hbetween : c = 'T' ∨ c = ' ') (rest : List Char) :
    (plainLayouts.findSome? fun layout => plain? layout (f.date.text.toList ++ c :: (f.secondText.toList ++ rest))) =
      whole? (some (f, rest)) := by
  have htrim : Text.trimLeft (f.secondText.toList ++ rest) = f.secondText.toList ++ rest := by
    rw [f.toList_secondText, trimLeft_minuteText h]
  rw [findSome?_plainLayouts h.date hbetween htrim, parts?_secondLayout h, f.toList_secondText, parts?_minuteText h,
    whole?_cons, Option.or_none]
  simp only [← h.nanos]

/-- What is no date in front is no date and time. -/
theorem findSome?_plainLayouts_of_none {cs : List Char} (h : parts? dateLayout .blank cs = none) :
    (plainLayouts.findSome? fun layout => plain? layout cs) = none := by
  have hnone (p : Part) (layout : List Part) : plain? (dateLayout ++ [p] ++ layout) cs = none := by
    rw [plain?_eq, List.append_assoc, parts?_append_of_none h, whole?_none]
  simp only [plainLayouts, List.findSome?_cons, List.findSome?_nil, hnone]

/-- A date alone is no date and time. -/
theorem findSome?_plainLayouts_date (h : d.FitsDigits) :
    (plainLayouts.findSome? fun layout => plain? layout d.text.toList) = none := by
  have hdate (p : Part) (layout : List Part) :
      plain? (dateLayout ++ [p] ++ layout) d.text.toList = whole? (parts? (p :: layout) ⟨d, 0, 0, 0, 0⟩ []) := by
    have hparts := parts?_dateLayout h (p :: layout) .blank []
    rw [List.append_nil] at hparts
    rw [plain?_eq, List.append_assoc]
    exact congrArg whole? hparts
  simp only [plainLayouts, List.findSome?_cons, List.findSome?_nil, hdate]
  rfl

theorem plain?_dateLayout (h : d.FitsDigits) (rest : List Char) :
    plain? dateLayout (d.text.toList ++ rest) = whole? (some (⟨d, 0, 0, 0, 0⟩, rest)) := by
  have hparts := parts?_dateLayout h [] .blank rest
  rw [List.append_nil] at hparts
  rw [plain?_eq, hparts]
  rfl

/-! ### Dates of which the end is missing -/

theorem byteLength_append (cs ds : List Char) : byteLength (cs ++ ds) = byteLength cs + byteLength ds := by
  induction cs with
  | nil => rw [List.nil_append, byteLength, Nat.zero_add]
  | cons c cs ih => rw [List.cons_append, byteLength, byteLength, ih, Nat.add_assoc]

theorem byteLength_digits {cs : List Char} (h : ∀ c ∈ cs, isDigit c = true) : byteLength cs = cs.length := by
  induction cs with
  | nil => rfl
  | cons c cs ih =>
    have hsize : c.utf8Size = 1 := by
      have hle := (Ascii.toNat_of_isDigit (h c List.mem_cons_self)).2
      exact Char.utf8Size_eq_one_iff.mpr (UInt32.le_iff_toNat_le.mpr (hle.trans (by decide)))
    rw [byteLength, hsize, ih fun d hd => h d (List.mem_cons_of_mem c hd), List.length_cons, Nat.add_comm]

theorem byteLength_padded {width n : Nat} (hwidth : 0 < width) (h : n < 10 ^ width) :
    byteLength (padded width n).toList = width := by
  rw [byteLength_digits fun _ => isDigit_of_mem_padded, length_padded hwidth h]

theorem byteLength_date (h : d.FitsDigits) : byteLength d.text.toList = 10 := by
  have hdash : byteLength "-".toList = 1 := rfl
  simp only [Date.text, String.toList_append, byteLength_append, byteLength_padded (by omega : 0 < 4) h.year_lt,
    byteLength_padded (by omega : 0 < 2) h.month, byteLength_padded (by omega : 0 < 2) h.day, hdash]

theorem fillDate_date (h : d.FitsDigits) (rest : List Char) :
    fillDate (d.text.toList ++ rest) = d.text.toList ++ rest := by
  have hlong : 7 < byteLength (d.text.toList ++ rest) := by
    rw [byteLength_append, byteLength_date h]
    omega
  unfold fillDate
  rw [if_neg (by omega), if_neg (by omega)]

theorem fillDate_year (h : d.FitsDigits) (hmonth : d.month = 1) (hday : d.day = 1) :
    fillDate (padded 4 d.year.toNat).toList = d.text.toList := by
  have hfilled : "-01-01" = "-" ++ padded 2 1 ++ "-" ++ padded 2 1 := by decide
  unfold fillDate Date.text
  rw [if_pos (byteLength_padded (by omega) h.year_lt), hmonth, hday, hfilled]
  simp only [String.toList_append, List.append_assoc]

theorem fillDate_month (h : d.FitsDigits) (hday : d.day = 1) :
    fillDate (padded 4 d.year.toNat ++ "-" ++ padded 2 d.month).toList = d.text.toList := by
  have hlength : byteLength (padded 4 d.year.toNat ++ "-" ++ padded 2 d.month).toList = 7 := by
    have hdash : byteLength "-".toList = 1 := rfl
    simp only [String.toList_append, byteLength_append, hdash, byteLength_padded (by omega : 0 < 4) h.year_lt,
      byteLength_padded (by omega : 0 < 2) h.month]
  have hfilled : "-01" = "-" ++ padded 2 1 := by decide
  unfold fillDate Date.text
  rw [if_neg (by omega), if_pos hlength, hday, hfilled]
  simp only [String.toList_append, List.append_assoc]

/-! ### The letter at the end -/

theorem dropZone_concat (cs : List Char) : dropZone (cs ++ ['Z']) = cs := by
  unfold dropZone
  rw [if_pos List.getLast?_concat, List.dropLast_concat]

theorem dropZone_of_isDigit {cs : List Char} {d : Char} (hlast : cs.getLast? = some d) (hd : isDigit d = true) :
    dropZone cs = cs := by
  unfold dropZone
  rw [hlast]
  refine if_neg fun h => ?_
  cases h
  cases hd

end Instant

end MapQuery
