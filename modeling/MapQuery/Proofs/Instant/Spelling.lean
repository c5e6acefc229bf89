import MapQuery.Proofs.Instant.Calendar
import MapQuery.Proofs.Instant.Reading

/-!
# Spellings of an instant

A date and a time of day are spelled in several ways: with a letter or a blank between them, with or without a zone,
and without what is the first of its kind at the end. Nothing says in which of the ways a text is written: the forms
are tried one after the other. All the spellings are read as the same instant, and those of a date that does not exist
are all refused.

* `Fields.Spells` — the spellings of a date and a time of day.
* `Instant.read?_of_spells` — each of them is read as the date and the time of day.
* `Instant.spellings_agree` — the instants that are read, their order, and what is refused.
-/

namespace MapQuery

open Ascii (isDigit)

/-! ### Spellings -/

namespace Fields

/-- The first second of a day. -/
def IsMidnight (f : Fields) : Prop :=
  f.hour = 0 ∧ f.minute = 0 ∧ f.second = 0

theorem eq_of_second {f : Fields} (hsecond : f.second = 0) (hnanos : f.nanos = 0) :
    (⟨f.date, f.hour, f.minute, 0, 0⟩ : Fields) = f := by
  cases f
  cases hsecond
  cases hnanos
  rfl

/-- The spellings of a date and a time of day. What is the first of its kind at the end may be missing. -/
inductive Spells (f : Fields) : String → Prop
  | year (hmonth : f.date.month = 1) (hday : f.date.day = 1) (hmidnight : f.IsMidnight) :
    Spells f (Instant.padded 4 f.date.year.toNat)
  | month (hday : f.date.day = 1) (hmidnight : f.IsMidnight) :
    Spells f (Instant.padded 4 f.date.year.toNat ++ "-" ++ Instant.padded 2 f.date.month)
  | date (hmidnight : f.IsMidnight) : Spells f f.date.text
  | minute {between zone : String} (hbetween : between = "T" ∨ between = " ") (hzone : zone = "" ∨ zone = "Z")
    (hsecond : f.second = 0) : Spells f (f.date.text ++ between ++ f.minuteText ++ zone)
  | second {between zone : String} (hbetween : between = "T" ∨ between = " ") (hzone : zone = "" ∨ zone = "Z") :
    Spells f (f.date.text ++ between ++ f.secondText ++ zone)
  | offset : Spells f (f.date.text ++ "T" ++ f.secondText ++ "+00:00")

end Fields

namespace Instant

variable {f : Fields} {s : String}

/-- A text without blanks at its ends is read in three ways, one after the other. -/
theorem read?_eq {c d : Char} (hfirst : s.toList.head? = some c) (hc : isDigit c = true)
    (hlast : s.toList.getLast? = some d) (hd : Text.isBlank d = false) :
    read? s = (strict? s.toList).or ((plainLayouts.findSome? fun layout => plain? layout (dropZone s.toList)).or
      (plain? dateLayout (fillDate s.toList))) := by
  have htrim : Text.trim s.toList = s.toList := by
    refine Text.trim_eq_self (fun a ha => ?_) fun a ha => ?_
    · rw [hfirst] at ha
      cases ha
      exact Text.isBlank_of_isDigit hc
    · rw [hlast] at ha
      cases ha
      exact hd
  simp only [read?, htrim]
  cases strict? s.toList with
  | some i => rfl
  | none =>
    rw [Option.none_or]
    cases (plainLayouts.findSome? fun layout => plain? layout (dropZone s.toList)) with
    | some i => rfl
    | none => rfl

/-! ### Reading -/

/-- The text of a time of day ends in a digit. -/
theorem exists_getLast?_minuteText (h : f.FitsDigits) (cs : List Char) :
    ∃ e, isDigit e = true ∧ (cs ++ f.minuteText.toList).getLast? = some e := by
  rw [Fields.minuteText, String.toList_append, ← List.append_assoc]
  exact exists_getLast?_padded (by omega) h.minute _

theorem exists_getLast?_secondText (h : f.FitsDigits) (cs : List Char) :
    ∃ e, isDigit e = true ∧ (cs ++ f.secondText.toList).getLast? = some e := by
  rw [Fields.secondText, String.toList_append, ← List.append_assoc]
  exact exists_getLast?_padded (by omega) h.second _

section DateTime

variable {c e : Char} {time zone : List Char}

/-- The letter at the end is dropped behind a digit. Neither of them is a blank. -/
theorem dropZone_zone {cs : List Char} (hlast : cs.getLast? = some e) (he : isDigit e = true)
    (hzone : zone = [] ∨ zone = ['Z']) :
    dropZone (cs ++ zone) = cs ∧ ∃ e', Text.isBlank e' = false ∧ (cs ++ zone).getLast? = some e' := by
  rcases hzone with rfl | rfl
  · rw [List.append_nil]
    exact ⟨dropZone_of_isDigit hlast he, e, Text.isBlank_of_isDigit he, hlast⟩
  · exact ⟨dropZone_concat cs, 'Z', rfl, List.getLast?_concat⟩

/-- What begins with a date and goes on up to a digit and perhaps a letter is read in the strict form, or else in the
layouts of date and time. -/
theorem read?_dateTime (h : f.FitsDigits) (hlast : (f.date.text.toList ++ [c] ++ time).getLast? = some e)
    (he : isDigit e = true) (hzone : zone = [] ∨ zone = ['Z'])
    (htext : s.toList = f.date.text.toList ++ c :: (time ++ zone)) :
    read? s = (strict? (f.date.text.toList ++ c :: (time ++ zone))).or
      (plainLayouts.findSome? fun layout => plain? layout (f.date.text.toList ++ c :: time)) := by
  obtain ⟨hdrop, e', he', hlast'⟩ := dropZone_zone hlast he hzone
  have hcs : f.date.text.toList ++ [c] ++ time ++ zone = s.toList := by
    rw [htext, List.append_assoc, List.append_assoc, List.singleton_append]
  obtain ⟨a, ha, hfirst⟩ := exists_head?_padded (by omega : 0 < 4) h.date.year_lt _
  have hfirst : s.toList.head? = some a := by
    rw [htext, f.date.toList_text]
    exact hfirst
  rw [hcs] at hdrop hlast'
  rw [read?_eq hfirst ha hlast' he', hdrop, htext, fillDate_date h.date, plain?_dateLayout h.date, whole?_cons,
    Option.or_none, List.append_assoc, List.singleton_append]

theorem read?_minute (h : f.FitsDigits) (hbetween : c = 'T' ∨ c = ' ') (hzone : zone = [] ∨ zone = ['Z'])
    (hsecond : f.second = 0) (htext : s.toList = f.date.text.toList ++ c :: (f.minuteText.toList ++ zone)) :
    read? s = f.instant? 0 := by
  obtain ⟨e, he, hlast⟩ := exists_getLast?_minuteText h (f.date.text.toList ++ [c])
  have hcolon : sign? ':' zone = none := by
    rcases hzone with rfl | rfl <;> rfl
  have hnone : sign? ':' [] = none := rfl
  have hplain := findSome?_plainLayouts_minuteText h hbetween hnone
  rw [List.append_nil] at hplain
  rw [read?_dateTime h hlast he hzone htext, hplain, strict?_minuteText h hbetween hcolon, Option.none_or, whole?_nil]
  exact congrArg (Fields.instant? · 0) (Fields.eq_of_second hsecond h.nanos)

theorem read?_second (h : f.FitsDigits) (hbetween : c = 'T' ∨ c = ' ') (hzone : zone = [] ∨ zone = ['Z'])
    (htext : s.toList = f.date.text.toList ++ c :: (f.secondText.toList ++ zone)) : read? s = f.instant? 0 := by
  obtain ⟨e, he, hlast⟩ := exists_getLast?_secondText h (f.date.text.toList ++ [c])
  have hplain := findSome?_plainLayouts_secondText h hbetween []
  rw [List.append_nil] at hplain
  rw [read?_dateTime h hlast he hzone htext, hplain, whole?_nil]
  rcases hzone with rfl | rfl
  · rw [strict?_secondText h hbetween rfl]
    rfl
  · rw [strict?_secondText h hbetween rfl]
    show (f.instant? 0).or (f.instant? 0) = _
    cases f.instant? 0 <;> rfl

/-- An offset ends in a digit, so that nothing is dropped. -/
theorem read?_before_offset (h : f.FitsDigits)
    (htext : s.toList = f.date.text.toList ++ c :: (time ++ "+00:00".toList)) :
    read? s = (strict? (f.date.text.toList ++ c :: (time ++ "+00:00".toList))).or
      (plainLayouts.findSome? fun layout => plain? layout (f.date.text.toList ++ c :: (time ++ "+00:00".toList))) := by
  have hlast : (f.date.text.toList ++ [c] ++ (time ++ "+00:00".toList)).getLast? = some '0' := by
    rw [List.getLast?_append, List.getLast?_append]
    rfl
  rw [← List.append_nil (_ ++ "+00:00".toList)] at htext
  rw [read?_dateTime h hlast rfl (.inl rfl) htext, List.append_nil]

/-- Behind seconds, an offset is read in the strict form only. -/
theorem read?_offset (h : f.FitsDigits) (hbetween : c = 'T' ∨ c = ' ')
    (htext : s.toList = f.date.text.toList ++ c :: (f.secondText.toList ++ "+00:00".toList)) :
    read? s = f.instant? 0 := by
  rw [read?_before_offset h htext, strict?_secondText h hbetween rfl, findSome?_plainLayouts_secondText h hbetween]
  exact Option.or_none

/-- Without seconds, an offset is refused. -/
theorem read?_minute_offset (h : f.FitsDigits) (hbetween : c = 'T' ∨ c = ' ')
    (htext : s.toList = f.date.text.toList ++ c :: (f.minuteText.toList ++ "+00:00".toList)) : read? s = none := by
  rw [read?_before_offset h htext, strict?_minuteText h hbetween rfl, findSome?_plainLayouts_minuteText h hbetween rfl]
  rfl

end DateTime

/-- What is no date and time is read as a date, of which the end may be missing. -/
theorem read?_date {d : Date} {a e : Char} (h : d.FitsDigits) (hfirst : s.toList.head? = some a)
    (ha : isDigit a = true) (hlast : s.toList.getLast? = some e) (he : isDigit e = true)
    (hstrict : strict? s.toList = none)
    (hplain : (plainLayouts.findSome? fun layout => plain? layout s.toList) = none)
    (hfill : fillDate s.toList = d.text.toList) : read? s = Fields.instant? ⟨d, 0, 0, 0, 0⟩ 0 := by
  have hdate := plain?_dateLayout h []
  rw [List.append_nil] at hdate
  rw [read?_eq hfirst ha hlast (Text.isBlank_of_isDigit he), dropZone_of_isDigit hlast he, hstrict, hplain, hfill,
    hdate, Option.none_or, Option.none_or, whole?_nil]

section Partial

variable {d : Date}

theorem read?_year (h : d.FitsDigits) (hmonth : d.month = 1) (hday : d.day = 1) :
    read? (padded 4 d.year.toNat) = Fields.instant? ⟨d, 0, 0, 0, 0⟩ 0 := by
  have hnil : (padded 4 d.year.toNat).toList = (padded 4 d.year.toNat).toList ++ [] := (List.append_nil _).symm
  obtain ⟨a, ha, hfirst⟩ := exists_head?_padded (by omega : 0 < 4) h.year_lt []
  obtain ⟨e, he, hlast⟩ := exists_getLast?_padded (by omega : 0 < 4) h.year_lt []
  rw [← hnil] at hfirst
  have hstrict : strict? (padded 4 d.year.toNat).toList = none := by
    rw [hnil]
    simp only [strict?, digits?_padded (by omega : 0 < 4) (by omega : 4 ≤ 4) h.year_lt, sign?_nil, some_bind, none_bind]
  have hparts : parts? dateLayout .blank (padded 4 d.year.toNat).toList = none := by
    rw [hnil]
    simp only [dateLayout, parts?, part?, year?_padded h.year_lt, sign?_nil, Option.map_some, Option.map_none]
  have hplain := findSome?_plainLayouts_of_none hparts
  exact read?_date h hfirst ha hlast he hstrict hplain (fillDate_year h hmonth hday)

theorem read?_month (h : d.FitsDigits) (hday : d.day = 1) :
    read? (padded 4 d.year.toNat ++ "-" ++ padded 2 d.month) = Fields.instant? ⟨d, 0, 0, 0, 0⟩ 0 := by
  have htext : (padded 4 d.year.toNat ++ "-" ++ padded 2 d.month).toList =
      (padded 4 d.year.toNat).toList ++ '-' :: ((padded 2 d.month).toList ++ []) := by
    simp
  obtain ⟨a, ha, hfirst⟩ := exists_head?_padded (by omega : 0 < 4) h.year_lt _
  obtain ⟨e, he, hlast⟩ := exists_getLast?_padded (by omega : 0 < 2) h.month (padded 4 d.year.toNat ++ "-").toList
  rw [← htext] at hfirst
  rw [← String.toList_append] at hlast
  have hstrict : strict? (padded 4 d.year.toNat ++ "-" ++ padded 2 d.month).toList = none := by
    rw [htext]
    simp only [strict?, digits?_padded (by omega : 0 < 4) (by omega : 4 ≤ 4) h.year_lt, digits?_two h.month,
      sign?_self, sign?_nil, some_bind, none_bind]
  have hparts : parts? dateLayout .blank (padded 4 d.year.toNat ++ "-" ++ padded 2 d.month).toList = none := by
    rw [htext]
    simp only [dateLayout, parts?, part?, year?_padded h.year_lt, small?_padded h.month, sign?_self, sign?_nil,
      Option.map_some, Option.map_none]
  have hplain := findSome?_plainLayouts_of_none hparts
  exact read?_date h hfirst ha hlast he hstrict hplain (fillDate_month h hday)

theorem read?_text (h : d.FitsDigits) : read? d.text = Fields.instant? ⟨d, 0, 0, 0, 0⟩ 0 := by
  have hnil : d.text.toList = d.text.toList ++ [] := (List.append_nil _).symm
  obtain ⟨a, ha, hfirst⟩ := exists_head?_padded (by omega : 0 < 4) h.year_lt _
  obtain ⟨e, he, hlast⟩ := exists_getLast?_padded (by omega : 0 < 2) h.day _
  rw [← d.toList_text [], ← hnil] at hfirst
  have hstrict : strict? d.text.toList = none := by
    rw [hnil, strict?_date h]
    rfl
  have hfill := fillDate_date h []
  rw [← hnil] at hfill
  rw [← String.toList_append] at hlast
  exact read?_date h hfirst ha hlast he hstrict (findSome?_plainLayouts_date h) hfill

end Partial

/-- A date and a time of day are read from each of their spellings. -/
theorem read?_of_spells (h : f.FitsDigits) (hs : f.Spells s) : read? s = f.instant? 0 := by
  have htext {between : String} (hbetween : between = "T" ∨ between = " ") (time zone : String) :
      ∃ c, (c = 'T' ∨ c = ' ') ∧
        (f.date.text ++ between ++ time ++ zone).toList =
          f.date.text.toList ++ c :: (time.toList ++ zone.toList) := by
    rcases hbetween with rfl | rfl
    · exact ⟨'T', .inl rfl, by simp⟩
    · exact ⟨' ', .inr rfl, by simp⟩
  have hletter {zone : String} (hzone : zone = "" ∨ zone = "Z") : zone.toList = [] ∨ zone.toList = ['Z'] := by
    rcases hzone with rfl | rfl
    · exact .inl rfl
    · exact .inr rfl
  have hday (hmidnight : f.IsMidnight) : f.instant? 0 = Fields.instant? ⟨f.date, 0, 0, 0, 0⟩ 0 := by
    obtain ⟨hhour, hminute, hsecond⟩ := hmidnight
    rw [← Fields.eq_of_second hsecond h.nanos, hhour, hminute]
  cases hs with
  | year hmonth hfirst hmidnight => rw [hday hmidnight, read?_year h.date hmonth hfirst]
  | month hfirst hmidnight => rw [hday hmidnight, read?_month h.date hfirst]
  | date hmidnight => rw [hday hmidnight, read?_text h.date]
  | minute hbetween hzone hsecond =>
    obtain ⟨c, hc, hcs⟩ := htext hbetween f.minuteText _
    exact read?_minute h hc (hletter hzone) hsecond hcs
  | second hbetween hzone =>
    obtain ⟨c, hc, hcs⟩ := htext hbetween f.secondText _
    exact read?_second h hc (hletter hzone) hcs
  | offset =>
    obtain ⟨c, hc, hcs⟩ := htext (.inl rfl) f.secondText "+00:00"
    exact read?_offset h hc hcs

/-- All spellings of a date and a time of day that exist are read as the same instant, which is the later the later
the date and the time of day are. All spellings of a date that does not exist are refused, and so are those of a time
of day that does not. An offset is read behind seconds only. -/
theorem spellings_agree (h : f.FitsDigits) :
    (f.IsProper → (∀ s, f.Spells s → read? s = some f.moment) ∧
      ∀ g : Fields, g.IsProper → (f.moment.millis < g.moment.millis ↔ f.IsBefore g)) ∧
    (¬ f.date.IsValid ∨ 24 ≤ f.hour ∨ 60 ≤ f.minute → ∀ s, f.Spells s → read? s = none) ∧
    read? (f.date.text ++ "T" ++ f.minuteText ++ "+00:00") = none := by
  refine ⟨fun hproper => ⟨fun s hs => ?_, fun g hg => Fields.millis_moment_lt_iff hproper hg⟩, fun hnone s hs => ?_,
    read?_minute_offset h (.inl rfl) (by simp)⟩
  · have hfirst : firstYear < f.date.year := lt_of_lt_of_le (by decide) h.date.yearFrom
    have hlast : f.date.year < lastYear := lt_of_lt_of_le h.date.yearTo (by decide)
    rw [read?_of_spells h hs, Fields.instant?_zero hproper hfirst hlast h.nanos]
  · rw [read?_of_spells h hs, Fields.instant?_eq_none hnone]

/-- A leap day in three spellings, the day after it, and the same day of a year without it. -/
theorem spellings_agree_leapDay :
    read? "2012-02-29" = some ⟨1330473600, 0⟩ ∧ read? "2012-02-29 00:00" = some ⟨1330473600, 0⟩ ∧
      read? "2012-02-29T00:00:00+00:00" = some ⟨1330473600, 0⟩ ∧
      (⟨⟨2012, 2, 29⟩, 0, 0, 0, 0⟩ : Fields).moment.millis < (⟨⟨2012, 3, 1⟩, 0, 0, 0, 0⟩ : Fields).moment.millis ∧
      read? "2011-02-29" = none ∧ read? "2011-02-29T00:00:00Z" = none := by
  have hdigits : Fields.FitsDigits ⟨⟨2012, 2, 29⟩, 0, 0, 0, 0⟩ :=
    ⟨⟨by decide, by decide, by decide, by decide⟩, by decide, by decide, by decide, rfl⟩
  have hdigits' : Fields.FitsDigits ⟨⟨2011, 2, 29⟩, 0, 0, 0, 0⟩ :=
    ⟨⟨by decide, by decide, by decide, by decide⟩, by decide, by decide, by decide, rfl⟩
  obtain ⟨hproper, -, -⟩ := spellings_agree hdigits
  obtain ⟨hread, horder⟩ := hproper ⟨by decide, by decide, by decide, by decide⟩
  obtain ⟨-, hnone, -⟩ := spellings_agree hdigits'
  have hrefused := hnone (.inl (by decide))
  have hmidnight : Fields.IsMidnight ⟨⟨2012, 2, 29⟩, 0, 0, 0, 0⟩ := ⟨rfl, rfl, rfl⟩
  have hmidnight' : Fields.IsMidnight ⟨⟨2011, 2, 29⟩, 0, 0, 0, 0⟩ := ⟨rfl, rfl, rfl⟩
  refine ⟨hread _ (.date hmidnight), hread _ (@Fields.Spells.minute _ " " "" (.inr rfl) (.inl rfl) rfl),
    hread _ .offset, ?_, hrefused _ (.date hmidnight'),
    hrefused _ (@Fields.Spells.second _ "T" "Z" (.inl rfl) (.inr rfl))⟩
  exact (horder _ ⟨by decide, by decide, by decide, by decide⟩).mpr (.inl (.inr ⟨rfl, .inl (by decide)⟩))

end Instant

end MapQuery
