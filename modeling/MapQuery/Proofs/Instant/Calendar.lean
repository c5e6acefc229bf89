import MapQuery.Instant.Reader
import Mathlib.Order.Monotone.Basic

/-!
# The order of dates and times of day

The months of the calendar lie one behind the other, each as many days after the one before it as this has days.
So later dates have greater day numbers, and later times of later days are later instants.

* `Date.IsBefore`, `Fields.IsBefore` — the order of dates, and of dates with a time of day: the year counts first,
  then the month, and so on.
* `Date.monthStart_succ` — the start of a month and that of the next one.
* `Date.dayNumber_lt_iff` — dates are in the order of their day numbers.
* `Fields.moment`, `Fields.instant?_zero` — the instant of a date and a time of day that exist.
* `Fields.instant?_eq_none` — where there is none.
* `Fields.millis_moment_lt_iff` — instants are in the order of what they are made of.
-/

namespace MapQuery

namespace Date

/-- A date comes first: in its year, else in its month, else in its day. -/
def IsBefore (d e : Date) : Prop :=
  d.year < e.year ∨ d.year = e.year ∧ (d.month < e.month ∨ d.month = e.month ∧ d.day < e.day)

/-! ### Months -/

/-- The number of a month, counted from the first of the year zero. -/
def monthIndex (d : Date) : Int :=
  12 * d.year + d.month - 1

/-- The number of the day before the first of a month. -/
def monthStart (n : Int) : Int :=
  (⟨n / 12, (n % 12).toNat + 1, 0⟩ : Date).dayNumber

section Month

variable {year : Int} {month day : Nat}

/-- In January and February, the year has begun on the first of March before. -/
theorem dayNumber_of_le (h : month ≤ 2) :
    (⟨year, month, day⟩ : Date).dayNumber =
      365 * (year - 1) + (year - 1) / 4 - (year - 1) / 100 + (year - 1) / 400 +
        (153 * (month + 9) + 2) / 5 + day - 719469 := by
  simp only [dayNumber, if_pos h]

theorem dayNumber_of_lt (h : 2 < month) :
    (⟨year, month, day⟩ : Date).dayNumber =
      365 * year + year / 4 - year / 100 + year / 400 + (153 * (month - 3) + 2) / 5 + day - 719469 := by
  simp only [dayNumber, if_neg (Nat.not_le.mpr h)]

theorem daysIn_january (year : Int) : daysIn year 1 = 31 := rfl

/-- The leap day is where the count of leap years goes up. -/
theorem daysIn_february (year : Int) :
    (daysIn year 2 : Int) = 28 + ((year / 4 - year / 100 + year / 400) -
      ((year - 1) / 4 - (year - 1) / 100 + (year - 1) / 400)) := by
  unfold daysIn isLeap
  rw [if_pos rfl]
  split
  · next h =>
    simp only [Bool.and_eq_true, Bool.or_eq_true, beq_iff_eq, bne_iff_ne] at h
    omega
  · next h =>
    simp only [Bool.and_eq_true, Bool.or_eq_true, beq_iff_eq, bne_iff_ne] at h
    omega

theorem daysIn_of_lt (hfirst : 2 < month) (hlast : month ≤ 12) :
    (daysIn year month : Int) = (153 * (month - 2) + 2) / 5 - (153 * (month - 3) + 2) / 5 := by
  obtain rfl | rfl | rfl | rfl | rfl | rfl | rfl | rfl | rfl | rfl : month = 3 ∨ month = 4 ∨ month = 5 ∨
      month = 6 ∨ month = 7 ∨ month = 8 ∨ month = 9 ∨ month = 10 ∨ month = 11 ∨ month = 12 := by omega
  all_goals rfl

end Month

/-- A month begins after all the days of the one before it. -/
theorem monthStart_succ (n : Int) :
    monthStart (n + 1) = monthStart n + daysIn (n / 12) ((n % 12).toNat + 1) := by
  obtain ⟨y, r, hr, rfl⟩ : ∃ y : Int, ∃ r : Nat, r < 12 ∧ n = 12 * y + r :=
    ⟨n / 12, (n % 12).toNat, by omega, by omega⟩
  have hyear : (12 * y + (r : Int)) / 12 = y := by omega
  have hmonth : ((12 * y + (r : Int)) % 12).toNat = r := by omega
  unfold monthStart
  rw [hyear, hmonth]
  -- The year changes after December. The count of days changes its form between February and March.
  obtain rfl | hr : r = 11 ∨ r < 11 := by omega
  · have hnext : (12 * y + ((11 : Nat) : Int) + 1) / 12 = y + 1 := by omega
    have hfirst : ((12 * y + ((11 : Nat) : Int) + 1) % 12).toNat = 0 := by omega
    rw [hnext, hfirst, dayNumber_of_le (by omega), dayNumber_of_lt (by omega),
      daysIn_of_lt (by omega) (by omega)]
    omega
  · have hsame : (12 * y + (r : Int) + 1) / 12 = y := by omega
    have hnext : ((12 * y + (r : Int) + 1) % 12).toNat = r + 1 := by omega
    rw [hsame, hnext]
    obtain rfl | rfl | hmarch : r = 0 ∨ r = 1 ∨ 2 ≤ r := by omega
    · rw [dayNumber_of_le (by omega), dayNumber_of_le (by omega), daysIn_january]
      omega
    · rw [dayNumber_of_lt (by omega), dayNumber_of_le (by omega), daysIn_february]
      omega
    · rw [dayNumber_of_lt (by omega), dayNumber_of_lt (by omega), daysIn_of_lt (by omega) (by omega)]
      omega

/-- Later months do not start before earlier ones. -/
theorem monthStart_le {m n : Int} (h : m ≤ n) : monthStart m ≤ monthStart n := by
  refine monotone_int_of_le_succ (fun k => ?_) h
  rw [monthStart_succ]
  omega

/-! ### Days -/

variable {d e : Date}

theorem dayNumber_eq (hfirst : 1 ≤ d.month) (hlast : d.month ≤ 12) :
    d.dayNumber = monthStart d.monthIndex + d.day := by
  have hyear : (12 * d.year + d.month - 1 : Int) / 12 = d.year := by omega
  have hmonth : ((12 * d.year + d.month - 1 : Int) % 12).toNat + 1 = d.month := by omega
  unfold monthStart monthIndex
  rw [hyear, hmonth]
  unfold dayNumber
  simp only
  omega

theorem dayNumber_lt_of_isBefore (hd : d.IsValid) (he : e.IsValid) (h : d.IsBefore e) :
    d.dayNumber < e.dayNumber := by
  obtain ⟨hdfirst, hdlast, -, hday⟩ := hd
  obtain ⟨hefirst, helast, hone, -⟩ := he
  rw [dayNumber_eq hdfirst hdlast, dayNumber_eq hefirst helast]
  obtain hmonth | ⟨hmonth, hday⟩ :
      d.monthIndex < e.monthIndex ∨ d.monthIndex = e.monthIndex ∧ d.day < e.day := by
    unfold IsBefore at h
    unfold monthIndex
    omega
  · have hlength : monthStart (d.monthIndex + 1) = monthStart d.monthIndex + daysIn d.year d.month := by
      have hyear : d.monthIndex / 12 = d.year := by unfold monthIndex; omega
      have hmonth : (d.monthIndex % 12).toNat + 1 = d.month := by unfold monthIndex; omega
      rw [monthStart_succ, hyear, hmonth]
    have hle : monthStart (d.monthIndex + 1) ≤ monthStart e.monthIndex := monthStart_le hmonth
    omega
  · rw [hmonth]
    omega

theorem isBefore_trichotomy (d e : Date) : d.IsBefore e ∨ d = e ∨ e.IsBefore d := by
  cases d
  cases e
  simp only [IsBefore, mk.injEq]
  omega

/-- Dates are in the order of their day numbers. -/
theorem dayNumber_lt_iff (hd : d.IsValid) (he : e.IsValid) : d.dayNumber < e.dayNumber ↔ d.IsBefore e := by
  refine ⟨fun h => ?_, dayNumber_lt_of_isBefore hd he⟩
  obtain hbefore | rfl | hafter := isBefore_trichotomy d e
  · exact hbefore
  · exact absurd h (lt_irrefl _)
  · exact absurd h (lt_asymm (dayNumber_lt_of_isBefore he hd hafter))

theorem dayNumber_inj (hd : d.IsValid) (he : e.IsValid) (h : d.dayNumber = e.dayNumber) : d = e := by
  obtain hbefore | heq | hafter := isBefore_trichotomy d e
  · exact absurd h (dayNumber_lt_of_isBefore hd he hbefore).ne
  · exact heq
  · exact absurd h (dayNumber_lt_of_isBefore he hd hafter).ne'

end Date

/-! ### Times of day -/

namespace Fields

/-- A date and a time of day that exist, leap seconds apart. -/
structure IsProper (f : Fields) : Prop where
  date : f.date.IsValid
  hour : f.hour < 24
  minute : f.minute < 60
  second : f.second < 60

/-- A date and a time of day come first: in the date, else in the hour, else in the minute, else in the second. -/
def IsBefore (f g : Fields) : Prop :=
  f.date.IsBefore g.date ∨ f.date = g.date ∧ (f.hour < g.hour ∨ f.hour = g.hour ∧
    (f.minute < g.minute ∨ f.minute = g.minute ∧ f.second < g.second))

/-- The instant at which a full second of a day begins. -/
def moment (f : Fields) : Instant :=
  ⟨f.date.dayNumber * 86400 + f.hour * 3600 + f.minute * 60 + f.second, 0⟩

variable {f g : Fields}

/-- Later dates and times of day are later instants. -/
theorem millis_moment_lt_iff (hf : f.IsProper) (hg : g.IsProper) :
    f.moment.millis < g.moment.millis ↔ f.IsBefore g := by
  have hdate := Date.dayNumber_lt_iff hf.date hg.date
  have hsame : f.date.dayNumber = g.date.dayNumber ↔ f.date = g.date :=
    ⟨Date.dayNumber_inj hf.date hg.date, congrArg Date.dayNumber⟩
  have hfhour := hf.hour
  have hfminute := hf.minute
  have hfsecond := hf.second
  have hghour := hg.hour
  have hgminute := hg.minute
  have hgsecond := hg.second
  unfold IsBefore
  rw [← hdate, ← hsame]
  simp only [moment, Instant.millis]
  omega

/-- A date and a time of day that exist make up an instant if the year can be represented. -/
theorem instant?_zero (h : f.IsProper) (hfirst : Instant.firstYear < f.date.year)
    (hlast : f.date.year < Instant.lastYear) (hnanos : f.nanos = 0) : f.instant? 0 = some f.moment := by
  have hearly : (⟨Instant.firstYear, 1, 1⟩ : Date).dayNumber < f.date.dayNumber :=
    Date.dayNumber_lt_of_isBefore (by decide) h.date (.inl hfirst)
  have hlate : f.date.dayNumber < (⟨Instant.lastYear, 12, 31⟩ : Date).dayNumber :=
    Date.dayNumber_lt_of_isBefore h.date (by decide) (.inl hlast)
  have hfits : (dateFits f.date && f.hour < 24 && f.minute < 60 && f.second ≤ 60) = true := by
    simp only [dateFits, Bool.and_eq_true, decide_eq_true_eq]
    exact ⟨⟨⟨⟨⟨h.date, hfirst.le⟩, hlast.le⟩, h.hour⟩, h.minute⟩, h.second.le⟩
  have hhour := h.hour
  have hminute := h.minute
  have hleap : f.second / 60 = 0 := Nat.div_eq_of_lt h.second
  have hseconds : f.date.dayNumber * 86400 + (f.hour * 3600 + f.minute * 60 + (f.second - 0 : Nat)) - 0 =
      f.moment.seconds := by
    simp only [moment]
    omega
  have hday : f.moment.seconds / 86400 = f.date.dayNumber := by
    have hsecond := h.second
    simp only [moment]
    omega
  unfold instant?
  rw [if_pos hfits]
  simp only [hleap, hseconds, hday, hnanos]
  rw [if_pos]
  · rfl
  · rw [Bool.and_eq_true, decide_eq_true_eq, decide_eq_true_eq]
    exact ⟨hearly.le, hlate.le⟩

/-- A date that does not exist makes up no instant, and neither does an hour or a minute that does not exist. -/
theorem instant?_eq_none (h : ¬ f.date.IsValid ∨ 24 ≤ f.hour ∨ 60 ≤ f.minute) (offset : Int) :
    f.instant? offset = none := by
  unfold instant?
  rw [if_neg]
  simp only [dateFits, Bool.and_eq_true, decide_eq_true_eq]
  rintro ⟨⟨⟨⟨⟨hdate, -⟩, -⟩, hhour⟩, hminute⟩, -⟩
  rcases h with hnone | hlate | hlate
  · exact hnone hdate
  · omega
  · omega

end Fields

end MapQuery
