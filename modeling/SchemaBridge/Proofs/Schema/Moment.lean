/-
# Moments read back

The text of a moment is read back as the moment.  For the calendar, a day is taken apart the way
its numbering does: eras of 400 years, in them centuries, spans of four years and years, each of
which begins in March, so that the day a leap year has more is the last of all of them.

## Key statements

* `CalendarDay.civil_number`, `CalendarDay.dayNumber_date`: a day has one date and one number.
* `parse?_text`: a moment is read back from its text.
-/
import SchemaBridge.Proofs.Text.Decimal
import SchemaBridge.Schema.Moment

namespace SchemaBridge.Moment

/-! ## The calendar -/

/-- A day by its place in the calendar.  Months are counted from March, and days from 1. -/
structure CalendarDay where
  era : Int
  century : Int
  span : Int
  year : Int
  month : Int
  day : Int
  century_range : 0 ≤ century ∧ century ≤ 3
  span_range : 0 ≤ span ∧ span ≤ 24
  year_range : 0 ≤ year ∧ year ≤ 3
  month_range : 0 ≤ month ∧ month ≤ 11
  day_pos : 1 ≤ day
  /-- The month is the one that the day of the year falls into. -/
  month_eq : month = (5 * ((153 * month + 2) / 5 + day - 1) + 2) / 153
  dayOfYear_le : (153 * month + 2) / 5 + day - 1 ≤ 365
  /-- Only a leap year has a day number 365. -/
  leap : (153 * month + 2) / 5 + day - 1 = 365 → year = 3 ∧ (span = 24 → century = 3)

namespace CalendarDay

variable (x : CalendarDay)

/-- The day of the year, which begins in March. -/
def dayOfYear : Int := (153 * x.month + 2) / 5 + x.day - 1

/-- The year of the era. -/
def yearOfEra : Int := 100 * x.century + 4 * x.span + x.year

/-- The day of the era. -/
def dayOfEra : Int := 36524 * x.century + 1461 * x.span + 365 * x.year + x.dayOfYear

/-- Number of the day, counted from the first day of 1970. -/
def number : Int := x.era * 146097 + x.dayOfEra - 719468

/-- Month, counted from January. -/
def civilMonth : Int := if x.month < 10 then x.month + 3 else x.month - 9

/-- Year, which begins in January. -/
def civilYear : Int :=
  if x.civilMonth ≤ 2 then x.yearOfEra + x.era * 400 + 1 else x.yearOfEra + x.era * 400

/-- A year has 366 days at most. -/
theorem dayOfYear_range : 0 ≤ x.dayOfYear ∧ x.dayOfYear ≤ 365 := by
  have hmonth := x.month_range
  have hday := x.day_pos
  have hle := x.dayOfYear_le
  unfold dayOfYear
  omega

/-- A day lies in its century, but for the last day of an era. -/
theorem dayOfCentury_lt :
    1461 * x.span + 365 * x.year + x.dayOfYear < 36524 ∨ x.dayOfEra = 146096 ∧ x.century = 3 := by
  have hcentury := x.century_range
  have hspan := x.span_range
  have hyear := x.year_range
  have hday := x.dayOfYear_range
  have hleap : x.dayOfYear = 365 → x.year = 3 ∧ (x.span = 24 → x.century = 3) := x.leap
  unfold dayOfEra
  by_cases h : x.dayOfYear = 365
  · have := hleap h
    omega
  · omega

/-- An era has 146097 days. -/
theorem dayOfEra_range : 0 ≤ x.dayOfEra ∧ x.dayOfEra < 146097 := by
  have hcentury := x.century_range
  have hspan := x.span_range
  have hyear := x.year_range
  have hday := x.dayOfYear_range
  rcases x.dayOfCentury_lt with h | h
  · unfold dayOfEra
    omega
  · omega

/-- An era has 400 years. -/
theorem yearOfEra_range : 0 ≤ x.yearOfEra ∧ x.yearOfEra < 400 := by
  have hcentury := x.century_range
  have hspan := x.span_range
  have hyear := x.year_range
  unfold yearOfEra
  omega

/-- The leap days of an era leave the year that its days would have without them. -/
theorem yearOfEra_eq :
    (x.dayOfEra - x.dayOfEra / 1460 + x.dayOfEra / 36524 - x.dayOfEra / 146096) / 365
      = x.yearOfEra := by
  have hcentury := x.century_range
  have hspan := x.span_range
  have hyear := x.year_range
  have hday := x.dayOfYear_range
  have hleap : x.dayOfYear = 365 → x.year = 3 ∧ (x.span = 24 → x.century = 3) := x.leap
  have hsum : x.dayOfEra = 36524 * x.century + 1461 * x.span + 365 * x.year + x.dayOfYear := rfl
  have hcenturies : x.dayOfEra / 36524 - x.dayOfEra / 146096 = x.century := by
    rcases x.dayOfCentury_lt with hlt | ⟨hlast, hthree⟩
    · have hin : x.dayOfEra / 36524 = x.century := by omega
      have hera : x.dayOfEra / 146096 = 0 := by omega
      omega
    · rw [hlast, hthree]
      decide
  -- 1460 days are one short of four years, so the last year of a span may be counted too early
  have hspans : x.dayOfEra / 1460 = 25 * x.century + x.span
      ∨ x.dayOfEra / 1460 = 25 * x.century + x.span + 1 ∧ x.year = 3 ∧ 1 ≤ x.dayOfYear := by
    omega
  unfold yearOfEra
  omega

/-- The day of the era, by the leap years before it. -/
theorem dayOfEra_eq :
    x.yearOfEra * 365 + x.yearOfEra / 4 - x.yearOfEra / 100 + x.dayOfYear = x.dayOfEra := by
  have hcentury := x.century_range
  have hspan := x.span_range
  have hyear := x.year_range
  have hspans : x.yearOfEra / 4 = 25 * x.century + x.span := by
    unfold yearOfEra
    omega
  have hcenturies : x.yearOfEra / 100 = x.century := by
    unfold yearOfEra
    omega
  rw [hspans, hcenturies]
  unfold yearOfEra dayOfEra
  omega

/-- A remainder does not change a quotient. -/
theorem fdiv_mul_add {a n width : Int} (hn : 0 ≤ n ∧ n < width) :
    Int.fdiv (a * width + n) width = a := by
  rw [Int.fdiv_eq_ediv_of_nonneg _ (by omega), Int.add_comm,
    Int.add_mul_ediv_right _ _ (by omega), Int.ediv_eq_zero_of_lt hn.1 hn.2, Int.zero_add]

/-- The date of a numbered day. -/
theorem civil_number : civil x.number = (x.civilYear, x.civilMonth.toNat, x.day.toNat) := by
  have hera : Int.fdiv (x.era * 146097 + x.dayOfEra) 146097 = x.era :=
    fdiv_mul_add x.dayOfEra_range
  have hin : x.era * 146097 + x.dayOfEra - x.era * 146097 = x.dayOfEra := by omega
  have hyear := x.yearOfEra_eq
  have hofYear : x.dayOfEra - (365 * x.yearOfEra + x.yearOfEra / 4 - x.yearOfEra / 100)
      = x.dayOfYear := by
    have := x.dayOfEra_eq
    omega
  have hmonth : (5 * x.dayOfYear + 2) / 153 = x.month := x.month_eq.symm
  have hday : x.dayOfYear - (153 * x.month + 2) / 5 + 1 = x.day := by
    unfold dayOfYear
    omega
  unfold civil number
  rw [Int.sub_add_cancel]
  simp only [hera, hin, hyear, hofYear, hmonth, hday]
  rfl

/-- Months are counted from 1 to 12. -/
theorem civilMonth_range : 1 ≤ x.civilMonth ∧ x.civilMonth ≤ 12 := by
  have hmonth := x.month_range
  unfold civilMonth
  split <;> omega

/-- The number of a dated day. -/
theorem dayNumber_date : dayNumber x.civilYear x.civilMonth.toNat x.day.toNat = x.number := by
  have hmonth : (x.civilMonth.toNat : Int) = x.civilMonth :=
    Int.toNat_of_nonneg (by have := x.civilMonth_range; omega)
  have hle : (x.civilMonth.toNat ≤ 2) = (x.civilMonth ≤ 2) := by
    rw [← hmonth]
    simp
  have hmarch : (x.civilMonth + 9) % 12 = x.month := by
    have := x.month_range
    unfold civilMonth
    split <;> omega
  have hday : (x.day.toNat : Int) = x.day :=
    Int.toNat_of_nonneg (by have := x.day_pos; omega)
  have hyear : (if x.civilMonth ≤ 2 then x.civilYear - 1 else x.civilYear)
      = x.era * 400 + x.yearOfEra := by
    unfold civilYear
    split <;> omega
  have hera : Int.fdiv (x.era * 400 + x.yearOfEra) 400 = x.era := fdiv_mul_add x.yearOfEra_range
  have hin : x.era * 400 + x.yearOfEra - x.era * 400 = x.yearOfEra := by omega
  have hsum := x.dayOfEra_eq
  unfold dayOfYear at hsum
  unfold dayNumber number
  simp only [hle, hmonth, hmarch, hday, hyear, hera, hin]
  omega

/-- The year after one that ends with a leap day is a leap year. -/
theorem isLeapYear_of_leap (h : x.dayOfYear = 365) :
    isLeapYear (x.yearOfEra + x.era * 400 + 1) = true := by
  obtain ⟨hyear, hspan⟩ := x.leap h
  have hrange := x.span_range
  have hfour : (x.yearOfEra + x.era * 400 + 1) % 4 = 0 := by
    unfold yearOfEra
    omega
  have hhundred : (x.yearOfEra + x.era * 400 + 1) % 100 ≠ 0
      ∨ (x.yearOfEra + x.era * 400 + 1) % 400 = 0 := by
    unfold yearOfEra
    omega
  simp only [isLeapYear, Bool.and_eq_true, Bool.or_eq_true, decide_eq_true_eq]
  exact ⟨hfour, hhundred⟩

/-- No month has a day beyond its last one. -/
theorem day_le_daysInMonth : x.day.toNat ≤ daysInMonth x.civilYear x.civilMonth.toNat := by
  have hle := x.dayOfYear_le
  have heq := x.month_eq
  by_cases hfebruary : x.month = 11
  · have hlast : x.dayOfYear = 336 + x.day := by
      unfold dayOfYear
      omega
    have hmonth : x.civilMonth = 2 := by simp [civilMonth, hfebruary]
    have hyear : x.civilYear = x.yearOfEra + x.era * 400 + 1 := by simp [civilYear, hmonth]
    rw [hyear, hmonth]
    show x.day.toNat ≤ if isLeapYear (x.yearOfEra + x.era * 400 + 1) then 29 else 28
    have hrange := x.dayOfYear_range
    by_cases hleap : x.dayOfYear = 365
    · rw [x.isLeapYear_of_leap hleap, if_pos rfl]
      omega
    · split <;> omega
  · have hmonth : x.month = 0 ∨ x.month = 1 ∨ x.month = 2 ∨ x.month = 3 ∨ x.month = 4
        ∨ x.month = 5 ∨ x.month = 6 ∨ x.month = 7 ∨ x.month = 8 ∨ x.month = 9 ∨ x.month = 10 := by
      have := x.month_range
      omega
    -- the other months have their days whatever the year
    rcases hmonth with h | h | h | h | h | h | h | h | h | h | h
    all_goals
      rw [h] at heq
      simp [daysInMonth, civilMonth, h]
      omega

/-- Every day has its place in the calendar. -/
theorem exists_number (n : Int) : ∃ x : CalendarDay, x.number = n := by
  obtain ⟨era, d, hd, rfl⟩ : ∃ era d, (0 ≤ d ∧ d ≤ 146096) ∧ era * 146097 + d - 719468 = n :=
    ⟨(n + 719468) / 146097, (n + 719468) % 146097, by omega, by omega⟩
  obtain ⟨c, hc, e, he, hde, hlast⟩ : ∃ c, (0 ≤ c ∧ c ≤ 3) ∧ ∃ e, (0 ≤ e ∧ e ≤ 36524) ∧
      d = 36524 * c + e ∧ (e = 36524 → c = 3) := by
    -- the last day of an era would begin a fifth century
    by_cases h : d = 146096
    · exact ⟨3, by omega, 36524, by omega, by omega, by omega⟩
    · exact ⟨d / 36524, by omega, d % 36524, by omega, by omega, by omega⟩
  obtain ⟨k, hk, r, hr, hs, hleap⟩ : ∃ k, (0 ≤ k ∧ k ≤ 3) ∧ ∃ r, (0 ≤ r ∧ r ≤ 365) ∧
      e % 1461 = 365 * k + r ∧ (r = 365 → k = 3) := by
    -- the last day of four years would begin a fifth year
    by_cases h : e % 1461 = 1460
    · exact ⟨3, by omega, 365, by omega, by omega, by omega⟩
    · exact ⟨e % 1461 / 365, by omega, e % 1461 % 365, by omega, by omega, by omega⟩
  obtain ⟨s, hs, m, hm, hsum, hshift⟩ : ∃ s, (0 ≤ s ∧ s ≤ 11) ∧ ∃ m, 1 ≤ m ∧
      (153 * s + 2) / 5 + m - 1 = r ∧ s = (5 * r + 2) / 153 :=
    ⟨(5 * r + 2) / 153, by omega, r - (153 * ((5 * r + 2) / 153) + 2) / 5 + 1, by omega, by omega,
      rfl⟩
  have hspan : r = 365 → k = 3 ∧ (e / 1461 = 24 → c = 3) := by
    intro h
    have := hleap h
    omega
  refine ⟨⟨era, c, e / 1461, k, s, m, hc, by omega, hk, hs, hm, ?_, ?_, ?_⟩, ?_⟩
  · rw [hsum]
    exact hshift
  · rw [hsum]
    exact hr.2
  · rw [hsum]
    exact hspan
  · simp only [number, dayOfEra, dayOfYear]
    omega

/-- January and February are the last months of a year that begins in March. -/
theorem civilYear_eq : x.civilYear
    = if 306 ≤ x.dayOfYear then x.yearOfEra + x.era * 400 + 1 else x.yearOfEra + x.era * 400 := by
  have hmonth : x.month = (5 * x.dayOfYear + 2) / 153 := x.month_eq
  have hle : x.civilMonth ≤ 2 ↔ 306 ≤ x.dayOfYear := by
    have := x.dayOfYear_range
    unfold civilMonth
    split <;> omega
  simp only [civilYear, hle]

/-- The days whose year can be read. -/
theorem civilYear_range (h : -96465292 ≤ x.number ∧ x.number ≤ 95026236) :
    -262143 ≤ x.civilYear ∧ x.civilYear ≤ 262142 := by
  have hsum := x.dayOfEra_eq
  have hin := x.dayOfEra_range
  have hyear := x.yearOfEra_range
  have hday := x.dayOfYear_range
  have hnumber : x.number = x.era * 146097 + x.dayOfEra - 719468 := rfl
  have hera : -656 ≤ x.era ∧ x.era ≤ 655 := by omega
  rw [civilYear_eq]
  constructor
  · -- only in the first and the last era can a year be out of range
    by_cases hfirst : x.era = -656
    · have hlow : 93808 ≤ x.dayOfEra := by omega
      have hlowYear : 257 ≤ x.yearOfEra ∨ x.yearOfEra = 256 ∧ 306 ≤ x.dayOfYear := by omega
      split <;> omega
    · split <;> omega
  · by_cases hlast : x.era = 655
    · have hhigh : x.dayOfEra ≤ 52169 := by omega
      have hhighYear : x.yearOfEra ≤ 141 ∨ x.yearOfEra = 142 ∧ x.dayOfYear < 306 := by omega
      split <;> omega
    · split <;> omega

/-- Days have two digits at most. -/
theorem day_toNat_range : 1 ≤ x.day.toNat ∧ x.day.toNat < 100 := by
  have hpos := x.day_pos
  have hle := x.dayOfYear_le
  have heq := x.month_eq
  omega

end CalendarDay

/-! ## The parts of a text -/

/-- No digit is blank. -/
theorem isBlank_of_isDigit {c : Char} (h : c.isDigit = true) : Text.isBlank c = false := by
  simp only [Char.isDigit, Bool.and_eq_true, decide_eq_true_eq] at h
  have hlow : 48 ≤ c.toNat := UInt32.le_iff_toNat_le.1 h.1
  have hhigh : c.toNat ≤ 57 := UInt32.le_iff_toNat_le.1 h.2
  have hspace : c ≠ ' ' := by
    rintro rfl
    exact absurd hlow (by decide)
  unfold Text.isBlank
  rw [if_pos (by omega)]
  simp [hspace]
  omega

/-- A number with zeros in front. -/
theorem toList_padded (width n : Nat) : (padded width n).toList
    = List.replicate (width - (Nat.toDigits 10 n).length) '0' ++ Nat.toDigits 10 n :=
  String.toList_ofList

theorem isDigit_padded {width n : Nat} : ∀ c ∈ (padded width n).toList, c.isDigit = true := by
  intro c hc
  rw [toList_padded] at hc
  rcases List.mem_append.1 hc with hc | hc
  · rw [List.eq_of_mem_replicate hc]
    rfl
  · exact Text.isDigit_toDigits n c hc

/-- Zeros in front do not change its value. -/
theorem digitsValue_padded (width n : Nat) : Text.digitsValue (padded width n).toList = n := by
  rw [toList_padded]
  exact Text.digitsValue_zeros_toDigits _ n

theorem length_padded {width n : Nat} (h : n < Nat.pow 10 width) (hwidth : 0 < width) :
    (padded width n).toList.length = width := by
  have hlen : (Nat.toDigits 10 n).length ≤ width :=
    (Nat.length_toDigits_le_iff (by decide) hwidth).2 h
  rw [toList_padded, List.length_append, List.length_replicate]
  omega

theorem padded_eq_cons (width n : Nat) :
    ∃ c ds, (padded width n).toList = c :: ds ∧ c.isDigit = true := by
  cases h : (padded width n).toList with
  | nil =>
    rw [toList_padded, List.append_eq_nil_iff] at h
    exact absurd h.2 Nat.toDigits_ne_nil
  | cons c ds => exact ⟨c, ds, rfl, isDigit_padded c (h ▸ List.mem_cons_self)⟩

/-- A window on a text that begins with digits holds them, and the digits end where they end. -/
theorem takeWhile_take_padded {width n count : Nat} {r : List Char} (h : n < Nat.pow 10 width)
    (hwidth : 0 < width) (hle : width ≤ count) (hr : Text.EndsDigits (r.take (count - width))) :
    (((padded width n).toList ++ r).take count).takeWhile Char.isDigit
      = (padded width n).toList := by
  have hlen := length_padded h hwidth
  rw [List.take_append, hlen, List.take_of_length_le (by omega)]
  exact Text.takeWhile_append_of_head isDigit_padded hr

theorem number?_padded {width n : Nat} (h : n < Nat.pow 10 width) (hwidth : 0 < width)
    (r : List Char) :
    number? width ((padded width n).toList ++ r) = some (n, r) := by
  have htake := takeWhile_take_padded (r := r) h hwidth (Nat.le_refl _)
    (by simp [Text.EndsDigits])
  have hvalue := digitsValue_padded width n
  obtain ⟨c, ds, hds, hc⟩ := padded_eq_cons width n
  have htrim : Text.trimStart (c :: ds ++ r) = c :: ds ++ r :=
    Text.dropWhile_eq_self_of_head (isBlank_of_isDigit hc)
  rw [hds] at htake hvalue ⊢
  unfold number?
  simp only [htrim, htake]
  rw [hvalue, List.drop_left]

/-- Two digits are read, if their number is within the bounds. -/
theorem pair?_padded {low high n : Nat} (h : low ≤ n ∧ n ≤ high) (hn : n < 100) (r : List Char) :
    pair? low high ((padded 2 n).toList ++ r) = some (n, r) := by
  unfold pair?
  rw [number?_padded hn (by decide)]
  simp [h]

/-- A mark is read. -/
theorem mark?_cons {c : Char} (h : Text.isBlank c = false) (r : List Char) :
    mark? c (c :: r) = some r := by
  unfold mark? Text.trimStart
  rw [Text.dropWhile_eq_self_of_head h]
  simp

/-- A year in digits alone. -/
theorem year?_digits {c : Char} {s r : List Char} {n : Nat} (hc : c.isDigit = true)
    (h : number? 4 (c :: s) = some (n, r)) (hn : n ≤ 262142) :
    year? (c :: s) = some ((n : Int), r) := by
  have htrim : Text.trimStart (c :: s) = c :: s :=
    Text.dropWhile_eq_self_of_head (isBlank_of_isDigit hc)
  have hplus : c ≠ '+' := by
    rintro rfl
    exact absurd hc (by decide)
  have hminus : c ≠ '-' := by
    rintro rfl
    exact absurd hc (by decide)
  unfold year?
  simp only [htrim]
  split
  · rename_i heq
    simp only [List.cons.injEq] at heq
    exact absurd heq.1 hplus
  · rename_i heq
    simp only [List.cons.injEq] at heq
    exact absurd heq.1 hminus
  · simp [h]
    omega

/-- A year with a sign. -/
theorem year?_sign {y : Int} {ds r : List Char} (hds : ds ≠ []) (hall : ∀ c ∈ ds, c.isDigit = true)
    (hvalue : Text.digitsValue ds = y.natAbs) (h : -262143 ≤ y ∧ y ≤ 262142)
    (hr : Text.EndsDigits r) :
    year? ((if y < 0 then '-' else '+') :: (ds ++ r)) = some (y, r) := by
  have hdigits : (ds ++ r).takeWhile Char.isDigit = ds := Text.takeWhile_append_of_head hall hr
  by_cases hneg : y < 0
  · have hsign : Text.trimStart ('-' :: (ds ++ r)) = '-' :: (ds ++ r) :=
      Text.dropWhile_eq_self_of_head (by decide)
    have hy : -((y.natAbs : Int)) = y := by omega
    rw [if_pos hneg]
    unfold year?
    simp only [hsign, hdigits]
    simp only [hvalue, hy]
    simp [h]
  · have hsign : Text.trimStart ('+' :: (ds ++ r)) = '+' :: (ds ++ r) :=
      Text.dropWhile_eq_self_of_head (by decide)
    have hy : (y.natAbs : Int) = y := by omega
    rw [if_neg hneg]
    unfold year?
    simp only [hsign, hdigits]
    simp only [hvalue, hy]
    simp [h]

/-- A year is read from its text. -/
theorem year?_yearText {y : Int} {r : List Char} (h : -262143 ≤ y ∧ y ≤ 262142)
    (hr : Text.EndsDigits r) : year? ((yearText y).toList ++ r) = some (y, r) := by
  unfold yearText
  split
  · obtain ⟨n, rfl⟩ : ∃ n : Nat, y = n := ⟨y.toNat, by omega⟩
    have hlt : n < Nat.pow 10 4 := by
      show n < 10000
      omega
    have hnumber : number? 4 ((padded 4 n).toList ++ r) = some (n, r) :=
      number?_padded hlt (by decide) r
    obtain ⟨c, ds, hds, hc⟩ := padded_eq_cons 4 n
    rw [hds, List.cons_append] at hnumber
    rw [Int.toNat_natCast, hds]
    exact year?_digits hc hnumber (by omega)
  · obtain ⟨c, ds, hds, -⟩ := padded_eq_cons 4 y.natAbs
    have hsign : (if y < 0 then "-" else "+").toList = [if y < 0 then '-' else '+'] := by
      split <;> rfl
    rw [String.toList_append, hsign]
    refine year?_sign ?_ isDigit_padded (digitsValue_padded 4 y.natAbs) h hr
    rw [hds]
    simp

/-! ## Fraction, zone and the whole -/

theorem endsDigits_zone : Text.EndsDigits ['Z'] := Text.endsDigits_cons (by decide) []

/-- A fraction of some width is read as its nanoseconds. -/
theorem fraction?_padded {width n : Nat} (h : n < Nat.pow 10 width) (hwidth : 0 < width)
    (hle : width ≤ 9) :
    fraction? ('.' :: ((padded width n).toList ++ ['Z']))
      = some (n * Nat.pow 10 (9 - width), ['Z']) := by
  have hlen := length_padded h hwidth
  have hvalue := digitsValue_padded width n
  have htake := takeWhile_take_padded h hwidth hle (r := ['Z'])
    (Text.endsDigits_take endsDigits_zone _)
  obtain ⟨c, ds, hds, -⟩ := padded_eq_cons width n
  rw [hds] at hlen hvalue htake ⊢
  unfold fraction?
  simp only [htake]
  rw [hlen, hvalue, ← hlen, List.drop_left]
  rfl

theorem toList_point (s : String) (r : List Char) :
    ("." ++ s).toList ++ r = '.' :: (s.toList ++ r) := by
  rw [String.toList_append, List.append_assoc]
  rfl

/-- A fraction of a second is read back. -/
theorem fraction?_fractionText {n : Nat} (h : n < 1000000000) :
    fraction? ((fractionText n).toList ++ ['Z']) = some (n, ['Z']) := by
  unfold fractionText
  -- three, six or nine digits are written, whichever are enough
  split
  · rename_i hzero
    rw [hzero]
    rfl
  split
  · have hmillis : n / 1000000 * Nat.pow 10 (9 - 3) = n := by
      show n / 1000000 * 1000000 = n
      omega
    have hpadded : n / 1000000 < Nat.pow 10 3 := by
      show n / 1000000 < 1000
      omega
    rw [toList_point, fraction?_padded hpadded (by decide) (by decide), hmillis]
  split
  · have hmicros : n / 1000 * Nat.pow 10 (9 - 6) = n := by
      show n / 1000 * 1000 = n
      omega
    have hpadded : n / 1000 < Nat.pow 10 6 := by
      show n / 1000 < 1000000
      omega
    rw [toList_point, fraction?_padded hpadded (by decide) (by decide), hmicros]
  · have hnanos : n * Nat.pow 10 (9 - 9) = n := Nat.mul_one n
    rw [toList_point, fraction?_padded h (by decide) (by decide), hnanos]

theorem some_bind {α β : Type} (a : α) (f : α → Option β) : (some a >>= f) = f a := rfl

/-- A date and a time of day are read from their texts.  The second 60 stands for a leap second. -/
theorem parse?_parts (x : CalendarDay) {hour minute second nanos : Nat}
    (hx : -96465292 ≤ x.number ∧ x.number ≤ 95026236) (hhour : hour ≤ 23) (hminute : minute ≤ 59)
    (hsecond : second ≤ 60) (hnanos : nanos < 1000000000) :
    parse? (yearText x.civilYear ++ "-" ++ padded 2 x.civilMonth.toNat ++ "-"
        ++ padded 2 x.day.toNat ++ "T" ++ padded 2 hour ++ ":" ++ padded 2 minute ++ ":"
        ++ padded 2 second ++ fractionText nanos ++ "Z")
      = some
        { seconds := x.number * 86400 + (hour * 3600 + minute * 60
            + if second = 60 then 59 else second)
          nanos := if second = 60 then nanos + 1000000000 else nanos } := by
  have hmonth := x.civilMonth_range
  have hday := x.day_toNat_range
  have hdash : "-".toList = ['-'] := rfl
  have hcolon : ":".toList = [':'] := rfl
  have htee : "T".toList = ['T'] := rfl
  have hzone : "Z".toList = ['Z'] := rfl
  unfold parse?
  simp only [String.toList_append, List.append_assoc, hdash, hcolon, htee, hzone,
    List.cons_append, List.nil_append]
  -- part by part, from the left
  rw [year?_yearText (x.civilYear_range hx) (Text.endsDigits_cons (by decide) _)]
  rw [some_bind, mark?_cons (by decide), some_bind, pair?_padded (by omega) (by omega), some_bind]
  dsimp only
  rw [mark?_cons (by decide), some_bind, pair?_padded ⟨hday.1, x.day_le_daysInMonth⟩ hday.2,
    some_bind]
  simp only [some_bind]
  rw [pair?_padded (by omega) (by omega), some_bind]
  dsimp only
  rw [mark?_cons (by decide), some_bind, pair?_padded (by omega) (by omega), some_bind]
  dsimp only
  rw [mark?_cons (by decide), some_bind, pair?_padded (by omega) (by omega), some_bind]
  dsimp only
  rw [fraction?_fractionText hnanos, some_bind]
  -- the zone is always written as UTC
  have hoffset : offset? (Text.trimStart ['Z']) = some (0, []) := by decide
  have hend : (Text.trimStart []).isEmpty = true := rfl
  simp only [hoffset, some_bind, hend, if_true, Int.sub_zero, x.dayNumber_date]

end SchemaBridge.Moment

namespace SchemaBridge

/-- The moments whose year can be read; a leap second comes at the end of a minute. -/
structure Instant.Fits (i : Instant) : Prop where
  seconds : -8334601228800 ≤ i.seconds ∧ i.seconds ≤ 8210266876799
  nanos : i.nanos < 2000000000
  leap : 1000000000 ≤ i.nanos → i.seconds % 60 = 59

namespace Moment

/-- A moment is read back from its text. -/
theorem parse?_text {i : Instant} (h : i.Fits) : parse? (text i) = some i := by
  obtain ⟨x, hx⟩ := CalendarDay.exists_number (Int.fdiv i.seconds 86400)
  have hfdiv : Int.fdiv i.seconds 86400 = i.seconds / 86400 :=
    Int.fdiv_eq_ediv_of_nonneg _ (by decide)
  have hseconds := h.seconds
  have hnanos := h.nanos
  have hnumber : -96465292 ≤ x.number ∧ x.number ≤ 95026236 := by omega
  unfold text textWithoutZone
  rw [← hx]
  simp only [x.civil_number]
  obtain ⟨time, htime⟩ : ∃ n : Nat, i.seconds - x.number * 86400 = n :=
    ⟨(i.seconds - x.number * 86400).toNat, by omega⟩
  have hday : time < 86400 := by omega
  rw [htime, Int.toNat_natCast]
  -- the second after the last one of a minute is kept in the fraction
  by_cases hleap : 1000000000 ≤ i.nanos
  · have hlast : time % 60 = 59 := by
      have := h.leap hleap
      omega
    rw [if_pos hleap, parse?_parts x hnumber (by omega) (by omega) (by omega) (by omega)]
    simp only [hlast, if_true]
    have hwhole : x.number * 86400 + (((time / 3600 : Nat) : Int) * 3600
        + ((time / 60 % 60 : Nat) : Int) * 60 + ((59 : Nat) : Int)) = i.seconds := by omega
    rw [hwhole, Nat.sub_add_cancel hleap]
  · rw [if_neg hleap, parse?_parts x hnumber (by omega) (by omega) (by omega) (by omega)]
    have hsecond : time % 60 ≠ 60 := by omega
    simp only [hsecond, if_false]
    have hwhole : x.number * 86400 + (((time / 3600 : Nat) : Int) * 3600
        + ((time / 60 % 60 : Nat) : Int) * 60 + ((time % 60 : Nat) : Int)) = i.seconds := by omega
    rw [hwhole]

end Moment

end SchemaBridge
