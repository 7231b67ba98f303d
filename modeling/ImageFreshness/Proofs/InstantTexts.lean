import ImageFreshness.Proofs.CalendarDates
import ImageFreshness.Proofs.PolicyAnnotations
import ImageFreshness.Text.Digits
import ImageFreshness.Time.Rfc3339

/-!
# Reading back an instant

The text of an instant is read as this instant (`Instant.parse?_render`), whatever its year and with
every digit of its fraction.  Numbers are written with a fixed number of digits, which is as many as
are looked for, so it does not matter what stands behind them; only the digits of a year with a sign
and those of a fraction go on as far as they can.
-/

namespace ImageFreshness

/-! ### Numbers with zeros in front -/

namespace Text.Decimal

theorem length_padded {width n : Nat} (hwidth : 0 < width) (h : n < 10 ^ width) :
    (padded width n).length = width := by
  have hlength : (ofNat n).length ≤ width := (Nat.length_toDigits_le_iff (by decide) hwidth).mpr h
  rw [padded, List.length_append, List.length_replicate]
  omega

theorem isDigit_of_mem_padded {width n : Nat} {c : Char} (h : c ∈ padded width n) :
    c.isDigit = true := by
  rw [padded, List.mem_append] at h
  rcases h with h | h
  · rw [List.eq_of_mem_replicate h]
    rfl
  · exact isDigit_of_mem_ofNat h

theorem value_padded (width n : Nat) : value (padded width n) = n := by
  rw [value, padded, Nat.ofDigitChars_append, Nat.ofDigitChars_replicate_zero, Nat.mul_zero]
  exact Nat.ofDigitChars_ten_toDigits

theorem padded_ne_nil (width n : Nat) : padded width n ≠ [] := by
  rw [padded]
  exact List.append_ne_nil_of_right_ne_nil _ (ofNat_ne_nil n)

end Text.Decimal

open Text Decimal

/-! ### Years -/

namespace Date

theorem yearStart_mono {a b : Int} (h : a ≤ b) : yearStart a ≤ yearStart b := by
  simp only [yearStart]
  omega

/-- The days from the start of one year to the end of another lie in these years and those between
    them. -/
theorem yearOf_bounds {n a b : Int} (ha : yearStart a ≤ n) (hb : n < yearStart (b + 1)) :
    a ≤ yearOf n ∧ yearOf n ≤ b := by
  obtain ⟨hlower, hupper⟩ := yearStart_yearOf n
  constructor
  · by_contra hlt
    have hstart := yearStart_mono (by omega : yearOf n + 1 ≤ a)
    omega
  · by_contra hgt
    have hstart := yearStart_mono (by omega : b + 1 ≤ yearOf n)
    omega

theorem monthLengths_le (year : Int) : ∀ length ∈ monthLengths year, length ≤ 31 := by
  by_cases hleap : isLeap year = true
  · simp [monthLengths, hleap]
  · simp [monthLengths, hleap]

theorem IsValid.day_le {d : Date} (h : d.IsValid) : d.day ≤ 31 := by
  obtain ⟨-, hmonth, -, hday⟩ := h
  have hindex : d.month - 1 < (monthLengths d.year).length := by
    change _ < 12
    omega
  rw [List.getD_eq_getElem?_getD, List.getElem?_eq_getElem hindex, Option.getD_some] at hday
  exact Nat.le_trans hday (monthLengths_le _ _ (List.getElem_mem hindex))

end Date

namespace Instant

/-- The instants from the start of the first year to the end of the last one, without those in an
    inserted second. -/
structure IsRepresentable (t : Instant) : Prop where
  first : Date.yearStart minYear * 86400 ≤ t.seconds
  last : t.seconds < Date.yearStart (maxYear + 1) * 86400
  nanos : t.nanos < nanosPerSecond

theorem IsRepresentable.yearInRange {t : Instant} (h : t.IsRepresentable) :
    yearInRange (Date.yearOf (t.seconds / 86400)) = true := by
  have hfirst := h.first
  have hlast := h.last
  have hbounds := Date.yearOf_bounds (a := minYear) (b := maxYear) (n := t.seconds / 86400)
    (by omega) (by omega)
  simp [Instant.yearInRange, hbounds]

/-! ### Parts of a text -/

section Scans

variable {cs rest : List Char}

theorem skipBlanks_cons {c : Char} (hc : isBlank c = false) (rest : List Char) :
    skipBlanks (c :: rest) = c :: rest :=
  List.dropWhile_cons_of_neg (by simp [hc])

theorem skipBlanks_append_of_digits (hne : cs ≠ []) (hdigits : ∀ c ∈ cs, c.isDigit = true)
    (rest : List Char) : skipBlanks (cs ++ rest) = cs ++ rest := by
  obtain ⟨c, cs, rfl⟩ := List.exists_cons_of_ne_nil hne
  exact skipBlanks_cons (isBlank_of_isDigit (hdigits c List.mem_cons_self)) _

theorem scanSeparator_cons {c : Char} (hc : isBlank c = false) (rest : List Char) :
    scanSeparator c (c :: rest) = some ((), rest) := by
  simp [scanSeparator, skipBlanks_cons hc]

/-- A number with as many digits as are looked for is read, whatever stands behind it. -/
theorem scanNumber_padded {width n : Nat} (hwidth : 0 < width) (h : n < 10 ^ width)
    (rest : List Char) : scanNumber width (padded width n ++ rest) = some (n, rest) := by
  have hdigits : ∀ c ∈ padded width n, c.isDigit = true := fun _ hc => isDigit_of_mem_padded hc
  have hlength := length_padded hwidth h
  have htake : ((padded width n ++ rest).takeWhile Char.isDigit).take width = padded width n := by
    rw [List.takeWhile_append_of_pos hdigits, List.take_left' hlength]
  simp only [scanNumber, skipBlanks_append_of_digits (padded_ne_nil width n) hdigits, htake]
  split
  · next hnil => exact absurd hnil (padded_ne_nil width n)
  · rw [value_padded, List.drop_left]

theorem scanField_padded {least most n : Nat} (hleast : least ≤ n) (hmost : n ≤ most)
    (h : most < 100) (rest : List Char) :
    scanField least most (padded 2 n ++ rest) = some (n, rest) := by
  have hscan := scanNumber_padded (by decide : 0 < 2) (by omega : n < 10 ^ 2) rest
  simp [scanField, hscan, hleast, hmost]

/-- The digits of a run end where the run does. -/
theorem takeWhile_padded_append (width n : Nat) (hrest : Stops rest) :
    (padded width n ++ rest).takeWhile Char.isDigit = padded width n :=
  takeWhile_digits_append (fun _ hc => isDigit_of_mem_padded hc) hrest

theorem dropWhile_padded_append (width n : Nat) (hrest : Stops rest) :
    (padded width n ++ rest).dropWhile Char.isDigit = rest :=
  dropWhile_digits_append (fun _ hc => isDigit_of_mem_padded hc) hrest

theorem scanYear_signed (sign : Int → Int) (n : Nat) (hrest : Stops rest) :
    scanYear.signed (padded 4 n ++ rest) sign = some (sign n, rest) := by
  unfold scanYear.signed
  rw [takeWhile_padded_append 4 n hrest, dropWhile_padded_append 4 n hrest]
  split
  · next hnil => exact absurd hnil (padded_ne_nil 4 n)
  · rw [value_padded]

theorem scanYear_yearText (year : Int) (hrest : Stops rest) :
    scanYear (yearText year ++ rest) = some (year, rest) := by
  unfold yearText
  split
  · next hfour =>
    have hdigits : ∀ c ∈ padded 4 year.toNat, c.isDigit = true :=
      fun _ hc => isDigit_of_mem_padded hc
    have hscan := scanNumber_padded (by decide : 0 < 4) (by omega : year.toNat < 10 ^ 4) rest
    have hfirst : ∀ c more, padded 4 year.toNat ++ rest = c :: more → c.isDigit = true := by
      intro c more hcons
      obtain ⟨d, ds, hpadded⟩ := List.exists_cons_of_ne_nil (padded_ne_nil 4 year.toNat)
      rw [hpadded, List.cons_append, List.cons.injEq] at hcons
      exact hcons.1 ▸ hdigits d (hpadded ▸ List.mem_cons_self)
    unfold scanYear
    rw [skipBlanks_append_of_digits (padded_ne_nil 4 _) hdigits]
    split
    · next more hcons => cases hfirst _ _ hcons
    · next more hcons => cases hfirst _ _ hcons
    · simp [hscan, Int.toNat_of_nonneg hfour.1]
  · next hsigned =>
    by_cases hnegative : year < 0
    · rw [if_pos hnegative, List.cons_append, scanYear, skipBlanks_cons rfl]
      simp only [scanYear_signed _ _ hrest]
      rw [Int.ofNat_natAbs_of_nonpos (Int.le_of_lt hnegative), Int.neg_neg]
    · rw [if_neg hnegative, List.cons_append, scanYear, skipBlanks_cons rfl]
      simp only [scanYear_signed _ _ hrest]
      rw [Int.natAbs_of_nonneg (Int.not_lt.mp hnegative), id]

theorem scanDate_dateText {d : Date} (hvalid : d.IsValid) (hyear : yearInRange d.year = true)
    (rest : List Char) : scanDate (dateText d ++ rest) = some (d, rest) := by
  have hparts : d.IsValid := hvalid
  obtain ⟨hfirst, hlast, hday, -⟩ := hparts
  have hstops (more : List Char) : Stops ('-' :: more) := stops_cons rfl more
  have hhyphen (more : List Char) : scanSeparator '-' ('-' :: more) = some ((), more) :=
    scanSeparator_cons rfl more
  simp only [scanDate, dateText, List.append_assoc, List.cons_append, Option.bind_eq_bind,
    scanYear_yearText d.year (hstops _), hhyphen, scanField_padded hfirst hlast (by decide),
    scanField_padded hday hvalid.day_le (by decide), Option.bind_some]
  rw [if_pos ⟨hvalid, hyear⟩]

/-- The digits of a fraction count for their places. -/
theorem scanFraction_padded {width n : Nat} (hwidth : 0 < width) (h : n < 10 ^ width)
    (hnine : width ≤ 9) (hrest : Stops rest) :
    scanFraction ('.' :: (padded width n ++ rest)) = some (n * 10 ^ (9 - width), rest) := by
  have hlength := length_padded hwidth h
  have hcounted : (padded width n).take 9 = padded width n :=
    List.take_of_length_le (by omega)
  simp only [scanFraction]
  rw [takeWhile_padded_append width n hrest, dropWhile_padded_append width n hrest]
  split
  · next hnil => exact absurd hnil (padded_ne_nil width n)
  · rw [hcounted, value_padded, hlength]
    rfl

theorem scanFraction_fractionText {nanos : Nat} (h : nanos < nanosPerSecond)
    (hrest : Stops rest) (hpoint : ∀ more, rest ≠ '.' :: more) :
    scanFraction (fractionText nanos ++ rest) = some (nanos, rest) := by
  have hbound : nanos < 1000000000 := h
  unfold fractionText
  split
  · next hzero =>
    rw [hzero, List.nil_append, scanFraction]
    exact hpoint
  split
  · next hmillis =>
    rw [List.cons_append, scanFraction_padded (by decide) (by omega) (by decide) hrest]
    have hvalue : nanos / 1000000 * 10 ^ (9 - 3) = nanos := by omega
    rw [hvalue]
  split
  · next hmicros =>
    rw [List.cons_append, scanFraction_padded (by decide) (by omega) (by decide) hrest]
    have hvalue : nanos / 1000 * 10 ^ (9 - 6) = nanos := by omega
    rw [hvalue]
  · rw [List.cons_append, scanFraction_padded (by decide) (by omega) (by decide) hrest]
    have hvalue : nanos * 10 ^ (9 - 9) = nanos := by omega
    rw [hvalue]

/-- A time of day outside of inserted seconds. -/
theorem scanTime_append {second nanos : Nat} (hsecond : second < 86400)
    (hnanos : nanos < nanosPerSecond) (hrest : Stops rest)
    (hpoint : ∀ more, rest ≠ '.' :: more) :
    scanTime (padded 2 (second / 3600) ++ ':' :: (padded 2 (second / 60 % 60) ++
      ':' :: (padded 2 (second % 60) ++ (fractionText nanos ++ rest)))) =
      some ((second, nanos), rest) := by
  have hhour : second / 3600 ≤ 23 := by omega
  have hminute : second / 60 % 60 ≤ 59 := by omega
  have hlast : second % 60 ≤ 60 := by omega
  have hcolon (more : List Char) : scanSeparator ':' (':' :: more) = some ((), more) :=
    scanSeparator_cons rfl more
  simp only [scanTime, Option.bind_eq_bind, Option.bind_some, hcolon,
    scanField_padded (Nat.zero_le _) hhour (by decide),
    scanField_padded (Nat.zero_le _) hminute (by decide),
    scanField_padded (Nat.zero_le _) hlast (by decide),
    scanFraction_fractionText hnanos hrest hpoint]
  have hwhole : (second / 3600 * 60 + second / 60 % 60) * 60 + second % 60 = second := by omega
  rw [if_neg (by omega), hwhole]

end Scans

/-! ### The whole text -/

theorem render_eq {t : Instant} (h : t.nanos < nanosPerSecond) :
    t.render = dateText (Date.ofDayNumber t.dayAndSecond.1) ++ 'T' ::
      (padded 2 (t.dayAndSecond.2 / 3600) ++ ':' :: (padded 2 (t.dayAndSecond.2 / 60 % 60) ++
        ':' :: (padded 2 (t.dayAndSecond.2 % 60) ++ (fractionText t.nanos ++ ['Z'])))) := by
  simp only [render, Nat.div_eq_of_lt h, Nat.mod_eq_of_lt h, Nat.add_zero, List.append_assoc,
    List.cons_append]

theorem parse?_render {t : Instant} (h : t.IsRepresentable) : parse? t.render = some t := by
  have hdate (more : List Char) :
      scanDate (dateText (Date.ofDayNumber t.dayAndSecond.1) ++ more) =
        some (Date.ofDayNumber t.dayAndSecond.1, more) :=
    scanDate_dateText (Date.ofDayNumber_isValid _) h.yearInRange more
  have hday : (Date.ofDayNumber t.dayAndSecond.1).dayNumber = t.seconds / 86400 :=
    Date.dayNumber_ofDayNumber _
  have hsecond : t.dayAndSecond.2 < 86400 := by
    simp only [dayAndSecond]
    omega
  have hseconds : t.seconds / 86400 * 86400 + (t.dayAndSecond.2 : Int) - 0 = t.seconds := by
    simp only [dayAndSecond]
    omega
  have hmiddle (more : List Char) : scanMiddle ('T' :: more) = some ((), more) := rfl
  have hoffset : scanOffset ['Z'] = some (0, []) := rfl
  have htime := scanTime_append hsecond h.nanos (stops_cons (by rfl : 'Z'.isDigit = false) [])
    (by simp)
  simp only [parse?, render_eq h.nanos, Option.bind_eq_bind, Option.bind_some,
    hdate, hmiddle, htime, hoffset, hday, hseconds]
  rw [if_pos ⟨rfl, h.yearInRange⟩]

end Instant

end ImageFreshness
