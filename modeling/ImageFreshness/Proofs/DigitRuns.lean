import ImageFreshness.Proofs.VersionTies
import Mathlib.Algebra.BigOperators.Fin

/-!
# Runs of digits

The metadata of a version may hold runs of digits of any length, with any leading zeros.  No number
is ever read from them, and yet they are in the order of the numbers that they denote, each digit
counting by its place (`Word.compareDigits_iff_placeValue`).  So of two versions that agree up to
such a run, the one with the smaller number in that place comes first
(`TagVersion.parse_lessThan_iff_of_number`).
-/

namespace ImageFreshness

open Std Text

namespace Text.Decimal

/-- The number that digits denote by their places: the last one counts ones, the one before it
    tens, and so on. -/
def placeValue (digits : List Char) : Nat :=
  ∑ i : Fin digits.length, (digits[i].toNat - '0'.toNat) * 10 ^ (digits.length - 1 - i)

theorem placeValue_cons (c : Char) (cs : List Char) :
    placeValue (c :: cs) = (c.toNat - '0'.toNat) * 10 ^ cs.length + placeValue cs := by
  -- a digit more in front moves the others on in the list, but not to other places
  have hplace (i : Fin cs.length) : cs.length - i.succ = cs.length - 1 - i := by
    rw [Fin.val_succ]
    omega
  calc
    placeValue (c :: cs) =
        ∑ i : Fin (cs.length + 1), ((c :: cs)[i].toNat - '0'.toNat) * 10 ^ (cs.length - i) := rfl
    _ = (c.toNat - '0'.toNat) * 10 ^ cs.length +
        ∑ i : Fin cs.length, (cs[i].toNat - '0'.toNat) * 10 ^ (cs.length - i.succ) :=
      Fin.sum_univ_succ _
    _ = (c.toNat - '0'.toNat) * 10 ^ cs.length + placeValue cs := by
      simp only [hplace, placeValue]

/-- Reading digits from the left gives the number that they denote by their places. -/
theorem value_eq_placeValue (digits : List Char) : value digits = placeValue digits := by
  induction digits with
  | nil => rfl
  | cons c cs ih => rw [value_cons, placeValue_cons, ih, Nat.mul_comm]

end Text.Decimal

namespace Word

open Decimal

/-- Two runs of digits, of any length and with any leading zeros, are in the order of the numbers
    that they denote. -/
theorem compareDigits_iff_placeValue {a b : List Char} (ha : ∀ c ∈ a, c.isDigit = true)
    (hb : ∀ c ∈ b, c.isDigit = true) :
    (compareDigits a b = .lt ↔ placeValue a < placeValue b) ∧
    (compareDigits a b = .eq ↔ placeValue a = placeValue b) ∧
    (compareDigits a b = .gt ↔ placeValue b < placeValue a) := by
  rw [compareDigits_eq_compare ha hb, value_eq_placeValue, value_eq_placeValue]
  constructor
  · exact Nat.compare_eq_lt
  · constructor
    · exact Nat.compare_eq_eq
    · exact Nat.compare_eq_gt

/-- A build number of thirty digits. -/
def longRun : List Char := "123456789012345678901234567890".toList

/-- The next build number, with zeros in front. -/
def paddedRun : List Char := "000123456789012345678901234567891".toList

/-- Neither the zeros nor the length hide the last digit, and zeros alone are the number zero. -/
theorem compareDigits_iff_placeValue_longRun :
    (∀ c ∈ longRun, c.isDigit = true) ∧ (∀ c ∈ paddedRun, c.isDigit = true) ∧
    placeValue longRun < placeValue paddedRun ∧ compareDigits longRun paddedRun = .lt ∧
    compareDigits paddedRun longRun = .gt ∧ compareDigits ['0', '0'] [] = .eq := by
  have hlong : ∀ c ∈ longRun, c.isDigit = true := List.all_eq_true.mp (by decide)
  have hpadded : ∀ c ∈ paddedRun, c.isDigit = true := List.all_eq_true.mp (by decide)
  have hzeros : ∀ c ∈ ['0', '0'], c.isDigit = true := List.all_eq_true.mp (by decide)
  have hless : placeValue longRun < placeValue paddedRun := by decide
  refine ⟨hlong, hpadded, hless, ?_, ?_, ?_⟩
  · exact (compareDigits_iff_placeValue hlong hpadded).1.mpr hless
  · exact (compareDigits_iff_placeValue hpadded hlong).2.2.mpr hless
  · exact (compareDigits_iff_placeValue hzeros (List.forall_mem_nil _)).2.1.mpr (by decide)

/-- What two lists of words have in common in front does not count. -/
theorem compareLists_append (common as bs : List Word) :
    compareLists (common ++ as) (common ++ bs) = compareLists as bs := by
  induction common with
  | nil => rfl
  | cons w common ih =>
    have hsame : compare w w = .eq := ReflCmp.compare_self
    rw [List.cons_append, List.cons_append, compareLists, hsame, Ordering.eq_then, ih]

end Word

namespace TagVersion

open Decimal

/-! ### Numbers in metadata -/

theorem digits_of_words {v : TagVersion} {common rest : List Word} {digits : List Char}
    (h : v.words = common ++ .number digits :: rest) : ∀ c ∈ digits, c.isDigit = true := by
  have hrun : (Word.number digits).IsRun := isRun_of_mem_words v _ (by simp [h])
  exact hrun.digit

theorem compareParts_of_number {a b : TagVersion} {common as bs : List Word} {x y : List Char}
    (hnumbers : a.numbers = b.numbers) (ha : a.words = common ++ .number x :: as)
    (hb : b.words = common ++ .number y :: bs) :
    compareParts a b =
      (Ord.compare (placeValue x) (placeValue y)).then (Word.compareLists as bs) := by
  have hruns : Word.compare (.number x) (.number y) =
      Ord.compare (placeValue x) (placeValue y) := by
    rw [← value_eq_placeValue, ← value_eq_placeValue]
    exact Word.compareDigits_eq_compare (digits_of_words ha) (digits_of_words hb)
  rw [compareParts, (compareNumbers_eq_eq_iff a b).mpr hnumbers, Ordering.eq_then, ha, hb,
    Word.compareLists_append, Word.compareLists, hruns]

theorem hasMetadata_of_words {v : TagVersion} (h : v.words ≠ []) : v.hasMetadata = true := by
  rw [← Bool.not_eq_false]
  intro hplain
  exact h (words_of_not_hasMetadata hplain)

theorem tag_ne_empty_of_words {tag : String} (h : (parse tag).words ≠ []) :
    (parse tag).tag ≠ "" := by
  rw [parse_tag]
  rintro rfl
  exact h (words_of_not_hasMetadata hasMetadata_parse_empty)

/-- Of two tags with the same numbers and the same words up to a number in their metadata, the one
    with the smaller number there comes first.  What follows counts only if the numbers are the
    same. -/
theorem parse_lessThan_iff_of_number {a b : String} {common as bs : List Word} {x y : List Char}
    (hnumbers : (parse a).numbers = (parse b).numbers)
    (ha : (parse a).words = common ++ .number x :: as)
    (hb : (parse b).words = common ++ .number y :: bs) :
    (parse a).lessThan (parse b) = true ↔
      placeValue x < placeValue y ∨
      (placeValue x = placeValue y ∧ Word.listLess as bs = true) := by
  have hawords : (parse a).words ≠ [] := by simp [ha]
  have hbwords : (parse b).words ≠ [] := by simp [hb]
  rw [lessThan_iff_compareParts (tag_ne_empty_of_words hawords) (tag_ne_empty_of_words hbwords)
      (fun _ => hasMetadata_of_words hawords),
    compareParts_of_number hnumbers ha hb, Ordering.then_eq_lt, Nat.compare_eq_lt,
    Nat.compare_eq_eq, Word.listLess_iff]

example : (parse "1.0.0-build.123456789012345678901234567890").lessThan
    (parse "1.0.0-build.123456789012345678901234567891") = true := by decide

end TagVersion

end ImageFreshness
