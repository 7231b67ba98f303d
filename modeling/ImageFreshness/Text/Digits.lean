import ImageFreshness.Text.Decimal
import Mathlib.Algebra.Group.Nat.Defs

/-!
# Runs of digits

Where a run of digits ends (`Stops`), and what the number is that it denotes.
-/

namespace ImageFreshness.Text

structure IsDigits (cs : List Char) : Prop where
  nonempty : cs ≠ []
  digit : ∀ c ∈ cs, c.isDigit = true

theorem IsDigits.singleton {d : Char} (hd : d.isDigit = true) : IsDigits [d] :=
  ⟨List.cons_ne_nil _ _, List.forall_mem_singleton.mpr hd⟩

/-- A text that does not go on with a digit. -/
def Stops (cs : List Char) : Prop := ∀ c ∈ cs.head?, c.isDigit = false

theorem stops_cons {c : Char} (h : c.isDigit = false) (cs : List Char) : Stops (c :: cs) := by
  intro d hd
  simp only [List.head?_cons, Option.mem_some_iff] at hd
  exact hd ▸ h

theorem takeWhile_of_stops {cs : List Char} (h : Stops cs) : cs.takeWhile Char.isDigit = [] := by
  cases cs with
  | nil => rfl
  | cons c cs => simp [h c rfl]

theorem dropWhile_append {p : Char → Bool} {before cs : List Char}
    (hbefore : ∀ c ∈ before, p c = true) (hfirst : ∀ c, cs.head? = some c → p c = false) :
    (before ++ cs).dropWhile p = cs := by
  rw [List.dropWhile_append_of_pos hbefore]
  cases cs with
  | nil => rfl
  | cons c rest => rw [List.dropWhile_cons_of_neg (by simp [hfirst c rfl])]

theorem takeWhile_digits_append {digits rest : List Char} (hdigits : ∀ c ∈ digits, c.isDigit = true)
    (hrest : Stops rest) : (digits ++ rest).takeWhile Char.isDigit = digits := by
  rw [List.takeWhile_append_of_pos hdigits, takeWhile_of_stops hrest, List.append_nil]

theorem dropWhile_digits_append {digits rest : List Char} (hdigits : ∀ c ∈ digits, c.isDigit = true)
    (hrest : Stops rest) : (digits ++ rest).dropWhile Char.isDigit = rest :=
  dropWhile_append hdigits hrest

namespace Decimal

/-! ### Numbers that are written out -/

theorem ofNat_ne_nil (n : Nat) : ofNat n ≠ [] := Nat.toDigits_ne_nil

theorem isDigit_of_mem_ofNat {n : Nat} {c : Char} (h : c ∈ ofNat n) : c.isDigit = true :=
  Nat.isDigit_of_mem_toDigits (by decide) (by decide) h

theorem isDigits_ofNat (n : Nat) : IsDigits (ofNat n) :=
  ⟨ofNat_ne_nil n, fun _ => isDigit_of_mem_ofNat⟩

theorem value_ofNat (n : Nat) : value (ofNat n) = n := Nat.ofDigitChars_ten_toDigits

theorem ofNat_injective : Function.Injective ofNat := by
  intro n m h
  rw [← value_ofNat n, h, value_ofNat]

/-- Where the digits end, a number is told from any other one. -/
theorem ofNat_append_inj {n m : Nat} {s t : List Char} (hs : Stops s) (ht : Stops t)
    (h : ofNat n ++ s = ofNat m ++ t) : n = m ∧ s = t := by
  have hdigits : ofNat n = ofNat m := by
    rw [← takeWhile_digits_append (isDigits_ofNat n).digit hs, h,
      takeWhile_digits_append (isDigits_ofNat m).digit ht]
  rw [hdigits] at h
  exact ⟨ofNat_injective hdigits, List.append_cancel_left h⟩

/-! ### Numbers that digits denote -/

theorem value_cons (c : Char) (cs : List Char) :
    value (c :: cs) = 10 ^ cs.length * (c.toNat - '0'.toNat) + value cs := by
  rw [value, Nat.ofDigitChars_cons, Nat.ofDigitChars_eq_ofDigitChars_zero, Nat.mul_zero,
    Nat.zero_add, value]

theorem toNat_of_isDigit {c : Char} (h : c.isDigit = true) :
    '0'.toNat ≤ c.toNat ∧ c.toNat < '0'.toNat + 10 := by
  simp only [Char.isDigit, Bool.and_eq_true, decide_eq_true_eq] at h
  have hlower : '0'.toNat ≤ c.toNat := h.1
  have hupper : c.toNat ≤ '9'.toNat := h.2
  exact ⟨hlower, Nat.lt_succ_of_le hupper⟩

theorem value_lt {cs : List Char} (h : ∀ c ∈ cs, c.isDigit = true) :
    value cs < 10 ^ cs.length := by
  induction cs with
  | nil => decide
  | cons c cs ih =>
    obtain ⟨hc, hcs⟩ := List.forall_mem_cons.mp h
    have hdigit : c.toNat - '0'.toNat + 1 ≤ 10 := by
      have hbounds := toNat_of_isDigit hc
      omega
    calc
      value (c :: cs) = 10 ^ cs.length * (c.toNat - '0'.toNat) + value cs := value_cons c cs
      _ < 10 ^ cs.length * (c.toNat - '0'.toNat) + 10 ^ cs.length := Nat.add_lt_add_left (ih hcs) _
      _ = 10 ^ cs.length * (c.toNat - '0'.toNat + 1) := (Nat.mul_succ _ _).symm
      _ ≤ 10 ^ cs.length * 10 := Nat.mul_le_mul_left _ hdigit
      _ = 10 ^ (c :: cs).length := by rw [List.length_cons, Nat.pow_succ]

theorem value_dropWhile_zero (cs : List Char) : value (cs.dropWhile (· = '0')) = value cs := by
  induction cs with
  | nil => rfl
  | cons c cs ih =>
    by_cases hc : c = '0'
    · rw [List.dropWhile_cons_of_pos (by simpa using hc), ih, value_cons, hc, Nat.sub_self,
        Nat.mul_zero, Nat.zero_add]
    · rw [List.dropWhile_cons_of_neg (by simpa using hc)]

/-- A number without leading zeros has no fewer digits than any smaller one. -/
theorem pow_le_value {c : Char} {cs : List Char} (hc : c.isDigit = true) (hne : c ≠ '0') :
    10 ^ cs.length ≤ value (c :: cs) := by
  have hpositive : 1 ≤ c.toNat - '0'.toNat := by
    have hbounds := toNat_of_isDigit hc
    have hdiffers : c.toNat ≠ '0'.toNat := fun h => hne (Char.toNat_inj.mp h)
    omega
  calc
    10 ^ cs.length = 10 ^ cs.length * 1 := (Nat.mul_one _).symm
    _ ≤ 10 ^ cs.length * (c.toNat - '0'.toNat) := Nat.mul_le_mul_left _ hpositive
    _ ≤ value (c :: cs) := by
      rw [value_cons]
      exact Nat.le_add_right _ _

/-- Of two runs of one length, the one with the larger first digit denotes the larger number. -/
theorem value_lt_of_lt {c d : Char} {cs ds : List Char} (hc : c.isDigit = true)
    (hcs : ∀ c ∈ cs, c.isDigit = true) (hlength : cs.length = ds.length)
    (hlt : c.toNat < d.toNat) : value (c :: cs) < value (d :: ds) := by
  have hdigit : c.toNat - '0'.toNat + 1 ≤ d.toNat - '0'.toNat := by
    have hbounds := toNat_of_isDigit hc
    omega
  calc
    value (c :: cs) = 10 ^ cs.length * (c.toNat - '0'.toNat) + value cs := value_cons c cs
    _ < 10 ^ cs.length * (c.toNat - '0'.toNat) + 10 ^ cs.length :=
      Nat.add_lt_add_left (value_lt hcs) _
    _ = 10 ^ cs.length * (c.toNat - '0'.toNat + 1) := (Nat.mul_succ _ _).symm
    _ ≤ 10 ^ ds.length * (d.toNat - '0'.toNat) := by
      rw [hlength]
      exact Nat.mul_le_mul_left _ hdigit
    _ ≤ value (d :: ds) := by
      rw [value_cons]
      exact Nat.le_add_right _ _

end Decimal

end ImageFreshness.Text
