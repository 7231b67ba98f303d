import ImageFreshness.Proofs.VersionOrder
import ImageFreshness.Text.Digits
import Mathlib.Data.List.Forall2

/-!
# Words by value

Runs of digits are compared as texts, but what counts is the number that they denote: without
leading zeros the longer run is the larger number, and of two runs of one length the first digit
that differs decides (`Word.compareDigits_eq_compare`).  So two words are equally late exactly if
they are the same text, or digits that denote the same number (`Word.compare_eq_iff`).
-/

namespace ImageFreshness

open Text

namespace Word

open Decimal

/-! ### Digits -/

/-- Of two runs of one length, the first digit that differs decides. -/
theorem compareText_eq_compare {a b : List Char} (ha : ∀ c ∈ a, c.isDigit = true)
    (hb : ∀ c ∈ b, c.isDigit = true) (hlength : a.length = b.length) :
    compareText a b = Ord.compare (value a) (value b) := by
  induction a generalizing b with
  | nil =>
    obtain rfl := List.length_eq_zero_iff.mp hlength.symm
    rfl
  | cons c as ih =>
    cases b with
    | nil => cases hlength
    | cons d bs =>
      obtain ⟨hc, has⟩ := List.forall_mem_cons.mp ha
      obtain ⟨hd, hbs⟩ := List.forall_mem_cons.mp hb
      have hrest : as.length = bs.length := Nat.succ.inj hlength
      rw [compareText]
      rcases Nat.lt_trichotomy c.toNat d.toNat with hlt | heq | hgt
      · rw [Nat.compare_eq_lt.mpr hlt, Nat.compare_eq_lt.mpr (value_lt_of_lt hc has hrest hlt)]
        rfl
      · rw [Nat.compare_eq_eq.mpr heq, Ordering.eq_then, ih has hbs hrest, value_cons, value_cons,
          heq, hrest, Nat.compare_eq_ite_lt, Nat.compare_eq_ite_lt]
        simp only [Nat.add_lt_add_iff_left]
      · rw [Nat.compare_eq_gt.mpr hgt,
          Nat.compare_eq_gt.mpr (value_lt_of_lt hd hbs hrest.symm hgt)]
        rfl

theorem isDigit_of_mem_significant {digits : List Char} (h : ∀ c ∈ digits, c.isDigit = true) :
    ∀ c ∈ significant digits, c.isDigit = true :=
  fun c hc => h c (List.dropWhile_subset _ hc)

theorem value_significant (digits : List Char) : value (significant digits) = value digits :=
  value_dropWhile_zero digits

/-- Without leading zeros a longer run denotes a larger number. -/
theorem value_lt_of_length_lt {a b : List Char} (ha : ∀ c ∈ a, c.isDigit = true)
    (hb : ∀ c ∈ b, c.isDigit = true)
    (hlength : (significant a).length < (significant b).length) : value a < value b := by
  cases hsignificant : significant b with
  | nil => simp [hsignificant] at hlength
  | cons d ds =>
    rw [hsignificant, List.length_cons] at hlength
    have hd : d.isDigit = true :=
      isDigit_of_mem_significant hb d (hsignificant ▸ List.mem_cons_self)
    have hne : d ≠ '0' := by
      have hhead := List.head?_dropWhile_not (fun c => decide (c = '0')) b
      rw [show b.dropWhile (fun c => decide (c = '0')) = d :: ds from hsignificant] at hhead
      simpa using hhead
    calc
      value a = value (significant a) := (value_significant a).symm
      _ < 10 ^ (significant a).length := value_lt (isDigit_of_mem_significant ha)
      _ ≤ 10 ^ ds.length := Nat.pow_le_pow_right (by decide) (Nat.le_of_lt_succ hlength)
      _ ≤ value (d :: ds) := pow_le_value hd hne
      _ = value b := by rw [← hsignificant, value_significant]

/-- Runs of digits are compared by the numbers that they denote. -/
theorem compareDigits_eq_compare {a b : List Char} (ha : ∀ c ∈ a, c.isDigit = true)
    (hb : ∀ c ∈ b, c.isDigit = true) :
    compareDigits a b = Ord.compare (value a) (value b) := by
  rw [compareDigits_eq, compareLex, compareOn]
  rcases Nat.lt_trichotomy (significant a).length (significant b).length with hlt | heq | hgt
  · rw [Nat.compare_eq_lt.mpr hlt, Nat.compare_eq_lt.mpr (value_lt_of_length_lt ha hb hlt)]
    rfl
  · rw [Nat.compare_eq_eq.mpr heq, Ordering.eq_then,
      compareText_eq_compare (isDigit_of_mem_significant ha) (isDigit_of_mem_significant hb) heq,
      value_significant, value_significant]
  · rw [Nat.compare_eq_gt.mpr hgt, Nat.compare_eq_gt.mpr (value_lt_of_length_lt hb ha hgt)]
    rfl

theorem compareText_eq_iff {a b : List Char} : compareText a b = .eq ↔ a = b := by
  induction a generalizing b with
  | nil => cases b <;> simp [compareText]
  | cons c as ih =>
    cases b with
    | nil => simp [compareText]
    | cons d bs =>
      rw [compareText, Ordering.then_eq_eq, Nat.compare_eq_eq, Char.toNat_inj, ih,
        List.cons.injEq]

/-! ### Words -/

/-- A word is a run of digits, or of other characters. -/
def IsRun : Word → Prop
  | .number digits => IsDigits digits
  | .text chars => chars ≠ [] ∧ ∀ c ∈ chars, c.isDigit = false

/-- Two texts that are the same, or digits that denote the same number. -/
inductive SameValue : Word → Word → Prop where
  | text (chars : List Char) : SameValue (.text chars) (.text chars)
  | number {a b : List Char} : value a = value b → SameValue (.number a) (.number b)

theorem compare_eq_iff {a b : Word} (ha : a.IsRun) (hb : b.IsRun) :
    compare a b = .eq ↔ SameValue a b := by
  cases a with
  | number a =>
    cases b with
    | number b =>
      rw [compare, compareDigits_eq_compare ha.digit hb.digit, Nat.compare_eq_eq]
      exact ⟨.number, fun h => by cases h; assumption⟩
    | text b => exact ⟨nofun, nofun⟩
  | text a =>
    cases b with
    | number b => exact ⟨nofun, nofun⟩
    | text b =>
      rw [compare, compareText_eq_iff]
      exact ⟨fun h => h ▸ .text a, fun h => by cases h; rfl⟩

theorem split_ne_nil {cs : List Char} (h : cs ≠ []) : split cs ≠ [] := by
  obtain ⟨c, cs, rfl⟩ := List.exists_cons_of_ne_nil h
  unfold Word.split
  split
  all_goals exact List.cons_ne_nil _ _

/-- A text is split into runs. -/
theorem isRun_of_mem_split (cs : List Char) : ∀ w ∈ split cs, w.IsRun := by
  induction cs with
  | nil => exact List.forall_mem_nil _
  | cons c cs ih =>
    have hone {w : Word} {rest : List Word} (hw : w.IsRun) (hrest : ∀ v ∈ rest, v.IsRun) :
        ∀ v ∈ w :: rest, v.IsRun := List.forall_mem_cons.mpr ⟨hw, hrest⟩
    unfold Word.split
    split
    · next digits rest hsplit hc =>
      rw [hsplit] at ih
      obtain ⟨hrun, hrest⟩ := List.forall_mem_cons.mp ih
      exact hone ⟨nofun, List.forall_mem_cons.mpr ⟨hc, hrun.digit⟩⟩ hrest
    · next chars rest hsplit hc =>
      rw [hsplit] at ih
      obtain ⟨hrun, hrest⟩ := List.forall_mem_cons.mp ih
      exact hone ⟨nofun, List.forall_mem_cons.mpr ⟨hc, hrun.2⟩⟩ hrest
    · next hc _ => exact hone ⟨nofun, by simpa using hc⟩ ih
    · next hc _ => exact hone ⟨nofun, by simpa using hc⟩ ih

theorem compareLists_eq_iff {as bs : List Word} (has : ∀ a ∈ as, a.IsRun)
    (hbs : ∀ b ∈ bs, b.IsRun) : compareLists as bs = .eq ↔ List.Forall₂ SameValue as bs := by
  induction as generalizing bs with
  | nil => cases bs <;> simp [compareLists]
  | cons a as ih =>
    cases bs with
    | nil => simp [compareLists]
    | cons b bs =>
      obtain ⟨ha, has⟩ := List.forall_mem_cons.mp has
      obtain ⟨hb, hbs⟩ := List.forall_mem_cons.mp hbs
      rw [compareLists, Ordering.then_eq_eq, compare_eq_iff ha hb, ih has hbs,
        List.forall₂_cons]

end Word

end ImageFreshness
