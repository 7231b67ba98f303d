/-!
# Cutting a text at a character

`cutFirst` cuts at the first occurrence of a character and `cutLast` at the last one.  Either
drops that one character and fails where there is none.
-/

namespace ImageFreshness.Text

/-- The parts before and after the first occurrence of `c`. -/
def cutFirst (c : Char) : List Char → Option (List Char × List Char)
  | [] => none
  | x :: xs =>
    if x = c then some ([], xs)
    else (cutFirst c xs).map fun (before, after) => (x :: before, after)

theorem cutFirst_append_cons {c : Char} {before : List Char} (h : c ∉ before)
    (after : List Char) : cutFirst c (before ++ c :: after) = some (before, after) := by
  induction before with
  | nil => simp [cutFirst]
  | cons x xs ih =>
    obtain ⟨hx, hxs⟩ := not_or.mp (mt List.mem_cons.mpr h)
    simp [cutFirst, Ne.symm hx, ih hxs]

theorem cutFirst_eq_none_iff {c : Char} {cs : List Char} : cutFirst c cs = none ↔ c ∉ cs := by
  induction cs with
  | nil => simp [cutFirst]
  | cons x xs ih =>
    by_cases hx : x = c
    · simp [cutFirst, hx]
    · simp [cutFirst, hx, Ne.symm hx, ih]

theorem cutFirst_eq_some_iff {c : Char} {cs before after : List Char} :
    cutFirst c cs = some (before, after) ↔ cs = before ++ c :: after ∧ c ∉ before := by
  constructor
  · intro h
    have hmem : c ∈ cs := by
      refine Decidable.byContradiction fun hmem => ?_
      rw [cutFirst_eq_none_iff.mpr hmem] at h
      cases h
    obtain ⟨first, rest, rfl, hfirst⟩ := List.eq_append_cons_of_mem hmem
    rw [cutFirst_append_cons hfirst, Option.some.injEq, Prod.mk.injEq] at h
    obtain ⟨rfl, rfl⟩ := h
    exact ⟨rfl, hfirst⟩
  · rintro ⟨rfl, h⟩
    exact cutFirst_append_cons h after

def cutLast (c : Char) : List Char → Option (List Char × List Char)
  | [] => none
  | x :: xs =>
    match cutLast c xs with
    | some (before, after) => some (x :: before, after)
    | none => if x = c then some ([], xs) else none

theorem cutLast_eq_none_iff {c : Char} {cs : List Char} : cutLast c cs = none ↔ c ∉ cs := by
  induction cs with
  | nil => simp [cutLast]
  | cons x xs ih =>
    unfold cutLast
    split
    · next hxs =>
      have hmem : c ∈ xs := by
        refine Decidable.byContradiction fun hmem => ?_
        rw [ih.mpr hmem] at hxs
        cases hxs
      simp [hmem]
    · next hxs => simp [ih.mp hxs, eq_comm]

theorem cutLast_append_cons {c : Char} {after : List Char} (h : c ∉ after)
    (before : List Char) : cutLast c (before ++ c :: after) = some (before, after) := by
  induction before with
  | nil => simp [cutLast, cutLast_eq_none_iff.mpr h]
  | cons x xs ih => simp [cutLast, ih]

theorem cutLast_eq_some_iff {c : Char} {cs before after : List Char} :
    cutLast c cs = some (before, after) ↔ cs = before ++ c :: after ∧ c ∉ after := by
  constructor
  · intro h
    induction cs generalizing before with
    | nil => cases h
    | cons x xs ih =>
      unfold cutLast at h
      split at h
      · next front rest hxs =>
        obtain ⟨rfl, rfl⟩ := Prod.mk.inj (Option.some.inj h)
        obtain ⟨rfl, hafter⟩ := ih hxs
        exact ⟨rfl, hafter⟩
      · next hxs =>
        split at h
        · next hx =>
          obtain ⟨rfl, rfl⟩ := Prod.mk.inj (Option.some.inj h)
          exact ⟨by rw [hx, List.nil_append], cutLast_eq_none_iff.mp hxs⟩
        · cases h
  · rintro ⟨rfl, h⟩
    exact cutLast_append_cons h before

def afterPrefix? : List Char → List Char → Option (List Char)
  | [], cs => some cs
  | _ :: _, [] => none
  | p :: ps, c :: cs => if p = c then afterPrefix? ps cs else none

theorem afterPrefix?_eq_some_iff {lead cs rest : List Char} :
    afterPrefix? lead cs = some rest ↔ cs = lead ++ rest := by
  induction lead generalizing cs with
  | nil => simp [afterPrefix?]
  | cons p ps ih =>
    cases cs with
    | nil => simp [afterPrefix?]
    | cons c cs =>
      by_cases hp : p = c
      · simp [afterPrefix?, hp, ih]
      · simp [afterPrefix?, hp, Ne.symm hp]

theorem isSome_afterPrefix?_iff {lead cs : List Char} :
    (afterPrefix? lead cs).isSome = true ↔ lead <+: cs := by
  rw [Option.isSome_iff_exists]
  constructor
  · rintro ⟨rest, h⟩
    exact ⟨rest, (afterPrefix?_eq_some_iff.mp h).symm⟩
  · rintro ⟨rest, h⟩
    exact ⟨rest, afterPrefix?_eq_some_iff.mpr h.symm⟩

/-- Whether `part` occurs in the text. -/
def occursIn (part : List Char) : List Char → Bool
  | [] => part.isEmpty
  | c :: cs => (afterPrefix? part (c :: cs)).isSome || occursIn part cs

theorem occursIn_iff {part cs : List Char} : occursIn part cs = true ↔ part <:+: cs := by
  induction cs with
  | nil => simp [occursIn]
  | cons c cs ih => rw [occursIn, Bool.or_eq_true, isSome_afterPrefix?_iff, ih, List.infix_cons_iff]

end ImageFreshness.Text
