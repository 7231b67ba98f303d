import Mathlib.Data.List.Forall2

/-!
# Lists

Facts about lists in general: lists that are related element by element, decoding the elements of a
list, the first place of an element, and lists of pairs.
-/

namespace ImageFreshness

variable {α β γ : Type}

/-! ### Lists that are related element by element -/

theorem forall₂_imp_mem {R S : α → β → Prop} {xs : List α} {ys : List β}
    (h : List.Forall₂ R xs ys) (himp : ∀ x y, y ∈ ys → R x y → S x y) : List.Forall₂ S xs ys := by
  induction h with
  | nil => exact .nil
  | @cons x y xs ys hxy _ ih =>
    refine .cons (himp x y List.mem_cons_self hxy) (ih ?_)
    intro x' y' hmem
    exact himp x' y' (List.mem_cons_of_mem y hmem)

theorem exists_of_forall₂_of_mem {R : α → β → Prop} {xs : List α} {ys : List β}
    (h : List.Forall₂ R xs ys) {y : β} (hmem : y ∈ ys) : ∃ x ∈ xs, R x y := by
  induction h with
  | nil => cases hmem
  | @cons x y' xs ys hxy _ ih =>
    rcases List.mem_cons.mp hmem with rfl | hmem
    · exact ⟨x, List.mem_cons_self, hxy⟩
    · obtain ⟨x', hx', hR⟩ := ih hmem
      exact ⟨x', List.mem_cons_of_mem x hx', hR⟩

/-- Changing one element of a list that is related to another element by element. -/
theorem forall₂_replace {R S : α → β → Prop} {xs : List α} {before after : List β} {y y' : β}
    (h : List.Forall₂ R xs (before ++ y :: after))
    (hothers : ∀ x z, z ∈ before ∨ z ∈ after → R x z → S x z)
    (hthis : ∀ x, x ∈ xs → R x y → S x y') : List.Forall₂ S xs (before ++ y' :: after) := by
  induction before generalizing xs with
  | nil =>
    obtain ⟨x, rest, hy, hrest, rfl⟩ := List.forall₂_cons_right_iff.mp h
    refine .cons (hthis x List.mem_cons_self hy) ?_
    exact forall₂_imp_mem hrest fun x' z hmem => hothers x' z (Or.inr hmem)
  | cons z before ih =>
    obtain ⟨x, rest, hz, hrest, rfl⟩ := List.forall₂_cons_right_iff.mp h
    refine .cons (hothers x z (Or.inl List.mem_cons_self) hz) ?_
    refine ih hrest ?_ ?_
    · intro x' z' hmem
      exact hothers x' z' (hmem.imp_left (List.mem_cons_of_mem z))
    · intro x' hmem
      exact hthis x' (List.mem_cons_of_mem x hmem)

theorem forall₂_zipWith {R : α → β → Prop} {S : α → γ → Prop} {f : α → β → γ} {xs : List α}
    {ys : List β} (h : List.Forall₂ R xs ys) (himp : ∀ x y, R x y → S x (f x y)) :
    List.Forall₂ S xs (List.zipWith f xs ys) := by
  induction h with
  | nil => exact .nil
  | @cons x y xs ys hxy _ ih => exact .cons (himp x y hxy) ih

/-! ### Decoding the elements of a list -/

section Decoding

variable {decode : β → Option α} {items : List β}

theorem mapM_eq_some_iff {values : List α} :
    items.mapM decode = some values ↔
      List.Forall₂ (fun item value => decode item = some value) items values := by
  induction items generalizing values with
  | nil => cases values <;> simp
  | cons item rest ih =>
    rw [List.mapM_cons]
    constructor
    · intro h
      obtain ⟨value, hvalue, h⟩ := Option.bind_eq_some_iff.mp h
      obtain ⟨more, hmore, h⟩ := Option.bind_eq_some_iff.mp h
      cases h
      exact .cons hvalue (ih.mp hmore)
    · rintro (_ | ⟨hvalue, hmore⟩)
      rw [hvalue, ih.mpr hmore]
      rfl

theorem mapM_eq_none_iff : items.mapM decode = none ↔ ∃ item ∈ items, decode item = none := by
  induction items with
  | nil => simp
  | cons item rest ih =>
    rw [List.mapM_cons]
    cases hitem : decode item with
    | none => simp [hitem]
    | some value =>
      cases hrest : rest.mapM decode with
      | none => simpa [hitem] using ih.mp hrest
      | some more => simpa [hitem, hrest] using ih

end Decoding

/-! ### The first place of an element -/

/-- Each place of an element is the first one or comes after it. -/
theorem eq_or_exists_of_first {a : α} {earlier later earlier' later' : List α}
    (h : earlier ++ a :: later = earlier' ++ a :: later') (hfirst : a ∉ earlier) :
    earlier' = earlier ∨ ∃ between, earlier' = earlier ++ a :: between := by
  rcases List.append_eq_append_iff.mp h with ⟨between, hlong, hhead⟩ | ⟨between, hlong, hhead⟩
  · cases between with
    | nil => exact Or.inl (by simpa using hlong)
    | cons b rest =>
      rw [List.cons_append, List.cons.injEq] at hhead
      exact Or.inr ⟨rest, hhead.1 ▸ hlong⟩
  · cases between with
    | nil => exact Or.inl (by simpa using hlong.symm)
    | cons b rest =>
      rw [List.cons_append, List.cons.injEq] at hhead
      rw [hlong, ← hhead.1] at hfirst
      simp at hfirst

/-! ### Lists of pairs -/

section Pairs

variable [BEq α] [LawfulBEq α] {pairs : List (α × β)} {key : α}

/-- Looking up in a list from which the pairs of one key have been taken. -/
theorem lookup_filter_ne [DecidableEq α] (pairs : List (α × β)) (key k : α) :
    (pairs.filter (·.1 ≠ key)).lookup k = if k = key then none else pairs.lookup k := by
  induction pairs with
  | nil => simp
  | cons pair rest ih =>
    obtain ⟨name, value⟩ := pair
    by_cases hname : name = key
    · subst hname
      rw [List.filter_cons_of_neg (by simp), ih, List.lookup_cons]
      by_cases hk : k = name
      · simp [hk]
      · simp [hk, beq_false_of_ne hk]
    · rw [List.filter_cons_of_pos (by simpa using hname), List.lookup_cons, List.lookup_cons, ih]
      by_cases hk : k = name
      · subst hk
        simp [hname]
      · simp [beq_false_of_ne hk]

theorem lookup_eq_some_of_mem {value : β} (hmem : (key, value) ∈ pairs)
    (hunique : ∀ other, (key, other) ∈ pairs → other = value) :
    pairs.lookup key = some value := by
  induction pairs with
  | nil => cases hmem
  | cons pair rest ih =>
    obtain ⟨name, first⟩ := pair
    rw [List.lookup_cons]
    by_cases hname : key = name
    · subst hname
      rw [beq_self_eq_true]
      exact congrArg some (hunique first List.mem_cons_self)
    · have hother : (key == name) = false := beq_false_of_ne hname
      have hrest : (key, value) ∈ rest := by
        rcases List.mem_cons.mp hmem with hfirst | hrest
        · exact absurd (congrArg Prod.fst hfirst) hname
        · exact hrest
      simp only [hother]
      exact ih hrest fun other hmem => hunique other (List.mem_cons_of_mem _ hmem)

end Pairs

end ImageFreshness
