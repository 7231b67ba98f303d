import ImageFreshness.Json.Skip
import Mathlib.Data.List.Basic

/-!
# Passing over any value

`IsValue` is the grammar of values in tokens.  It puts no bound on how deeply they are nested, and
their numbers and strings need not denote anything.  All of them are passed over
(`IsValue.skipValue`).  What is shown by induction is that the tokens of a value lead from any stack
of open values to the same stack behind the value.
-/

namespace ImageFreshness.Json

/-! ### Values in tokens -/

/-- What stands behind an element: the elements that are left, each behind a comma, and the end. -/
def furtherElements (close : Token) : List (List Token) → List Token
  | [] => [close]
  | element :: rest => .comma :: (element ++ furtherElements close rest)

/-- Elements with commas between them, and the end. -/
def elements (close : Token) : List (List Token) → List Token
  | [] => [close]
  | element :: rest => element ++ furtherElements close rest

inductive IsValue : List Token → Prop where
  | null : IsValue [.null]
  | bool (b : Bool) : IsValue [.bool b]
  | number (n : Except Fault Number) : IsValue [.number n]
  | string (s : Except Fault String) : IsValue [.string s]
  | array {items : List (List Token)} : (∀ item ∈ items, IsValue item) →
      IsValue (.openBracket :: elements .closeBracket items)
  | object {members : List (Except Fault String × List Token)} : (∀ m ∈ members, IsValue m.2) →
      IsValue (.openBrace ::
        elements .closeBrace (members.map fun m => .string m.1 :: .colon :: m.2))

theorem IsValue.head {tokens : List Token} (h : IsValue tokens) :
    ∃ token more, tokens = token :: more ∧ token ≠ .closeBracket := by
  cases h
  all_goals exact ⟨_, _, rfl, nofun⟩

/-! ### Passing over them -/

namespace Skipping

/-- The tokens lead from where a value is awaited to what is behind it. -/
def PassesOver (tokens : List Token) : Prop :=
  ∀ (stack : List Frame) (rest : List Token),
    run ⟨stack, .value⟩ (tokens ++ rest) = run ⟨stack, .after⟩ rest

theorem run_cons {s next : Skipping} {token : Token} (hopen : s ≠ ⟨[], .after⟩)
    (hstep : s.step token = .ok next) (rest : List Token) :
    run s (token :: rest) = run next rest := by
  rw [run, hstep]
  exact hopen

/-- What does not end an array is its first item. -/
theorem run_itemOrEnd {token : Token} (htoken : token ≠ .closeBracket) (stack : List Frame)
    (rest : List Token) :
    run ⟨.array :: stack, .itemOrEnd⟩ (token :: rest) =
      run ⟨.array :: stack, .value⟩ (token :: rest) := by
  have hstep : step ⟨.array :: stack, .itemOrEnd⟩ token = step ⟨.array :: stack, .value⟩ token := by
    cases token <;> first | exact absurd rfl htoken | rfl
  rw [run, run, hstep]
  · simp
  · simp

theorem run_furtherItems {items : List (List Token)} (h : ∀ item ∈ items, PassesOver item)
    (stack : List Frame) (rest : List Token) :
    run ⟨.array :: stack, .after⟩ (furtherElements .closeBracket items ++ rest) =
      run ⟨stack, .after⟩ rest := by
  induction items with
  | nil => exact run_cons (by simp) rfl rest
  | cons item items ih =>
    rw [furtherElements, List.cons_append, List.append_assoc, run_cons (by simp) rfl,
      h item List.mem_cons_self]
    exact ih fun other hother => h other (List.mem_cons_of_mem _ hother)

theorem run_furtherMembers {members : List (Except Fault String × List Token)}
    (h : ∀ m ∈ members, PassesOver m.2) (stack : List Frame) (rest : List Token) :
    run ⟨.object :: stack, .after⟩ (furtherElements .closeBrace
        (members.map fun m => .string m.1 :: .colon :: m.2) ++ rest) =
      run ⟨stack, .after⟩ rest := by
  induction members with
  | nil => exact run_cons (by simp) rfl rest
  | cons m members ih =>
    simp only [List.map_cons, furtherElements, List.cons_append, List.append_assoc]
    rw [run_cons (by simp) rfl, run_cons (by simp) rfl, run_cons (by simp) rfl,
      h m List.mem_cons_self]
    exact ih fun other hother => h other (List.mem_cons_of_mem _ hother)

end Skipping

open Skipping in
theorem IsValue.passesOver {tokens : List Token} (h : IsValue tokens) : PassesOver tokens := by
  induction h with
  | null | bool | number | string => exact fun stack rest => run_cons (by simp) rfl rest
  | @array items hitems ih =>
    intro stack rest
    rw [List.cons_append, run_cons (by simp) rfl]
    cases items with
    | nil => exact run_cons (by simp) rfl rest
    | cons item items =>
      obtain ⟨token, more, hitem, htoken⟩ := (hitems item List.mem_cons_self).head
      have hfirst := ih item List.mem_cons_self (.array :: stack)
      rw [elements, List.append_assoc, hitem, List.cons_append, run_itemOrEnd htoken,
        ← List.cons_append, ← hitem, hfirst]
      exact run_furtherItems (fun other hother => ih other (List.mem_cons_of_mem _ hother)) stack
        rest
  | @object members _ ih =>
    intro stack rest
    rw [List.cons_append, run_cons (by simp) rfl]
    cases members with
    | nil => exact run_cons (by simp) rfl rest
    | cons m members =>
      simp only [List.map_cons, elements, List.cons_append, List.append_assoc]
      rw [run_cons (by simp) rfl, run_cons (by simp) rfl, ih m List.mem_cons_self]
      exact run_furtherMembers (fun other hother => ih other (List.mem_cons_of_mem _ hother)) stack
        rest

/-- A value is passed over, and nothing behind it is touched. -/
theorem IsValue.skipValue {tokens : List Token} (h : IsValue tokens) (rest : List Token) :
    skipValue (tokens ++ rest) = .ok rest := by
  rw [Json.skipValue, h.passesOver [] rest, Skipping.run]

end ImageFreshness.Json
