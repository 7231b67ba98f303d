import ImageFreshness.Json.Parse
import ImageFreshness.Proofs.JsonTokens

/-!
# Reading back a value

A value has one list of tokens, `Json.tokens`, and as many texts as these tokens have.  Each of
these texts is read back as the value (`IsText.parse`) if the value is not nested too deeply.  An
open array or object lies on a stack, so what is shown by induction is that the tokens of a value
take the parser from any stack that leaves room for them to the same stack behind the value.
-/

namespace ImageFreshness.Json

/-! ### Tokens of a value -/

mutual

def tokens : Json → List Token
  | .null => [.null]
  | .bool b => [.bool b]
  | .number n => [.number (.ok n)]
  | .string s => [.string (.ok s)]
  | .array [] => [.openBracket, .closeBracket]
  | .array (item :: rest) => .openBracket :: (tokens item ++ moreItems rest)
  | .object [] => [.openBrace, .closeBrace]
  | .object ((name, value) :: rest) =>
    .openBrace :: .string (.ok name) :: .colon :: (tokens value ++ moreMembers rest)

/-- The items of an array from the second one on, and its end. -/
def moreItems : List Json → List Token
  | [] => [.closeBracket]
  | item :: rest => .comma :: (tokens item ++ moreItems rest)

/-- The members of an object from the second one on, and its end. -/
def moreMembers : List (String × Json) → List Token
  | [] => [.closeBrace]
  | (name, value) :: rest =>
    .comma :: .string (.ok name) :: .colon :: (tokens value ++ moreMembers rest)

end

/-- The values with at most so many arrays and objects inside each other. -/
inductive Nested : Nat → Json → Prop where
  | null {n : Nat} : Nested n .null
  | bool {n : Nat} (b : Bool) : Nested n (.bool b)
  | number {n : Nat} (x : Number) : Nested n (.number x)
  | string {n : Nat} (s : String) : Nested n (.string s)
  | array {n : Nat} {items : List Json} : (∀ item ∈ items, Nested n item) →
      Nested (n + 1) (.array items)
  | object {n : Nat} {members : List (String × Json)} : (∀ m ∈ members, Nested n m.2) →
      Nested (n + 1) (.object members)

/-- A text of a value that is not nested too deeply. -/
structure IsText (value : Json) (text : String) : Prop where
  nested : Nested maxDepth value
  spelled : Spelled value.tokens text.toList

/-! ### Numbers and what follows them -/

/-- Where these tokens stand before a separator, no number runs into what follows it. -/
def KeepsApart (tokens : List Token) : Prop :=
  ∀ rest : List Token, (∀ next ∈ rest.head?, next.IsSeparator) → rest.IsChain Separated →
    (tokens ++ rest).IsChain Separated

theorem isChain_cons_of_not_number {token : Token} (htoken : ¬ token.IsNumber) {rest : List Token}
    (hrest : rest.IsChain Separated) : (token :: rest).IsChain Separated :=
  List.isChain_cons.mpr ⟨fun _ _ hnumber => absurd hnumber htoken, hrest⟩

theorem isSeparator_of_head?_moreItems (items : List Json) (rest : List Token) :
    ∀ next ∈ (moreItems items ++ rest).head?, next.IsSeparator := by
  intro next hnext
  cases items <;> cases hnext <;> trivial

theorem isSeparator_of_head?_moreMembers (members : List (String × Json)) (rest : List Token) :
    ∀ next ∈ (moreMembers members ++ rest).head?, next.IsSeparator := by
  intro next hnext
  cases members <;> cases hnext <;> trivial

theorem isChain_moreItems {items : List Json} (h : ∀ item ∈ items, KeepsApart item.tokens)
    {rest : List Token} (hrest : rest.IsChain Separated) :
    (moreItems items ++ rest).IsChain Separated := by
  induction items with
  | nil => exact isChain_cons_of_not_number id hrest
  | cons item items ih =>
    rw [moreItems, List.cons_append, List.append_assoc]
    apply isChain_cons_of_not_number id
    apply h item List.mem_cons_self
    · exact isSeparator_of_head?_moreItems items rest
    · exact ih fun other hother => h other (List.mem_cons_of_mem _ hother)

theorem isChain_moreMembers {members : List (String × Json)}
    (h : ∀ m ∈ members, KeepsApart m.2.tokens) {rest : List Token}
    (hrest : rest.IsChain Separated) : (moreMembers members ++ rest).IsChain Separated := by
  induction members with
  | nil => exact isChain_cons_of_not_number id hrest
  | cons m members ih =>
    rw [moreMembers, List.cons_append, List.cons_append, List.cons_append, List.append_assoc]
    iterate 3 apply isChain_cons_of_not_number id
    apply h m List.mem_cons_self
    · exact isSeparator_of_head?_moreMembers members rest
    · exact ih fun other hother => h other (List.mem_cons_of_mem _ hother)

theorem Nested.keepsApart {n : Nat} {value : Json} (h : Nested n value) :
    KeepsApart value.tokens := by
  induction h with
  | null | bool | string => exact fun rest _ hrest => isChain_cons_of_not_number id hrest
  | number => exact fun rest hnext hrest => List.isChain_cons.mpr ⟨fun t ht _ => hnext t ht, hrest⟩
  | @array _ items _ ih =>
    intro rest _ hrest
    cases items with
    | nil => exact isChain_cons_of_not_number id (isChain_cons_of_not_number id hrest)
    | cons item items =>
      rw [tokens, List.cons_append, List.append_assoc]
      apply isChain_cons_of_not_number id
      apply ih item List.mem_cons_self
      · exact isSeparator_of_head?_moreItems items rest
      · exact isChain_moreItems (fun other hother => ih other (List.mem_cons_of_mem _ hother)) hrest
  | @object _ members _ ih =>
    intro rest _ hrest
    cases members with
    | nil => exact isChain_cons_of_not_number id (isChain_cons_of_not_number id hrest)
    | cons m members =>
      rw [tokens, List.cons_append, List.cons_append, List.cons_append, List.append_assoc]
      iterate 3 apply isChain_cons_of_not_number id
      apply ih m List.mem_cons_self
      · exact isSeparator_of_head?_moreMembers members rest
      · exact isChain_moreMembers (fun other hother => ih other (List.mem_cons_of_mem _ hother))
          hrest

theorem Nested.separated {n : Nat} {value : Json} (h : Nested n value) :
    value.tokens.IsChain Separated := by
  have hchain := h.keepsApart [] (fun _ hnext => nomatch hnext) List.isChain_nil
  rwa [List.append_nil] at hchain

/-! ### The parser on the tokens of a value -/

/-- The parser takes these tokens from any stack with room for `n` more to the same stack, with
    the value behind them. -/
def Reads (n : Nat) (tokens : List Token) (value : Json) : Prop :=
  ∀ (stack : List OpenValue) (rest : List Token), stack.length + n ≤ maxDepth →
    Parsing.run ⟨stack, .value⟩ (tokens ++ rest) = Parsing.run ⟨stack, .after value⟩ rest

namespace Parsing

theorem run_cons {p next : Parsing} {token : Token} (hopen : ∀ value, p ≠ ⟨[], .after value⟩)
    (hstep : p.step token = .ok next) (rest : List Token) :
    run p (token :: rest) = run next rest := by
  rw [run, hstep]
  exact fun value hvalue => hopen value hvalue

theorem step_openBracket {stack : List OpenValue} (h : stack.length < maxDepth) :
    step ⟨stack, .value⟩ .openBracket = .ok ⟨stack, .itemOrEnd⟩ := if_pos h

theorem step_openBrace {stack : List OpenValue} (h : stack.length < maxDepth) :
    step ⟨stack, .value⟩ .openBrace = .ok ⟨stack, .nameOrEnd⟩ := if_pos h

theorem run_itemOrEnd {token : Token} (htoken : token ≠ .closeBracket) (stack : List OpenValue)
    (rest : List Token) :
    run ⟨stack, .itemOrEnd⟩ (token :: rest) = run ⟨.array [] :: stack, .value⟩ (token :: rest) := by
  have hstep : step ⟨stack, .itemOrEnd⟩ token = step ⟨.array [] :: stack, .value⟩ token := by
    cases token <;> first | exact absurd rfl htoken | rfl
  rw [run, run, hstep]
  · simp
  · simp

theorem run_moreItems {n : Nat} {items : List Json} (h : ∀ item ∈ items, Reads n item.tokens item)
    {stack : List OpenValue} (hroom : stack.length + 1 + n ≤ maxDepth) (before : List Json)
    (value : Json) (rest : List Token) :
    run ⟨.array before :: stack, .after value⟩ (moreItems items ++ rest) =
      run ⟨stack, .after (.array (before.reverse ++ value :: items))⟩ rest := by
  induction items generalizing before value with
  | nil =>
    rw [moreItems, List.singleton_append, run_cons (by simp) rfl, List.reverse_cons]
  | cons item items ih =>
    rw [moreItems, List.cons_append, List.append_assoc, run_cons (by simp) rfl,
      h item List.mem_cons_self (.array (value :: before) :: stack) _ hroom,
      ih (fun other hother => h other (List.mem_cons_of_mem _ hother)),
      List.reverse_cons, List.append_assoc, List.singleton_append]

theorem run_moreMembers {n : Nat} {members : List (String × Json)}
    (h : ∀ m ∈ members, Reads n m.2.tokens m.2) {stack : List OpenValue}
    (hroom : stack.length + 1 + n ≤ maxDepth) (before : List (String × Json)) (name : String)
    (value : Json) (rest : List Token) :
    run ⟨.object before name :: stack, .after value⟩ (moreMembers members ++ rest) =
      run ⟨stack, .after (.object (before.reverse ++ (name, value) :: members))⟩ rest := by
  induction members generalizing before name value with
  | nil =>
    rw [moreMembers, List.singleton_append, run_cons (by simp) rfl, List.reverse_cons]
  | cons m members ih =>
    rw [moreMembers, List.cons_append, List.cons_append, List.cons_append, List.append_assoc,
      run_cons (by simp) rfl, run_cons (by simp) rfl, run_cons (by simp) rfl,
      h m List.mem_cons_self (.object ((name, value) :: before) m.1 :: stack) _ hroom,
      ih (fun other hother => h other (List.mem_cons_of_mem _ hother)),
      List.reverse_cons, List.append_assoc, List.singleton_append]

end Parsing

theorem tokens_append_ne_closeBracket (value : Json) (rest : List Token) :
    ∃ token more, value.tokens ++ rest = token :: more ∧ token ≠ .closeBracket := by
  cases value with
  | array items =>
    cases items with
    | nil => exact ⟨.openBracket, _, rfl, nofun⟩
    | cons item items => exact ⟨.openBracket, _, rfl, nofun⟩
  | object members =>
    cases members with
    | nil => exact ⟨.openBrace, _, rfl, nofun⟩
    | cons m members => exact ⟨.openBrace, _, rfl, nofun⟩
  | _ => exact ⟨_, _, rfl, nofun⟩

open Parsing in
theorem Nested.reads {n : Nat} {value : Json} (h : Nested n value) :
    Reads n value.tokens value := by
  induction h with
  | null | bool | number | string => exact fun stack rest _ => run_cons (by simp) rfl rest
  | @array n items _ ih =>
    intro stack rest hroom
    have hopen := step_openBracket (by omega : stack.length < maxDepth)
    cases items with
    | nil =>
      rw [tokens, List.cons_append, run_cons (by simp) hopen, List.singleton_append,
        run_cons (by simp) rfl]
    | cons item items =>
      have hinner : (OpenValue.array [] :: stack).length + n ≤ maxDepth := by
        rw [List.length_cons]
        omega
      -- the item does not start like the end of an array, so it is taken as an item
      obtain ⟨token, more, hfirst, htoken⟩ :=
        tokens_append_ne_closeBracket item (moreItems items ++ rest)
      rw [tokens, List.cons_append, List.append_assoc, run_cons (by simp) hopen, hfirst,
        run_itemOrEnd htoken, ← hfirst, ih item List.mem_cons_self _ _ hinner,
        run_moreItems (fun other hother => ih other (List.mem_cons_of_mem _ hother)) hinner]
      rfl
  | @object n members _ ih =>
    intro stack rest hroom
    have hopen := step_openBrace (by omega : stack.length < maxDepth)
    cases members with
    | nil =>
      rw [tokens, List.cons_append, run_cons (by simp) hopen, List.singleton_append,
        run_cons (by simp) rfl]
    | cons m members =>
      have hinner : (OpenValue.object [] m.1 :: stack).length + n ≤ maxDepth := by
        rw [List.length_cons]
        omega
      rw [tokens, List.cons_append, List.cons_append, List.cons_append, List.append_assoc,
        run_cons (by simp) hopen, run_cons (by simp) rfl, run_cons (by simp) rfl,
        ih m List.mem_cons_self _ _ hinner,
        run_moreMembers (fun other hother => ih other (List.mem_cons_of_mem _ hother)) hinner]
      rfl

/-- Every text of a value is read as this value. -/
theorem IsText.parse {value : Json} {text : String} (h : IsText value text) :
    Json.parse text = .ok value := by
  have hrun := h.nested.reads [] [] (by simp)
  rw [List.append_nil] at hrun
  have hread : parseTokens (Token.lex text.toList) = .ok (value, []) := by
    rw [h.spelled.lex h.nested.separated]
    exact hrun
  rw [Json.parse, hread]
  rfl

end ImageFreshness.Json
