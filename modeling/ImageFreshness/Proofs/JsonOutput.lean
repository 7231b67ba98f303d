import ImageFreshness.Proofs.JsonReadBack

/-!
# The compact text of a value

What `Json.render` writes is one of the texts of a value, so it is read back as this value
(`NumberFree.parse_text`), and it is a single line: control characters stand in it only as escapes
(`NumberFree.isLine`).  Values without numbers are enough for all that the program writes.
-/

namespace ImageFreshness.Json

/-! ### Lists in a compact text -/

/-- What stands behind an element of a list: the elements that are left, each behind a comma, and
    the end of the list. -/
def following {α : Type} (close : Char) (write : α → List Char) : List α → List Char
  | [] => [close]
  | a :: rest => ',' :: (write a ++ following close write rest)

/-- The elements of a list with commas between them, and the end of the list. -/
def listed {α : Type} (close : Char) (write : α → List Char) : List α → List Char
  | [] => [close]
  | a :: rest => write a ++ following close write rest

theorem renderItems_eq_listed (items : List Json) :
    renderItems items = listed ']' render items := by
  cases items with
  | nil => rfl
  | cons item rest =>
    induction rest generalizing item with
    | nil => rfl
    | cons next rest ih =>
      rw [renderItems, ih, listed, listed, following]
      simp

def renderMember (member : String × Json) : List Char :=
  renderString member.1 ++ ':' :: render member.2

theorem renderMembers_eq_listed (members : List (String × Json)) :
    renderMembers members = listed '\x7d' renderMember members := by
  cases members with
  | nil => rfl
  | cons member rest =>
    induction rest generalizing member with
    | nil => rfl
    | cons next rest ih =>
      rw [renderMembers, ih, listed, listed, following]
      · simp [renderMember]
      · simp

/-! ### Values without numbers -/

/-- The values without numbers, and with at most so many arrays and objects inside each other. -/
inductive NumberFree : Nat → Json → Prop where
  | null {n : Nat} : NumberFree n .null
  | bool {n : Nat} (value : Bool) : NumberFree n (.bool value)
  | string {n : Nat} (s : String) : NumberFree n (.string s)
  | array {n : Nat} {items : List Json} : (∀ item ∈ items, NumberFree n item) →
      NumberFree (n + 1) (.array items)
  | object {n : Nat} {members : List (String × Json)} :
      (∀ member ∈ members, NumberFree n member.2) → NumberFree (n + 1) (.object members)

theorem NumberFree.nested {n : Nat} {value : Json} (h : NumberFree n value) : Nested n value := by
  induction h with
  | null => exact .null
  | bool value => exact .bool value
  | string s => exact .string s
  | array _ ih => exact .array ih
  | object _ ih => exact .object ih

/-! ### The tokens of a compact text -/

/-- The compact text of a value spells its tokens, whatever stands behind them. -/
def RendersTokens (value : Json) : Prop :=
  ∀ ⦃tokens : List Token⦄ ⦃rest : List Char⦄, Spelled tokens rest →
    Spelled (value.tokens ++ tokens) (value.render ++ rest)

theorem Token.spells_renderString (s : String) : Token.Spells (.string (.ok s)) (renderString s) :=
  .string (spells_flatMap_escape s.toList)

section Lists

variable {tokens : List Token} {rest : List Char}

theorem spelled_moreItems {items : List Json} (h : ∀ item ∈ items, RendersTokens item)
    (hrest : Spelled tokens rest) :
    Spelled (moreItems items ++ tokens) (following ']' render items ++ rest) := by
  induction items with
  | nil => exact .word .closeBracket hrest
  | cons item items ih =>
    rw [moreItems, following, List.cons_append, List.append_assoc, List.cons_append,
      List.append_assoc]
    refine .word .comma (h item List.mem_cons_self ?_)
    exact ih fun other hother => h other (List.mem_cons_of_mem _ hother)

theorem spelled_moreMembers {members : List (String × Json)}
    (h : ∀ member ∈ members, RendersTokens member.2) (hrest : Spelled tokens rest) :
    Spelled (moreMembers members ++ tokens) (following '\x7d' renderMember members ++ rest) := by
  induction members with
  | nil => exact .word .closeBrace hrest
  | cons member members ih =>
    rw [moreMembers, following, renderMember]
    simp only [List.cons_append, List.append_assoc]
    refine .word .comma (.word (Token.spells_renderString member.1) (.word .colon ?_))
    refine h member List.mem_cons_self ?_
    exact ih fun other hother => h other (List.mem_cons_of_mem _ hother)

end Lists

theorem NumberFree.rendersTokens {n : Nat} {value : Json} (h : NumberFree n value) :
    RendersTokens value := by
  induction h with
  | null => exact fun tokens rest hrest => .word .null hrest
  | bool value =>
    intro tokens rest hrest
    cases value with
    | true => exact .word .true hrest
    | false => exact .word .false hrest
  | string s => exact fun tokens rest hrest => .word (Token.spells_renderString s) hrest
  | @array _ items _ ih =>
    intro more rest hrest
    rw [render, renderItems_eq_listed]
    cases items with
    | nil =>
      simp only [tokens, listed, List.cons_append, List.nil_append]
      exact .word .openBracket (.word .closeBracket hrest)
    | cons item items =>
      rw [tokens, listed, List.cons_append, List.append_assoc, List.cons_append,
        List.append_assoc]
      refine .word .openBracket (ih item List.mem_cons_self ?_)
      exact spelled_moreItems (fun other hother => ih other (List.mem_cons_of_mem _ hother)) hrest
  | @object _ members _ ih =>
    intro more rest hrest
    rw [render, renderMembers_eq_listed]
    cases members with
    | nil =>
      simp only [tokens, listed, List.cons_append, List.nil_append]
      exact .word .openBrace (.word .closeBrace hrest)
    | cons member members =>
      rw [tokens, listed, renderMember]
      simp only [List.cons_append, List.append_assoc]
      refine .word .openBrace (.word (Token.spells_renderString member.1) (.word .colon ?_))
      refine ih member List.mem_cons_self ?_
      exact spelled_moreMembers (fun other hother => ih other (List.mem_cons_of_mem _ hother))
        hrest

theorem NumberFree.spelled_text {n : Nat} {value : Json} (h : NumberFree n value) :
    Spelled value.tokens value.text.toList := by
  have hspelled := h.rendersTokens (Spelled.nil (List.forall_mem_nil _))
  rwa [List.append_nil, List.append_nil, ← String.toList_ofList (l := value.render)] at hspelled

/-- A value is read back from its compact text. -/
theorem NumberFree.parse_text {value : Json} (h : NumberFree maxDepth value) :
    Json.parse value.text = .ok value := by
  have htext : IsText value value.text := ⟨h.nested, h.spelled_text⟩
  exact htext.parse

/-! ### Lines -/

/-- A text without control characters. -/
def IsLine (cs : List Char) : Prop := ∀ c ∈ cs, 0x20 ≤ c.toNat

-- spelled out, lest all characters there are be tried
instance (cs : List Char) : Decidable (IsLine cs) :=
  List.decidableBAll (fun c : Char => 0x20 ≤ c.toNat) cs

namespace IsLine

variable {cs ds : List Char}

theorem cons {c : Char} (hc : 0x20 ≤ c.toNat) (h : IsLine cs) : IsLine (c :: cs) :=
  List.forall_mem_cons.mpr ⟨hc, h⟩

theorem append (h : IsLine cs) (h' : IsLine ds) : IsLine (cs ++ ds) :=
  List.forall_mem_append.mpr ⟨h, h'⟩

theorem newline_notMem (h : IsLine cs) : '\n' ∉ cs := fun hmem => absurd (h '\n' hmem) (by decide)

theorem escape (c : Char) : IsLine (escape c) := by
  unfold Json.escape
  split
  case h_8 =>
    split
    case isTrue hcontrol =>
      have hcode : ∀ n < 0x20,
          IsLine ['\\', 'u', '0', '0', Nat.digitChar (n / 16), Nat.digitChar (n % 16)] := by
        decide
      exact hcode c.toNat hcontrol
    case isFalse hplain => exact List.forall_mem_singleton.mpr (Nat.not_lt.mp hplain)
  all_goals decide

theorem renderString (s : String) : IsLine (renderString s) := by
  have hescaped : IsLine (s.toList.flatMap Json.escape) := by
    intro c hc
    obtain ⟨d, -, hd⟩ := List.mem_flatMap.mp hc
    exact escape d c hd
  exact .cons (by decide) (hescaped.append (by decide))

theorem following {α : Type} {close : Char} (hclose : 0x20 ≤ close.toNat)
    {write : α → List Char} {as : List α} (h : ∀ a ∈ as, IsLine (write a)) :
    IsLine (following close write as) := by
  induction as with
  | nil => exact List.forall_mem_singleton.mpr hclose
  | cons a as ih =>
    refine .cons (by decide) ((h a List.mem_cons_self).append ?_)
    exact ih fun other hother => h other (List.mem_cons_of_mem _ hother)

theorem listed {α : Type} {close : Char} (hclose : 0x20 ≤ close.toNat)
    {write : α → List Char} {as : List α} (h : ∀ a ∈ as, IsLine (write a)) :
    IsLine (listed close write as) := by
  cases as with
  | nil => exact List.forall_mem_singleton.mpr hclose
  | cons a as =>
    refine (h a List.mem_cons_self).append ?_
    exact following hclose fun other hother => h other (List.mem_cons_of_mem _ hother)

end IsLine

theorem NumberFree.isLine {n : Nat} {value : Json} (h : NumberFree n value) :
    IsLine value.render := by
  induction h with
  | null => exact (by decide : IsLine "null".toList)
  | bool value =>
    cases value with
    | true => exact (by decide : IsLine "true".toList)
    | false => exact (by decide : IsLine "false".toList)
  | string s => exact .renderString s
  | array _ ih =>
    rw [render, renderItems_eq_listed]
    exact .cons (by decide) (.listed (by decide) ih)
  | object _ ih =>
    rw [render, renderMembers_eq_listed]
    refine .cons (by decide) (.listed (by decide) fun member hmember => ?_)
    exact (IsLine.renderString member.1).append (.cons (by decide) (ih member hmember))

end ImageFreshness.Json
