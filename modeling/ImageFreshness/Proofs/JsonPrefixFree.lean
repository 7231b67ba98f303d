import ImageFreshness.Proofs.JsonOutput

/-!
# Where a compact text ends

A value is known from its compact text even when other text stands right behind it (`Whole.apart`).
A number needs something behind it that is not a digit; an object needs nothing
(`render_object_append_inj`).  Numbers that are no integers are left out: they keep the text they
were read from, whatever that is.
-/

namespace ImageFreshness.Json

open Text

/-! ### Values whose numbers are integers -/

/-- The values whose numbers are all integers. -/
inductive Whole : Json → Prop where
  | null : Whole .null
  | bool (value : Bool) : Whole (.bool value)
  | unsigned (n : Nat) : Whole (.number (.unsigned n))
  | negative (n : Nat) : Whole (.number (.negative n))
  | string (s : String) : Whole (.string s)
  | array {items : List Json} : (∀ item ∈ items, Whole item) → Whole (.array items)
  | object {members : List (String × Json)} :
      (∀ member ∈ members, Whole member.2) → Whole (.object members)

/-- The character that the texts of all values of a kind start with; one digit stands for every
    digit, and one letter for both truth values. -/
def mark : Json → Char
  | .null => 'n'
  | .bool _ => 't'
  | .number (.negative _) => '-'
  | .number _ => '0'
  | .string _ => '"'
  | .array _ => '['
  | .object _ => '\x7b'

/-- What a first character tells of the kind of a value. -/
def markOf (c : Char) : Char := if c.isDigit then '0' else if c = 'f' then 't' else c

theorem Whole.head?_render {x : Json} (hx : Whole x) (s : List Char) :
    (render x ++ s).head?.map markOf = some x.mark := by
  cases hx with
  | bool value => cases value <;> rfl
  | unsigned n =>
    obtain ⟨digit, digits, h⟩ := List.exists_cons_of_ne_nil (Decimal.ofNat_ne_nil n)
    have hdigit : digit.isDigit = true :=
      Decimal.isDigit_of_mem_ofNat (n := n) (h ▸ List.mem_cons_self)
    simp [render, Number.render, h, markOf, hdigit, mark]
  | _ => rfl

theorem Whole.mark_eq {x y : Json} (hx : Whole x) (hy : Whole y) {s t : List Char}
    (h : render x ++ s = render y ++ t) : x.mark = y.mark := by
  have hmark := hx.head?_render s
  rw [h, hy.head?_render t] at hmark
  exact (Option.some.inj hmark).symm

/-- `write a` can be told from the texts of all that have `P`, whatever stands behind them. -/
def Apart {α : Type} (write : α → List Char) (P : α → Prop) (a : α) : Prop :=
  ∀ ⦃b⦄, P b → ∀ ⦃s t⦄, Stops s → Stops t → write a ++ s = write b ++ t → a = b ∧ s = t

section Lists

variable {α : Type} {close : Char} {write : α → List Char} {P : α → Prop}

theorem stops_following (hclose : close.isDigit = false) (as : List α) (s : List Char) :
    Stops (following close write as ++ s) := by
  cases as with
  | nil => exact stops_cons hclose s
  | cons a rest => exact stops_cons rfl _

theorem following_append_inj (hclose : close.isDigit = false) (hcomma : close ≠ ',') {as : List α}
    (has : ∀ a ∈ as, Apart write P a) {bs : List α} (hbs : ∀ b ∈ bs, P b) {s t : List Char}
    (h : following close write as ++ s = following close write bs ++ t) : as = bs ∧ s = t := by
  induction as generalizing bs with
  | nil =>
    cases bs with
    | nil => exact ⟨rfl, List.append_cancel_left h⟩
    | cons b bs => exact absurd (List.cons.inj h).1 hcomma
  | cons a as ih =>
    cases bs with
    | nil => exact absurd (List.cons.inj h).1.symm hcomma
    | cons b bs =>
      simp only [following, List.cons_append, List.append_assoc, List.cons.injEq, true_and] at h
      obtain ⟨hab, hrest⟩ := has a List.mem_cons_self (hbs b List.mem_cons_self)
        (stops_following hclose as s) (stops_following hclose bs t) h
      obtain ⟨hlist, hst⟩ := ih (fun a ha => has a (List.mem_cons_of_mem _ ha))
        (fun b hb => hbs b (List.mem_cons_of_mem _ hb)) hrest
      exact ⟨by rw [hab, hlist], hst⟩

theorem listed_append_inj (hclose : close.isDigit = false) (hcomma : close ≠ ',')
    (hfirst : ∀ a, P a → ∀ s, (write a ++ s).head? ≠ some close) {as : List α}
    (hP : ∀ a ∈ as, P a) (has : ∀ a ∈ as, Apart write P a) {bs : List α} (hbs : ∀ b ∈ bs, P b)
    {s t : List Char} (h : listed close write as ++ s = listed close write bs ++ t) :
    as = bs ∧ s = t := by
  cases as with
  | nil =>
    cases bs with
    | nil => exact ⟨rfl, List.append_cancel_left h⟩
    | cons b bs =>
      simp only [listed, List.append_assoc] at h
      exact absurd (congrArg List.head? h).symm (hfirst b (hbs b List.mem_cons_self) _)
  | cons a as =>
    cases bs with
    | nil =>
      simp only [listed, List.append_assoc] at h
      exact absurd (congrArg List.head? h) (hfirst a (hP a List.mem_cons_self) _)
    | cons b bs =>
      have hfollowing :
          following close write (a :: as) ++ s = following close write (b :: bs) ++ t :=
        congrArg (',' :: ·) h
      exact following_append_inj hclose hcomma has hbs hfollowing

end Lists

theorem renderMember_apart {member : String × Json} (h : Apart render Whole member.2) :
    Apart renderMember (fun other => Whole other.2) member := by
  intro other hother s t hs ht hst
  simp only [renderMember, List.append_assoc, List.cons_append] at hst
  obtain ⟨hname, hvalue⟩ := renderString_append_inj hst
  obtain ⟨hvalue, hst⟩ := h hother hs ht (List.cons.inj hvalue).2
  exact ⟨Prod.ext hname hvalue, hst⟩

theorem Whole.head?_ne_closeBracket {x : Json} (hx : Whole x) (s : List Char) :
    (render x ++ s).head? ≠ some ']' := by
  intro h
  have hmark := hx.head?_render s
  rw [h] at hmark
  cases hx <;> cases hmark

theorem renderItems_append_inj {items others : List Json} (hitems : ∀ item ∈ items, Whole item)
    (hapart : ∀ item ∈ items, Apart render Whole item) (hothers : ∀ other ∈ others, Whole other)
    {s t : List Char} (h : renderItems items ++ s = renderItems others ++ t) :
    items = others ∧ s = t := by
  rw [renderItems_eq_listed, renderItems_eq_listed] at h
  exact listed_append_inj rfl (by decide) (fun _ hitem => hitem.head?_ne_closeBracket) hitems
    hapart hothers h

theorem renderMembers_append_inj {members others : List (String × Json)}
    (hmembers : ∀ member ∈ members, Whole member.2)
    (hapart : ∀ member ∈ members, Apart render Whole member.2)
    (hothers : ∀ other ∈ others, Whole other.2) {s t : List Char}
    (h : renderMembers members ++ s = renderMembers others ++ t) : members = others ∧ s = t := by
  rw [renderMembers_eq_listed, renderMembers_eq_listed] at h
  exact listed_append_inj (P := fun member => Whole member.2) rfl (by decide)
    (fun _ _ _ => by simp [renderMember, renderString]) hmembers
    (fun member hmember => renderMember_apart (hapart member hmember)) hothers h

/-- A value is known from its text, whatever stands behind it that does not start with a digit. -/
theorem Whole.apart {x : Json} (hx : Whole x) : Apart render Whole x := by
  -- by the first character the other value is of the same kind
  induction hx with
  | null =>
    intro y hy s t _ _ h
    have hmark := Whole.null.mark_eq hy h
    cases hy with
    | null => exact ⟨rfl, List.append_cancel_left h⟩
    | _ => cases hmark
  | bool value =>
    intro y hy s t _ _ h
    have hmark := (Whole.bool value).mark_eq hy h
    cases hy with
    | bool other =>
      cases value <;> cases other
      case false.false | true.true => exact ⟨rfl, List.append_cancel_left h⟩
      all_goals cases h
    | _ => cases hmark
  | unsigned n =>
    intro y hy s t hs ht h
    have hmark := (Whole.unsigned n).mark_eq hy h
    cases hy with
    | unsigned m =>
      obtain ⟨rfl, hst⟩ := Decimal.ofNat_append_inj hs ht h
      exact ⟨rfl, hst⟩
    | _ => cases hmark
  | negative n =>
    intro y hy s t hs ht h
    have hmark := (Whole.negative n).mark_eq hy h
    cases hy with
    | negative m =>
      obtain ⟨rfl, hst⟩ := Decimal.ofNat_append_inj hs ht (List.cons.inj h).2
      exact ⟨rfl, hst⟩
    | _ => cases hmark
  | string a =>
    intro y hy s t _ _ h
    have hmark := (Whole.string a).mark_eq hy h
    cases hy with
    | string b =>
      obtain ⟨rfl, hst⟩ := renderString_append_inj h
      exact ⟨rfl, hst⟩
    | _ => cases hmark
  | array hitems ih =>
    intro y hy s t _ _ h
    have hmark := (Whole.array hitems).mark_eq hy h
    cases hy with
    | array hothers =>
      obtain ⟨rfl, hst⟩ := renderItems_append_inj hitems ih hothers (List.cons.inj h).2
      exact ⟨rfl, hst⟩
    | _ => cases hmark
  | object hmembers ih =>
    intro y hy s t _ _ h
    have hmark := (Whole.object hmembers).mark_eq hy h
    cases hy with
    | object hothers =>
      obtain ⟨rfl, hst⟩ := renderMembers_append_inj hmembers ih hothers (List.cons.inj h).2
      exact ⟨rfl, hst⟩
    | _ => cases hmark

/-- An object ends where its text ends, whatever stands behind it. -/
theorem render_object_append_inj {members others : List (String × Json)}
    (hmembers : ∀ member ∈ members, Whole member.2) (hothers : ∀ other ∈ others, Whole other.2)
    {s t : List Char} (h : render (.object members) ++ s = render (.object others) ++ t) :
    members = others ∧ s = t :=
  renderMembers_append_inj hmembers (fun member hmember => (hmembers member hmember).apart) hothers
    (List.cons.inj h).2

end ImageFreshness.Json
