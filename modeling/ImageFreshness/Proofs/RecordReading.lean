import ImageFreshness.Json.Reader
import ImageFreshness.Proofs.JsonSkipping
import Mathlib.Data.List.Nodup

/-!
# Reading records from tokens

A reader of a record takes the members of an object as they come.  What the members that are left
still have to do is said for each field on its own (`Part.Fills`); taking one member preserves it
for all fields, whatever the name of the member (`Completes.readMember`), and from this it follows
that a whole object makes the record (`Completes.takes`).
-/

namespace ImageFreshness.Json

/-- The tokens of a member of an object, which is a name and the tokens of a value. -/
def memberTokens (m : String × List Token) : List Token := .string (.ok m.1) :: .colon :: m.2

/-- The tokens of an object with these members. -/
def objectTokens (members : List (String × List Token)) : List Token :=
  .openBrace :: elements .closeBrace (members.map memberTokens)

/-- What the members of an object say under a name: at most one has the name, its value says what is
    given, and nothing is given if there is none. -/
structure Gives {α : Type} (members : List (String × List Token)) (name : String)
    (Says : α → List Token → Prop) (given : Option α) : Prop where
  once : (members.map Prod.fst).count name ≤ 1
  said : ∀ m ∈ members, m.1 = name → ∃ a, given = some a ∧ Says a m.2
  omitted : name ∉ members.map Prod.fst → given = none

theorem length_lt_length_furtherElements (close : Token) (rest : List (List Token)) :
    rest.length < (furtherElements close rest).length := by
  induction rest with
  | nil => exact Nat.one_pos
  | cons element rest ih =>
    simp only [furtherElements, List.length_cons, List.length_append]
    omega

namespace Reader

/-! ### Single values -/

/-- The reader makes this value of the tokens, whatever stands behind them. -/
def Takes {α : Type} (reader : Reader α) (tokens : List Token) (a : α) : Prop :=
  ∀ rest, reader (tokens ++ rest) = .ok (a, rest)

theorem string_takes (s : String) : string.Takes [.string (.ok s)] s := fun _ => rfl

theorem bool_takes (b : Bool) : bool.Takes [.bool b] b := fun _ => rfl

theorem unsigned_takes (n : Nat) : unsigned.Takes [.number (.ok (.unsigned n))] n := fun _ => rfl

theorem Takes.refine {α β : Type} {reader : Reader α} {tokens : List Token} {a : α} {b : β}
    {refine? : α → Option β} (h : reader.Takes tokens a) (hrefine : refine? a = some b) :
    (reader.refine refine?).Takes tokens b := by
  intro rest
  simp only [Reader.refine, h rest, bind, Except.bind, hrefine, pure, Except.pure]

theorem Takes.run {α : Type} {reader : Reader α} {tokens : List Token} {a : α} {text : String}
    (h : reader.Takes tokens a) (htext : Token.lex text.toList = tokens) :
    reader.run text = .ok a := by
  have hread := h []
  rw [List.append_nil] at hread
  simp only [Reader.run, htext, hread, bind, Except.bind, checkEnd, pure, Except.pure]

def stringsTokens (ss : List String) : List Token :=
  .openBracket :: elements .closeBracket (ss.map fun s => [.string (.ok s)])

theorem moreStrings_takes (ss : List String) :
    moreStrings.Takes (furtherElements .closeBracket (ss.map fun s => [.string (.ok s)])) ss := by
  induction ss with
  | nil => exact fun _ => rfl
  | cons s ss ih =>
    intro rest
    simp only [List.map_cons, furtherElements, List.cons_append, List.nil_append, moreStrings,
      ih rest, bind, Except.bind, pure, Except.pure]

theorem strings_takes (ss : List String) : strings.Takes (stringsTokens ss) ss := by
  intro rest
  cases ss with
  | nil => rfl
  | cons s ss =>
    simp only [stringsTokens, List.map_cons, elements, List.cons_append, List.nil_append, strings,
      moreStrings_takes ss rest, bind, Except.bind, pure, Except.pure]

/-! ### Fields -/

/-- A field of a record, with where the record has it. -/
structure Part (σ : Type) where
  {α : Type}
  name : String
  isRequired : Bool
  reader : Reader α
  get : σ → α
  set : σ → α → σ
  get_set : ∀ record a, get (set record a) = a

variable {σ : Type}

def Part.field (p : Part σ) : Field σ :=
  { Field.optional p.name p.reader p.set with isRequired := p.isRequired }

namespace Part

variable {p : Part σ} {target record : σ} {seen : List String} {m : String × List Token}
  {members : List (String × List Token)}

/-- The field of a record becomes that of `target`: at most one member has its name, if none was
    seen before; its value is that of `target`; and where none is left, the record has it. -/
structure Fills (p : Part σ) (target : σ) (seen : List String) (record : σ)
    (members : List (String × List Token)) : Prop where
  once : (seen ++ members.map Prod.fst).count p.name ≤ 1
  takes : ∀ m ∈ members, m.1 = p.name → p.reader.Takes m.2 (p.get target)
  done : p.name ∉ members.map Prod.fst →
    p.get record = p.get target ∧ (p.isRequired = true → p.name ∈ seen)

namespace Fills

theorem notMem_seen (h : p.Fills target seen record (m :: members)) (hname : m.1 = p.name) :
    p.name ∉ seen := by
  intro hmem
  have honce := h.once
  rw [List.count_append, List.map_cons, hname, List.count_cons_self] at honce
  have hseen := List.count_pos_iff.mpr hmem
  omega

/-- A member of another name does nothing for the field. -/
theorem of_cons_ne (h : p.Fills target seen record (m :: members)) (hname : m.1 ≠ p.name) :
    p.Fills target seen record members := by
  constructor
  · have honce := h.once
    rwa [List.count_append, List.map_cons, List.count_cons_of_ne hname,
      ← List.count_append] at honce
  · exact fun other hother => h.takes other (List.mem_cons_of_mem _ hother)
  · intro hnone
    apply h.done
    rw [List.map_cons, List.mem_cons, not_or]
    exact ⟨Ne.symm hname, hnone⟩

/-- Another field does not matter to this one. -/
theorem of_get_eq (h : p.Fills target seen record members) {name : String} (hname : name ≠ p.name)
    {record' : σ} (hget : p.get record' = p.get record) :
    p.Fills target (name :: seen) record' members := by
  constructor
  · rw [List.cons_append, List.count_cons_of_ne hname]
    exact h.once
  · exact h.takes
  · intro hnone
    obtain ⟨hdone, hseen⟩ := h.done hnone
    exact ⟨hget.trans hdone, fun hrequired => List.mem_cons_of_mem _ (hseen hrequired)⟩

/-- The member of its name fills the field. -/
theorem of_cons_eq (h : p.Fills target seen record (m :: members)) (hname : m.1 = p.name) :
    p.Fills target (m.1 :: seen) (p.set record (p.get target)) members := by
  constructor
  · have honce := h.once
    rwa [List.map_cons, List.perm_middle.count_eq] at honce
  · exact fun other hother => h.takes other (List.mem_cons_of_mem _ hother)
  · intro _
    constructor
    · exact p.get_set record _
    · intro _
      rw [hname]
      exact List.mem_cons_self

/-- A field that may be missing becomes what is given. -/
theorem of_gives {β : Type} {Says : β → List Token → Prop} {given : Option β} {start : σ}
    {f : β → p.α} (h : Gives members p.name Says given) (hrequired : p.isRequired = false)
    (htarget : p.get target = given.elim (p.get start) f)
    (hreads : ∀ b tokens, Says b tokens → p.reader.Takes tokens (f b)) :
    p.Fills target [] start members := by
  constructor
  · exact h.once
  · intro m hm hname
    obtain ⟨b, hgiven, hsaid⟩ := h.said m hm hname
    rw [htarget, hgiven]
    exact hreads b m.2 hsaid
  · intro hnone
    constructor
    · rw [htarget, h.omitted hnone]
      rfl
    · simp [hrequired]

theorem of_gives_self {Says : p.α → List Token → Prop} {given : Option p.α} {start : σ}
    (h : Gives members p.name Says given) (hrequired : p.isRequired = false)
    (htarget : p.get target = given.getD (p.get start))
    (hreads : ∀ a tokens, Says a tokens → p.reader.Takes tokens a) :
    p.Fills target [] start members := by
  refine of_gives (f := id) h hrequired ?_ hreads
  rw [htarget]
  cases given with
  | none => rfl
  | some a => rfl

end Fills

end Part

/-! ### Records -/

/-- A record is what these fields hold, and no field is part of another one. -/
structure IsMadeOf (parts : List (Part σ)) : Prop where
  names : (parts.map Part.name).Nodup
  get_set_of_ne : ∀ p ∈ parts, ∀ q ∈ parts, q.name ≠ p.name →
    ∀ record a, q.get (p.set record a) = q.get record
  ext : ∀ x y, (∀ p ∈ parts, p.get x = p.get y) → x = y

/-- The members that are left of an object make `target` of a record. -/
structure Completes (parts : List (Part σ)) (target : σ) (seen : List String) (record : σ)
    (members : List (String × List Token)) : Prop where
  fills : ∀ p ∈ parts, p.Fills target seen record members
  unknown : ∀ m ∈ members, m.1 ∉ parts.map Part.name → IsValue m.2

namespace Completes

variable {parts : List (Part σ)} {target record : σ} {seen : List String}
  {m : String × List Token} {members : List (String × List Token)}

theorem of_cons_ne (h : Completes parts target seen record (m :: members))
    (hname : m.1 ∉ parts.map Part.name) : Completes parts target seen record members := by
  constructor
  · intro p hp
    apply (h.fills p hp).of_cons_ne
    intro heq
    exact hname (heq ▸ List.mem_map_of_mem hp)
  · exact fun other hother => h.unknown other (List.mem_cons_of_mem _ hother)

theorem of_cons_eq (h : Completes parts target seen record (m :: members))
    (hparts : IsMadeOf parts) {p : Part σ} (hp : p ∈ parts) (hname : m.1 = p.name) :
    Completes parts target (m.1 :: seen) (p.set record (p.get target)) members := by
  constructor
  · intro q hq
    by_cases hsame : q.name = p.name
    · obtain rfl : q = p := List.inj_on_of_nodup_map hparts.names hq hp hsame
      exact (h.fills q hq).of_cons_eq hname
    · have hother : m.1 ≠ q.name := fun heq => hsame (heq.symm.trans hname)
      exact ((h.fills q hq).of_cons_ne hother).of_get_eq hother
        (hparts.get_set_of_ne p hp q hq hsame record _)
  · exact fun other hother => h.unknown other (List.mem_cons_of_mem _ hother)

/-- A member is taken, and the others complete the record that it leads to. -/
theorem readMember (h : Completes parts target seen record (m :: members)) (hparts : IsMadeOf parts)
    (rest : List Token) :
    ∃ seen' record', Reader.member (parts.map Part.field) seen record m.1
        (.colon :: (m.2 ++ rest)) = .ok ((seen', record'), rest) ∧
      Completes parts target seen' record' members := by
  cases hfind : (parts.map Part.field).find? (·.name = m.1) with
  | none =>
    have hname : m.1 ∉ parts.map Part.name := by
      intro hmem
      obtain ⟨p, hp, heq⟩ := List.mem_map.mp hmem
      rw [List.find?_eq_none] at hfind
      exact hfind p.field (List.mem_map_of_mem hp) (decide_eq_true heq)
    refine ⟨seen, record, ?_, h.of_cons_ne hname⟩
    have hskipped := (h.unknown m List.mem_cons_self hname).skipValue rest
    simp only [Reader.member, hfind, colon, hskipped, bind, Except.bind, pure, Except.pure]
  | some field =>
    have hname : field.name = m.1 := by simpa using List.find?_some hfind
    obtain ⟨p, hp, rfl⟩ := List.mem_map.mp (List.mem_of_find?_eq_some hfind)
    have hname : m.1 = p.name := hname.symm
    refine ⟨m.1 :: seen, p.set record (p.get target), ?_, h.of_cons_eq hparts hp hname⟩
    have hnew : m.1 ∉ seen := hname ▸ (h.fills p hp).notMem_seen hname
    have hread : p.field.read record (m.2 ++ rest) = .ok (p.set record (p.get target), rest) := by
      have htaken := (h.fills p hp).takes m List.mem_cons_self hname rest
      simp only [Part.field, Field.optional, htaken, Except.map]
    simp only [Reader.member, hfind, if_neg hnew, colon, hread, bind, Except.bind, pure,
      Except.pure]

/-- Where no member is left, the record is complete. -/
theorem readEnd (h : Completes parts target seen record []) (hparts : IsMadeOf parts)
    (rest : List Token) :
    Reader.complete ((parts.map Part.field).filter (·.name ∉ seen)) record rest =
      .ok (target, rest) := by
  have htarget : record = target :=
    hparts.ext _ _ fun p hp => ((h.fills p hp).done List.not_mem_nil).1
  have hnone : ((parts.map Part.field).filter (·.name ∉ seen)).any (·.isRequired) = false := by
    rw [List.any_eq_false]
    intro field hfield hrequired
    obtain ⟨hmem, hunseen⟩ := List.mem_filter.mp hfield
    obtain ⟨p, hp, rfl⟩ := List.mem_map.mp hmem
    exact of_decide_eq_true hunseen (((h.fills p hp).done List.not_mem_nil).2 hrequired)
  rw [Reader.complete, hnone, htarget]
  rfl

theorem readMembers (h : Completes parts target seen record (m :: members))
    (hparts : IsMadeOf parts) {fuel : Nat} (hfuel : members.length < fuel) (rest : List Token) :
    Reader.members (parts.map Part.field) fuel seen record
        (memberTokens m ++ (furtherElements .closeBrace (members.map memberTokens) ++ rest)) =
      .ok (target, rest) := by
  induction members generalizing m seen record fuel with
  | nil =>
    cases fuel with
    | zero => omega
    | succ fuel =>
      obtain ⟨seen', record', hmember, hleft⟩ := h.readMember hparts (.closeBrace :: rest)
      simp only [List.map_nil, furtherElements, memberTokens, List.cons_append, List.nil_append,
        Reader.members, hmember, bind, Except.bind]
      exact hleft.readEnd hparts rest
  | cons next members ih =>
    cases fuel with
    | zero => omega
    | succ fuel =>
      obtain ⟨seen', record', hmember, hleft⟩ := h.readMember hparts
        (.comma :: (memberTokens next ++
          (furtherElements .closeBrace (members.map memberTokens) ++ rest)))
      rw [List.length_cons] at hfuel
      simp only [List.map_cons, furtherElements, memberTokens, List.cons_append, List.append_assoc,
        Reader.members, bind, Except.bind] at hmember ⊢
      rw [hmember]
      exact ih hleft (by omega)

/-- An object makes the record, in whatever order its members come. -/
theorem takes {start : σ} (h : Completes parts target [] start members)
    (hparts : IsMadeOf parts) :
    (Reader.record (parts.map Part.field) start).Takes (objectTokens members) target := by
  intro rest
  cases members with
  | nil =>
    have hcomplete := h.readEnd hparts rest
    simp only [List.not_mem_nil, not_false_eq_true, decide_true, List.filter_true] at hcomplete
    exact hcomplete
  | cons m members =>
    have hlength := length_lt_length_furtherElements .closeBrace (members.map memberTokens)
    rw [List.length_map] at hlength
    rw [objectTokens, List.map_cons, elements, List.cons_append, List.append_assoc]
    -- there are no more members than tokens
    have hfuel : members.length < (memberTokens m ++
        (furtherElements .closeBrace (members.map memberTokens) ++ rest)).length := by
      simp only [List.length_append]
      omega
    exact h.readMembers hparts hfuel rest

end Completes

end Reader

end ImageFreshness.Json
