import ImageFreshness.Json.Token
import Mathlib.Data.Char

/-!
# Texts of a string

A string may be spelled in several ways (`Spells`), all of which are read back; the compact text is
one of them (`spells_flatMap_escape`).  What may stand between quotes need not spell anything, as it
may hold half of a surrogate pair; to a reader that wants the characters it is malformed then, and
never anything else (`Quotable.decided`).
-/

namespace ImageFreshness.Json

/-! ### Spellings -/

/-- The characters of a string, and a text between quotes that stands for them. -/
inductive Spells : List Char → List Char → Prop where
  | nil : Spells [] []
  | plain {c : Char} {cs text : List Char} : c ≠ '"' → c ≠ '\\' → 0x20 ≤ c.toNat →
      Spells cs text → Spells (c :: cs) (c :: text)
  | escaped {letter c : Char} {cs text : List Char} : unescape letter = some c →
      Spells cs text → Spells (c :: cs) ('\\' :: letter :: text)
  | code {a b c d : Char} {n : Nat} {cs text : List Char} : hex4 a b c d = some n →
      isLeading n = false → isTrailing n = false → Spells cs text →
      Spells (Char.ofNat n :: cs) ('\\' :: 'u' :: a :: b :: c :: d :: text)
  | pair {a b c d e f g h : Char} {n m : Nat} {cs text : List Char} : hex4 a b c d = some n →
      isLeading n = true → hex4 e f g h = some m → isTrailing m = true → Spells cs text →
      Spells (ofPair n m :: cs)
        ('\\' :: 'u' :: a :: b :: c :: d :: '\\' :: 'u' :: e :: f :: g :: h :: text)

/-- A string without characters that have to be escaped may stand for itself. -/
theorem Spells.of_plain {cs : List Char}
    (h : cs.all (fun c => c != '"' && c != '\\' && decide (0x20 ≤ c.toNat)) = true) :
    Spells cs cs := by
  induction cs with
  | nil => exact .nil
  | cons c cs ih =>
    simp only [List.all_cons, Bool.and_eq_true, bne_iff_ne, ne_eq, decide_eq_true_eq] at h
    obtain ⟨⟨⟨hquote, hbackslash⟩, hprintable⟩, hrest⟩ := h
    exact .plain hquote hbackslash hprintable (ih (by simpa using hrest))

theorem ne_u_of_unescape {letter c : Char} (h : unescape letter = some c) : letter ≠ 'u' := by
  rintro rfl
  cases h

/-- A text that may stand between quotes.  The halves of surrogate pairs need not match in it, so it
    need not stand for any characters. -/
inductive Quotable : List Char → Prop where
  | nil : Quotable []
  | plain {c : Char} {text : List Char} : c ≠ '"' → c ≠ '\\' → 0x20 ≤ c.toNat → Quotable text →
      Quotable (c :: text)
  | escaped {letter c : Char} {text : List Char} : unescape letter = some c → Quotable text →
      Quotable ('\\' :: letter :: text)
  | code {a b c d : Char} {n : Nat} {text : List Char} : hex4 a b c d = some n → Quotable text →
      Quotable ('\\' :: 'u' :: a :: b :: c :: d :: text)

theorem Quotable.skipString {text : List Char} (h : Quotable text) (rest : List Char) :
    skipString (text ++ '"' :: rest) = .ok rest := by
  induction h with
  | nil => rfl
  | @plain c text hquote hbackslash hprintable _ ih =>
    have hplain : ¬ c.toNat < 0x20 := Nat.not_lt.mpr hprintable
    rw [List.cons_append, Json.skipString, if_neg hplain, ih] <;> simp_all
  | escaped hletter _ ih =>
    have hne := ne_u_of_unescape hletter
    rw [List.cons_append, List.cons_append, Json.skipString, hletter] <;> simp_all
  | code hcode _ ih =>
    simp only [List.cons_append, Json.skipString, hcode]
    exact ih

theorem Spells.quotable {cs text : List Char} (h : Spells cs text) : Quotable text := by
  induction h with
  | nil => exact .nil
  | plain hquote hbackslash hprintable _ ih => exact .plain hquote hbackslash hprintable ih
  | escaped hletter _ ih => exact .escaped hletter ih
  | code hcode _ _ _ ih => exact .code hcode ih
  | pair hleading _ htrailing _ _ ih => exact .code hleading (.code htrailing ih)

theorem Spells.readString {cs text : List Char} (h : Spells cs text) (rest : List Char) :
    readString (text ++ '"' :: rest) = .ok cs := by
  induction h with
  | nil => rfl
  | @plain c cs text hquote hbackslash hprintable _ ih =>
    have hplain : ¬ c.toNat < 0x20 := Nat.not_lt.mpr hprintable
    rw [List.cons_append, Json.readString, if_neg hplain, ih] <;> simp_all [Except.map]
  | escaped hletter _ ih =>
    have hne := ne_u_of_unescape hletter
    rw [List.cons_append, List.cons_append, Json.readString, hletter] <;> simp_all [Except.map]
  | code hcode hleading htrailing _ ih =>
    simp only [List.cons_append, Json.readString, hcode, hleading, htrailing, ih]
    rfl
  | @pair a b c d e f g h n m cs text hcode hleading hcode' htrailing _ ih =>
    have hfirst : isTrailing n = false := by
      simp only [isLeading, isTrailing, Bool.and_eq_true, decide_eq_true_eq,
        Bool.and_eq_false_iff, decide_eq_false_iff_not] at hleading ⊢
      omega
    simp only [List.cons_append, Json.readString, hcode, hleading, hfirst, hcode', htrailing, ih]
    rfl

theorem Token.lexString_of_spells {s : String} {text : List Char} (h : Spells s.toList text)
    (rest : List Char) : Token.lexString (text ++ '"' :: rest) = ⟨.string (.ok s), rest⟩ := by
  simp only [Token.lexString, h.quotable.skipString, h.readString, Except.map, String.ofList_toList]

/-! ### Halves of surrogate pairs -/

theorem readString_plain {c : Char} (hquote : c ≠ '"') (hbackslash : c ≠ '\\')
    (hprintable : 0x20 ≤ c.toNat) (cs : List Char) :
    readString (c :: cs) = (readString cs).map (c :: ·) := by
  rw [readString, if_neg (Nat.not_lt.mpr hprintable)] <;> simp_all

theorem readString_escaped {letter c : Char} (h : unescape letter = some c) (cs : List Char) :
    readString ('\\' :: letter :: cs) = (readString cs).map (c :: ·) := by
  have hne := ne_u_of_unescape h
  rw [readString, h] <;> simp_all

/-- A text stands for some characters, or is malformed to a reader that wants them. -/
def Decided (text : List Char) : Prop :=
  (∃ cs, Spells cs text) ∨ ∀ rest, readString (text ++ '"' :: rest) = .error .malformed

theorem Decided.map {text text' : List Char} {f : List Char → List Char} (h : Decided text)
    (hspells : ∀ cs, Spells cs text → Spells (f cs) text')
    (hread : ∀ rest, readString (text' ++ '"' :: rest) =
      (readString (text ++ '"' :: rest)).map f) : Decided text' := by
  rcases h with ⟨cs, hcs⟩ | hmalformed
  · left
    exact ⟨f cs, hspells cs hcs⟩
  · right
    intro rest
    rw [hread, hmalformed]
    rfl

/-- The first half of a surrogate pair is malformed unless the second half follows it. -/
theorem decided_of_isLeading {a b c d : Char} {n : Nat} {text : List Char}
    (hcode : hex4 a b c d = some n) (hleading : isLeading n = true)
    (htrailing : isTrailing n = false) (htext : Quotable text)
    (hbehind : ∀ e f g h rest, text = '\\' :: 'u' :: e :: f :: g :: h :: rest → Decided rest) :
    Decided ('\\' :: 'u' :: a :: b :: c :: d :: text) := by
  cases htext with
  | nil =>
    right
    intro rest
    simp [readString, hcode, hleading, htrailing]
  | plain hquote hbackslash =>
    right
    intro rest
    simp [readString, hcode, hleading, htrailing, hbackslash]
  | escaped hletter =>
    right
    intro rest
    have hne := ne_u_of_unescape hletter
    simp [readString, hcode, hleading, htrailing, hne]
  | @code e f g h m text hcode' =>
    cases hsecond : isTrailing m with
    | false =>
      right
      intro rest
      simp [readString, hcode, hleading, htrailing, hcode', hsecond]
    | true =>
      apply (hbehind e f g h text rfl).map
      · exact fun _ hspells => .pair hcode hleading hcode' hsecond hspells
      · intro rest
        simp [readString, hcode, hleading, htrailing, hcode', hsecond]

/-- What may stand between quotes stands for some characters or is malformed. -/
theorem Quotable.decided {text : List Char} (h : Quotable text) : Decided text := by
  -- reading goes on behind the second half of a pair, so this has to be known there as well
  suffices Decided text ∧ ∀ a b c d rest,
      text = '\\' :: 'u' :: a :: b :: c :: d :: rest → Decided rest from this.1
  induction h with
  | nil => exact ⟨Or.inl ⟨[], .nil⟩, nofun⟩
  | plain hquote hbackslash hprintable _ ih =>
    constructor
    · apply ih.1.map
      · exact fun _ hspells => .plain hquote hbackslash hprintable hspells
      · exact fun _ => readString_plain hquote hbackslash hprintable _
    · intro a b c d rest hcons
      exact absurd (List.cons.inj hcons).1 hbackslash
  | escaped hletter _ ih =>
    constructor
    · apply ih.1.map
      · exact fun _ hspells => .escaped hletter hspells
      · exact fun _ => readString_escaped hletter _
    · intro a b c d rest hcons
      exact absurd (List.cons.inj (List.cons.inj hcons).2).1 (ne_u_of_unescape hletter)
  | @code a b c d n text hcode htext ih =>
    constructor
    · cases htrailing : isTrailing n with
      | true =>
        right
        intro rest
        simp [readString, hcode, htrailing]
      | false =>
        cases hleading : isLeading n with
        | false =>
          apply ih.1.map
          · exact fun _ hspells => .code hcode hleading htrailing hspells
          · intro rest
            simp [readString, hcode, hleading, htrailing]
        | true => exact decided_of_isLeading hcode hleading htrailing htext ih.2
    · intro a b c d rest hcons
      simp only [List.cons.injEq, true_and] at hcons
      obtain ⟨-, -, -, -, rfl⟩ := hcons
      exact ih.1

/-! ### The compact text -/

theorem hex4_of_lt {n : Nat} (h : n < 0x20) :
    hex4 '0' '0' (Nat.digitChar (n / 16)) (Nat.digitChar (n % 16)) = some n := by
  revert n
  decide

theorem Spells.escape {cs text : List Char} (h : Spells cs text) (c : Char) :
    Spells (c :: cs) (escape c ++ text) := by
  unfold Json.escape
  split
  case h_8 hquote hbackslash _ _ _ _ _ =>
    split
    case isTrue hcontrol =>
      have hleading : isLeading c.toNat = false := by simp [isLeading]; omega
      have htrailing : isTrailing c.toNat = false := by simp [isTrailing]; omega
      have hcode := Spells.code (hex4_of_lt hcontrol) hleading htrailing h
      rwa [Char.ofNat_toNat] at hcode
    case isFalse hplain => exact .plain hquote hbackslash (Nat.not_lt.mp hplain) h
  all_goals exact .escaped rfl h

theorem spells_flatMap_escape (cs : List Char) : Spells cs (cs.flatMap escape) := by
  induction cs with
  | nil => exact .nil
  | cons c cs ih => exact ih.escape c

theorem renderString_append (s : String) (rest : List Char) :
    renderString s ++ rest = '"' :: (s.toList.flatMap escape ++ '"' :: rest) := by
  simp [renderString]

/-- A string is read back from its text, and nothing behind it is touched. -/
theorem Token.lexString_renderString (s : String) (rest : List Char) :
    Token.lexString (s.toList.flatMap escape ++ '"' :: rest) = ⟨.string (.ok s), rest⟩ :=
  lexString_of_spells (spells_flatMap_escape s.toList) rest

theorem renderString_append_inj {a b : String} {s t : List Char}
    (h : renderString a ++ s = renderString b ++ t) : a = b ∧ s = t := by
  rw [renderString_append, renderString_append, List.cons.injEq] at h
  have hlexed := congrArg Token.lexString h.2
  rw [Token.lexString_renderString, Token.lexString_renderString] at hlexed
  simpa using hlexed

end ImageFreshness.Json
