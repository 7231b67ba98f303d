import ImageFreshness.Proofs.JsonStrings
import ImageFreshness.Text.Digits
import Mathlib.Data.List.Chain
import Mathlib.Data.List.TakeWhile

/-!
# Texts of tokens

Like a string, a number may be spelled in several ways, and white space may stand before any token.
`Spelled` tells which texts are spellings of some tokens, and `Spelled.lex` that lexing takes all of
them back to these tokens.  A number goes on as far as it can, so what follows it matters
(`Separated`).

Not every token denotes something: a number may be too large, and a string may hold half of a
surrogate pair.  `Shown` is the relation for all tokens, and `Shown.lex` what lexing makes of them.
-/

namespace ImageFreshness.Json

open Text

/-! ### Numbers -/

/-- A text that a number does not go on with. -/
def EndsNumber (cs : List Char) : Prop :=
  ∀ c ∈ cs.head?, c.isDigit = false ∧ c ≠ '.' ∧ c ≠ 'e' ∧ c ≠ 'E'

namespace Lexeme

inductive SpellsExponent (l : Lexeme) : List Char → Prop where
  | none : l.hasExponent = false → l.exponentMinus = false → l.exponent = [] →
      SpellsExponent l []
  | minus {mark : Char} : l.hasExponent = true → mark = 'e' ∨ mark = 'E' →
      l.exponentMinus = true → IsDigits l.exponent → SpellsExponent l (mark :: '-' :: l.exponent)
  | plus {mark : Char} : l.hasExponent = true → mark = 'e' ∨ mark = 'E' →
      l.exponentMinus = false → IsDigits l.exponent → SpellsExponent l (mark :: '+' :: l.exponent)
  | unsigned {mark : Char} : l.hasExponent = true → mark = 'e' ∨ mark = 'E' →
      l.exponentMinus = false → IsDigits l.exponent → SpellsExponent l (mark :: l.exponent)

inductive SpellsFraction (l : Lexeme) : List Char → Prop where
  | none : l.hasPoint = false → l.fraction = [] → SpellsFraction l []
  | point : l.hasPoint = true → IsDigits l.fraction → SpellsFraction l ('.' :: l.fraction)

/-- How a number is spelled. -/
inductive Spells (l : Lexeme) : List Char → Prop where
  | mk {fraction exponent : List Char} : IsDigits l.whole →
      (∀ rest, l.whole = '0' :: rest → rest = []) → l.SpellsFraction fraction →
      l.SpellsExponent exponent →
      Spells l ((if l.minus then ['-'] else []) ++ (l.whole ++ (fraction ++ exponent)))

variable {l : Lexeme} {text rest : List Char}

theorem scanDigits_append {digits : List Char} (h : IsDigits digits) (hrest : Stops rest) :
    scanDigits (digits ++ rest) = .ok (digits, rest) := by
  unfold scanDigits
  rw [takeWhile_digits_append h.digit hrest, dropWhile_digits_append h.digit hrest]
  cases digits with
  | nil => exact absurd rfl h.nonempty
  | cons c cs => rfl

theorem scanWhole_append {digits : List Char} (h : IsDigits digits)
    (hzero : ∀ rest, digits = '0' :: rest → rest = []) (hrest : Stops rest) :
    scanWhole (digits ++ rest) = .ok (digits, rest) := by
  unfold scanWhole
  rw [scanDigits_append h hrest]
  simp only [bind, Except.bind]
  split
  · next second more hdigits => cases hzero _ rfl
  · rfl

theorem SpellsExponent.scan (h : l.SpellsExponent text) (hrest : EndsNumber rest) :
    scanExponent (text ++ rest) = .ok ((l.hasExponent, l.exponentMinus, l.exponent), rest) := by
  have hstops : Stops rest := fun c hc => (hrest c hc).1
  cases h with
  | none hno hminus hexponent =>
    rw [hno, hminus, hexponent, List.nil_append]
    cases rest with
    | nil => rfl
    | cons c cs =>
      obtain ⟨-, -, hlower, hupper⟩ := hrest c rfl
      simp [scanExponent, hlower, hupper]
  | minus hhas hmark hminus hdigits =>
    simp [scanExponent, hmark, scanDigits_append hdigits hstops, hhas, hminus, Except.map]
  | plus hhas hmark hminus hdigits =>
    simp [scanExponent, hmark, scanDigits_append hdigits hstops, hhas, hminus, Except.map]
  | unsigned hhas hmark hminus hdigits =>
    have hdigit : ∀ c more, l.exponent ++ rest = c :: more → c.isDigit = true := by
      intro c more hcons
      cases hexponent : l.exponent with
      | nil => exact absurd hexponent hdigits.nonempty
      | cons d ds =>
        rw [hexponent, List.cons_append, List.cons.injEq] at hcons
        rw [← hcons.1]
        exact hdigits.digit d (by simp [hexponent])
    simp only [List.cons_append, scanExponent, if_pos hmark]
    split
    · next more hcons => cases hdigit _ _ hcons
    · next more hcons => cases hdigit _ _ hcons
    · simp [scanDigits_append hdigits hstops, hhas, hminus, Except.map]

theorem SpellsExponent.stops (h : l.SpellsExponent text) (hrest : EndsNumber rest) :
    Stops (text ++ rest) := by
  have hletter {mark : Char} (hmark : mark = 'e' ∨ mark = 'E') : mark.isDigit = false := by
    rcases hmark with rfl | rfl
    · rfl
    · rfl
  cases h with
  | none => exact fun c hc => (hrest c hc).1
  | minus _ hmark | plus _ hmark | unsigned _ hmark => exact stops_cons (hletter hmark) _

theorem SpellsExponent.ne_point (h : l.SpellsExponent text) (hrest : EndsNumber rest) :
    ∀ more, text ++ rest ≠ '.' :: more := by
  intro more hcons
  cases h with
  | none => exact (hrest '.' (by rw [← List.nil_append rest, hcons]; rfl)).2.1 rfl
  | minus _ hmark | plus _ hmark | unsigned _ hmark =>
    rw [List.cons_append, List.cons.injEq] at hcons
    rcases hmark with rfl | rfl
    · cases hcons.1
    · cases hcons.1

theorem SpellsFraction.scan (h : l.SpellsFraction text) (hstops : Stops rest)
    (hpoint : ∀ more, rest ≠ '.' :: more) :
    scanFraction (text ++ rest) = .ok ((l.hasPoint, l.fraction), rest) := by
  cases h with
  | none hno hfraction =>
    rw [List.nil_append, scanFraction, hno, hfraction]
    intro more hcons
    exact hpoint more hcons
  | point hhas hdigits =>
    simp [scanFraction, scanDigits_append hdigits hstops, hhas, Except.map]

theorem SpellsFraction.stops (h : l.SpellsFraction text) (hrest : Stops rest) :
    Stops (text ++ rest) := by
  cases h with
  | none => exact hrest
  | point => exact stops_cons rfl _

/-- A number is read as far as it goes. -/
theorem Spells.scan (h : l.Spells text) (hrest : EndsNumber rest) :
    scan (text ++ rest) = .ok (l, rest) := by
  obtain @⟨fraction, exponent, hwhole, hzero, hfraction, hexponent⟩ := h
  have hstops := hexponent.stops hrest
  have hscanWhole : scanWhole (l.whole ++ (fraction ++ (exponent ++ rest))) =
      .ok (l.whole, fraction ++ (exponent ++ rest)) :=
    scanWhole_append hwhole hzero (hfraction.stops hstops)
  have hscanFraction := hfraction.scan hstops (hexponent.ne_point hrest)
  have hscanExponent := hexponent.scan hrest
  -- this tells apart the two cases in which a sign is looked for
  have hsign : ∀ more, l.whole ++ (fraction ++ (exponent ++ rest)) ≠ '-' :: more := by
    intro more hcons
    cases hdigits : l.whole with
    | nil => exact absurd hdigits hwhole.nonempty
    | cons d ds =>
      rw [hdigits, List.cons_append, List.cons.injEq] at hcons
      have hdigit := hwhole.digit d (by simp [hdigits])
      rw [hcons.1] at hdigit
      cases hdigit
  unfold Lexeme.scan
  cases hminus : l.minus with
  | true =>
    simp only [if_true, List.append_assoc, List.cons_append, List.nil_append, hscanWhole, bind,
      Except.bind, hscanFraction, hscanExponent, pure, Except.pure, ← hminus]
  | false =>
    simp only [Bool.false_eq_true, if_false, List.append_assoc, List.nil_append, hscanWhole, bind,
      Except.bind, hscanFraction, hscanExponent, pure, Except.pure]
    rw [← hminus]

/-- A number of digits only spells itself. -/
theorem Spells.of_digits (minus : Bool) {digits : List Char} (h : IsDigits digits)
    (hzero : ∀ rest, digits = '0' :: rest → rest = []) :
    Spells ⟨minus, digits, [], false, false, [], false⟩
      ((if minus then ['-'] else []) ++ digits) := by
  have hspells : Spells ⟨minus, digits, [], false, false, [], false⟩ _ :=
    .mk h hzero (.none rfl rfl) (.none rfl rfl rfl)
  rwa [List.append_nil, List.append_nil] at hspells

theorem Spells.head (h : l.Spells text) :
    ∃ c rest, text = c :: rest ∧ (c = '-' ∨ c.isDigit = true) := by
  obtain @⟨fraction, exponent, hwhole, -, -, -⟩ := h
  cases hminus : l.minus with
  | true => exact ⟨'-', _, rfl, Or.inl rfl⟩
  | false =>
    cases hdigits : l.whole with
    | nil => exact absurd hdigits hwhole.nonempty
    | cons d ds => exact ⟨d, _, rfl, Or.inr (hwhole.digit d (by simp [hdigits]))⟩

end Lexeme

/-! ### Tokens -/

namespace Token

/-- How a token is spelled. -/
inductive Spells : Token → List Char → Prop where
  | openBrace : Spells .openBrace ['\x7b']
  | closeBrace : Spells .closeBrace ['\x7d']
  | openBracket : Spells .openBracket ['[']
  | closeBracket : Spells .closeBracket [']']
  | colon : Spells .colon [':']
  | comma : Spells .comma [',']
  | null : Spells .null "null".toList
  | true : Spells (.bool true) "true".toList
  | false : Spells (.bool false) "false".toList
  | number {l : Lexeme} {n : Number} {text : List Char} : l.Spells text → l.value? = .ok n →
      Spells (.number (.ok n)) text
  | string {s : String} {text : List Char} : Json.Spells s.toList text →
      Spells (.string (.ok s)) ('"' :: (text ++ ['"']))

theorem Spells.of_plain {s : String} (h : s.toList.all (fun c => c != '"' && c != '\\' &&
    decide (0x20 ≤ c.toNat)) = Bool.true) : Spells (.string (.ok s)) ('"' :: (s.toList ++ ['"'])) :=
  .string (.of_plain h)

def IsNumber : Token → Prop
  | .number _ => True
  | _ => False

/-- A token that may follow a value. -/
def IsSeparator : Token → Prop
  | .comma | .closeBracket | .closeBrace => True
  | _ => False

theorem lexOne_of_number {c : Char} (hc : c = '-' ∨ c.isDigit = true) (cs : List Char) :
    lexOne c cs = lexNumber (c :: cs) := by
  have hnumber : (c = '-' || c.isDigit) = true := by simpa using hc
  unfold lexOne
  split
  case h_11 => rw [if_pos hnumber]
  all_goals
    rcases hc with hc | hc
    · cases hc
    · cases hc

theorem isSpace_of_number {c : Char} (hc : c = '-' ∨ c.isDigit = true) : isSpace c = false := by
  by_contra h
  simp only [isSpace, Bool.not_eq_false, Bool.or_eq_true, decide_eq_true_eq] at h
  rcases h with ((rfl | rfl) | rfl) | rfl
  all_goals
    rcases hc with hc | hc
    · cases hc
    · cases hc

/-- How a token is spelled that need not denote anything. -/
inductive Shows : Token → List Char → Prop where
  | spelled {token : Token} {text : List Char} : token.Spells text → Shows token text
  | tooLarge {l : Lexeme} {fault : Fault} {text : List Char} : l.Spells text →
      l.value? = .error fault → Shows (.number (.error fault)) text
  | unpaired {text : List Char} : Quotable text → (∀ cs, ¬ Json.Spells cs text) →
      Shows (.string (.error .malformed)) ('"' :: (text ++ ['"']))

theorem lexOne_lexeme {l : Lexeme} {text rest : List Char} (h : l.Spells text)
    (hrest : EndsNumber rest) :
    ∃ c cs, text = c :: cs ∧ isSpace c = Bool.false ∧
      lexOne c (cs ++ rest) = ⟨.number l.value?, rest⟩ := by
  obtain ⟨c, cs, rfl, hc⟩ := h.head
  refine ⟨c, cs, rfl, isSpace_of_number hc, ?_⟩
  rw [lexOne_of_number hc, lexNumber, ← List.cons_append, h.scan hrest]

theorem Spells.lexOne {token : Token} {text rest : List Char} (h : token.Spells text)
    (hrest : token.IsNumber → EndsNumber rest) :
    ∃ c cs, text = c :: cs ∧ isSpace c = Bool.false ∧ lexOne c (cs ++ rest) = ⟨token, rest⟩ := by
  cases h with
  | openBrace | closeBrace | openBracket | closeBracket | colon | comma | null | true | false =>
    exact ⟨_, _, rfl, rfl, rfl⟩
  | number hspells hvalue =>
    rw [← hvalue]
    exact lexOne_lexeme hspells (hrest trivial)
  | string hspells =>
    refine ⟨'"', _, rfl, rfl, ?_⟩
    rw [List.append_assoc]
    exact lexString_of_spells hspells rest

/-- A token is taken from the front of a text. -/
theorem Shows.lexOne {token : Token} {text rest : List Char} (h : token.Shows text)
    (hrest : token.IsNumber → EndsNumber rest) :
    ∃ c cs, text = c :: cs ∧ isSpace c = Bool.false ∧ lexOne c (cs ++ rest) = ⟨token, rest⟩ := by
  cases h with
  | spelled hspells => exact hspells.lexOne hrest
  | tooLarge hspells hvalue =>
    rw [← hvalue]
    exact lexOne_lexeme hspells (hrest trivial)
  | @unpaired body hquotable hnone =>
    refine ⟨'"', _, rfl, rfl, ?_⟩
    have hmalformed : readString (body ++ '"' :: rest) = .error .malformed := by
      rcases hquotable.decided with ⟨cs, hcs⟩ | hmalformed
      · exact absurd hcs (hnone cs)
      · exact hmalformed rest
    rw [List.append_assoc, List.singleton_append]
    change lexString _ = _
    simp only [lexString, hquotable.skipString, hmalformed, Except.map]

end Token

/-! ### Texts -/

/-- The texts of some tokens, with any white space around them. -/
inductive Spelled : List Token → List Char → Prop where
  | nil {space : List Char} : (∀ c ∈ space, Token.isSpace c = true) → Spelled [] space
  | cons {token : Token} {tokens : List Token} {space text rest : List Char} :
      (∀ c ∈ space, Token.isSpace c = true) → token.Spells text → Spelled tokens rest →
      Spelled (token :: tokens) (space ++ (text ++ rest))

theorem Spelled.word {token : Token} {tokens : List Token} {text rest : List Char}
    (htoken : token.Spells text) (h : Spelled tokens rest) :
    Spelled (token :: tokens) (text ++ rest) :=
  .cons (List.forall_mem_nil _) htoken h

theorem Spelled.space {tokens : List Token} {rest : List Char} (h : Spelled tokens rest) :
    Spelled tokens (' ' :: rest) := by
  have hspaces {space : List Char} (hspace : ∀ c ∈ space, Token.isSpace c = true) :
      ∀ c ∈ ' ' :: space, Token.isSpace c = true := List.forall_mem_cons.mpr ⟨rfl, hspace⟩
  cases h with
  | nil hspace => exact .nil (hspaces hspace)
  | cons hspace htoken hrest => exact .cons (hspaces hspace) htoken hrest

/-- What follows a number has to keep apart from it. -/
def Separated (token next : Token) : Prop := token.IsNumber → next.IsSeparator

theorem endsNumber_of_isSpace {c : Char} (hc : Token.isSpace c = true) (cs : List Char) :
    EndsNumber (c :: cs) := by
  intro d hd
  cases hd
  simp only [Token.isSpace, Bool.or_eq_true, decide_eq_true_eq] at hc
  rcases hc with ((rfl | rfl) | rfl) | rfl <;> decide

theorem Token.Spells.endsNumber {token : Token} {text : List Char} (h : token.Spells text)
    (hseparator : token.IsSeparator) (rest : List Char) : EndsNumber (text ++ rest) := by
  intro c hc
  cases h with
  | comma | closeBracket | closeBrace =>
    cases hc
    decide
  | _ => cases hseparator

theorem Spelled.endsNumber {tokens : List Token} {text : List Char} (h : Spelled tokens text)
    (hfirst : ∀ token ∈ tokens.head?, token.IsSeparator) : EndsNumber text := by
  cases h with
  | nil hspace =>
    cases text with
    | nil => exact fun c hc => nomatch hc
    | cons c cs => exact endsNumber_of_isSpace (hspace c List.mem_cons_self) cs
  | @cons token tokens space text rest hspace htoken _ =>
    cases space with
    | nil => exact htoken.endsNumber (hfirst token rfl) rest
    | cons c cs => exact endsNumber_of_isSpace (hspace c List.mem_cons_self) _

/-- The texts in which some tokens are found, with any white space around them.  A number is as long
    as it can be. -/
inductive Shown : List Token → List Char → Prop where
  | nil {space : List Char} : (∀ c ∈ space, Token.isSpace c = true) → Shown [] space
  | cons {token : Token} {tokens : List Token} {space text rest : List Char} :
      (∀ c ∈ space, Token.isSpace c = true) → token.Shows text →
      (token.IsNumber → EndsNumber rest) → Shown tokens rest →
      Shown (token :: tokens) (space ++ (text ++ rest))

theorem Shown.word {token : Token} {tokens : List Token} {text rest : List Char}
    (htoken : token.Shows text) (hends : token.IsNumber → EndsNumber rest)
    (h : Shown tokens rest) : Shown (token :: tokens) (text ++ rest) :=
  .cons (List.forall_mem_nil _) htoken hends h

theorem Shown.lexAtMost {tokens : List Token} {text : List Char} (h : Shown tokens text)
    {fuel : Nat} (hfuel : text.length ≤ fuel) : Token.lexAtMost fuel text = tokens := by
  induction h generalizing fuel with
  | @nil space hspace =>
    cases fuel with
    | zero => rfl
    | succ fuel =>
      have hdrop : space.dropWhile Token.isSpace = [] :=
        List.dropWhile_eq_nil_iff.mpr hspace
      simp only [Token.lexAtMost, hdrop]
  | @cons token tokens space text rest hspace htoken hends _ ih =>
    obtain ⟨c, cs, rfl, hc, hlexed⟩ := htoken.lexOne hends
    have hdrop : (space ++ (c :: cs ++ rest)).dropWhile Token.isSpace = c :: (cs ++ rest) := by
      refine dropWhile_append hspace fun d hd => ?_
      cases hd
      exact hc
    -- the token takes a character at least, so the fuel lasts for the rest
    rw [List.length_append, List.length_append, List.length_cons] at hfuel
    cases fuel with
    | zero => omega
    | succ fuel =>
      simp only [Token.lexAtMost, hdrop, hlexed, ih (by omega : rest.length ≤ fuel)]

/-- Every text in which some tokens are found is split into them. -/
theorem Shown.lex {tokens : List Token} {text : List Char} (h : Shown tokens text) :
    Token.lex text = tokens :=
  h.lexAtMost le_rfl

theorem Spelled.shown {tokens : List Token} {text : List Char} (h : Spelled tokens text)
    (hseparated : tokens.IsChain Separated) : Shown tokens text := by
  induction h with
  | nil hspace => exact .nil hspace
  | cons hspace htoken hrest ih =>
    obtain ⟨hnext, hseparated⟩ := List.isChain_cons.mp hseparated
    refine .cons hspace (.spelled htoken) ?_ (ih hseparated)
    intro hnumber
    exact hrest.endsNumber fun next hmem => hnext next hmem hnumber

/-- Every text of some tokens is split into them. -/
theorem Spelled.lex {tokens : List Token} {text : List Char} (h : Spelled tokens text)
    (hseparated : tokens.IsChain Separated) : Token.lex text = tokens :=
  (h.shown hseparated).lex

end ImageFreshness.Json
