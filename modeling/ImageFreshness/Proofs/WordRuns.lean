import ImageFreshness.Proofs.WordValues
import Mathlib.Data.List.Chain

/-!
# Words as runs

Metadata is split where digits meet other characters, and nowhere else.  So the words of a text are
runs that make up the text, of digits and of other characters in turn, and there is no other way to
take a text apart like this (`Word.split_maximal`).
-/

namespace ImageFreshness.Word

def isNumber : Word → Bool
  | .number _ => true
  | .text _ => false

/-- The word of these characters, all of them digits or none. -/
def ofRun (digits : Bool) (chars : List Char) : Word :=
  if digits then .number chars else .text chars

/-- Runs that make up a text and take turns. -/
structure IsMaximalSplit (text : String) (ws : List Word) : Prop where
  concat : ws.flatMap chars = text.toList
  isRun : ∀ w ∈ ws, w.IsRun
  alternate : ws.IsChain fun v w => v.isNumber ≠ w.isNumber

@[simp] theorem isNumber_ofRun (digits : Bool) (cs : List Char) :
    (ofRun digits cs).isNumber = digits := by
  cases digits <;> rfl

@[simp] theorem chars_ofRun (digits : Bool) (cs : List Char) : (ofRun digits cs).chars = cs := by
  cases digits <;> rfl

@[simp] theorem ofRun_isNumber_chars (w : Word) : ofRun w.isNumber w.chars = w := by
  cases w <;> rfl

theorem isRun_iff (w : Word) :
    w.IsRun ↔ w.chars ≠ [] ∧ ∀ c ∈ w.chars, c.isDigit = w.isNumber := by
  cases w with
  | number digits => exact ⟨fun h => ⟨h.nonempty, h.digit⟩, fun h => ⟨h.1, h.2⟩⟩
  | text chars => exact Iff.rfl

/-! ### One more character in front -/

section Front

variable {c : Char} {cs : List Char}

/-- A character goes on with the first word if that is of its kind. -/
theorem split_cons_of_eq {w : Word} {rest : List Word} (hsplit : split cs = w :: rest)
    (hkind : w.isNumber = c.isDigit) :
    split (c :: cs) = ofRun c.isDigit (c :: w.chars) :: rest := by
  rw [split, hsplit, ← hkind]
  cases w <;> rfl

/-- A character stands alone before a word of the other kind, and at the end of the text. -/
theorem split_cons_of_ne (h : ∀ w ∈ (split cs).head?, w.isNumber ≠ c.isDigit) :
    split (c :: cs) = ofRun c.isDigit [c] :: split cs := by
  rw [split]
  split
  · next digits rest hsplit hc =>
    have hkind := h (.number digits) (by rw [hsplit]; rfl)
    exact absurd hc.symm hkind
  · next chars rest hsplit hc =>
    have hkind := h (.text chars) (by rw [hsplit]; rfl)
    exact absurd hc.symm hkind
  · next hc _ => rw [hc]; rfl
  · next hc _ => rw [hc]; rfl

/-- Either the first word goes on, or a new one starts. -/
theorem split_cons_cases (c : Char) (cs : List Char) :
    (∃ w rest, split cs = w :: rest ∧ w.isNumber = c.isDigit ∧
      split (c :: cs) = ofRun c.isDigit (c :: w.chars) :: rest) ∨
    ((∀ w ∈ (split cs).head?, w.isNumber ≠ c.isDigit) ∧
      split (c :: cs) = ofRun c.isDigit [c] :: split cs) := by
  by_cases h : ∀ w ∈ (split cs).head?, w.isNumber ≠ c.isDigit
  · right
    exact ⟨h, split_cons_of_ne h⟩
  · left
    simp only [not_forall, ne_eq, not_not] at h
    obtain ⟨w, hw, hkind⟩ := h
    obtain ⟨rest, hsplit⟩ := List.head?_eq_some_iff.mp hw
    exact ⟨w, rest, hsplit, hkind, split_cons_of_eq hsplit hkind⟩

end Front

/-! ### The words of a text -/

theorem flatMap_chars_split (cs : List Char) : (split cs).flatMap chars = cs := by
  induction cs with
  | nil => rfl
  | cons c cs ih =>
    rcases split_cons_cases c cs with ⟨w, rest, hsplit, -, hcons⟩ | ⟨-, hcons⟩
    · rw [hsplit, List.flatMap_cons] at ih
      rw [hcons, List.flatMap_cons, chars_ofRun, List.cons_append, ih]
    · rw [hcons, List.flatMap_cons, chars_ofRun, ih, List.singleton_append]

theorem isChain_split (cs : List Char) :
    (split cs).IsChain fun v w => v.isNumber ≠ w.isNumber := by
  induction cs with
  | nil => exact List.isChain_nil
  | cons c cs ih =>
    rcases split_cons_cases c cs with ⟨w, rest, hsplit, hkind, hcons⟩ | ⟨hkind, hcons⟩
    · -- the first word has got longer, but is still of the same kind
      rw [hsplit, List.isChain_cons] at ih
      rw [hcons, List.isChain_cons, isNumber_ofRun, ← hkind]
      exact ih
    · rw [hcons, List.isChain_cons, isNumber_ofRun]
      constructor
      · intro w hw
        exact (hkind w hw).symm
      · exact ih

/-! ### Runs that take turns -/

/-- A run in front of words of which the first is of the other kind is a word. -/
theorem split_run_append {digits : Bool} {run : List Char} (hne : run ≠ [])
    (hrun : ∀ c ∈ run, c.isDigit = digits) {cs : List Char}
    (hnext : ∀ w ∈ (split cs).head?, digits ≠ w.isNumber) :
    split (run ++ cs) = ofRun digits run :: split cs := by
  induction run with
  | nil => exact absurd rfl hne
  | cons c run ih =>
    obtain ⟨rfl, hrest⟩ := List.forall_mem_cons.mp hrun
    cases run with
    | nil =>
      apply split_cons_of_ne
      intro w hw
      exact (hnext w hw).symm
    | cons d run =>
      have hsplit := ih (List.cons_ne_nil d run) hrest
      rw [List.cons_append, split_cons_of_eq hsplit (isNumber_ofRun _ _), chars_ofRun]

theorem split_flatMap_chars {ws : List Word} (hruns : ∀ w ∈ ws, w.IsRun)
    (halternate : ws.IsChain fun v w => v.isNumber ≠ w.isNumber) :
    split (ws.flatMap chars) = ws := by
  induction ws with
  | nil => rfl
  | cons w ws ih =>
    obtain ⟨hw, hws⟩ := List.forall_mem_cons.mp hruns
    obtain ⟨hnext, halternate⟩ := List.isChain_cons.mp halternate
    obtain ⟨hne, hkind⟩ := w.isRun_iff.mp hw
    have hsplit := ih hws halternate
    rw [← hsplit] at hnext
    rw [List.flatMap_cons, split_run_append hne hkind hnext, hsplit, ofRun_isNumber_chars]

/-- The words of a text are its one maximal split, so different texts have different words. -/
theorem split_maximal :
    (∀ (text : String) (ws : List Word), split text.toList = ws ↔ IsMaximalSplit text ws) ∧
      Function.Injective fun text : String => split text.toList := by
  constructor
  · intro text ws
    constructor
    · rintro rfl
      exact ⟨flatMap_chars_split _, isRun_of_mem_split _, isChain_split _⟩
    · intro h
      rw [← h.concat]
      exact split_flatMap_chars h.isRun h.alternate
  · intro text other heq
    apply String.toList_injective
    calc
      text.toList = (split text.toList).flatMap chars := (flatMap_chars_split _).symm
      _ = (split other.toList).flatMap chars := congrArg (List.flatMap chars) heq
      _ = other.toList := flatMap_chars_split _

end ImageFreshness.Word
