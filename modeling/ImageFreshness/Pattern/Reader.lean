import ImageFreshness.Pattern.Brackets
import ImageFreshness.Unicode.Category
import ImageFreshness.Unicode.Property

/-!
# Reading patterns

`Ast.parse?` reads the text of a pattern.  Look-around and back-references are no patterns, nor is
one that is nested too deeply.
-/

namespace ImageFreshness.Pattern

open Text Unicode

/-! ### Repetitions -/

def readCount (verbose : Bool) (cs : List Char) : Option (Nat × List Char) :=
  match collect verbose Char.isDigit (cs.dropWhile isBlank) with
  | ([], _) => none
  | (digits, rest) =>
    let n := Decimal.value digits
    if n < 4294967296 then some (n, rest.dropWhile isBlank) else none

def readBounds (verbose : Bool) (cs : List Char) : Option ((Nat × Option Nat) × List Char) := do
  let (least, cs) ← readCount verbose (skip verbose cs)
  match cs with
  | '\x7d' :: rest => some ((least, some least), rest)
  | ',' :: rest =>
    match skip verbose rest with
    | '\x7d' :: rest => some ((least, none), rest)
    | rest => do
      let (most, rest) ← readCount verbose rest
      match rest with
      | '\x7d' :: rest => if least ≤ most then some ((least, some most), rest) else none
      | _ => none
  | _ => none

/-- Drops the mark of a repetition that prefers fewer rounds; it does not change what matches. -/
def dropLazyMark : List Char → List Char
  | '?' :: rest => rest
  | cs => cs

/-! ### Groups -/

def Flag.ofLetter? (c : Char) : Option Flag :=
  match c with
  | 'i' => some .ignoreCase
  | 'm' => some .multiLine
  | 's' => some .dotAll
  | 'U' => some .swapGreed
  | 'u' => some .unicode
  | 'R' => some .crlf
  | 'x' => some .verbose
  | _ => none

/-- Reads flags up to the sign behind them: the changes, and whether that sign opens a group.  Each
    flag may be given once, and a minus sign has to be followed by one. -/
def readFlags : Bool → Bool → FlagChanges → List Char → Option (FlagChanges × Bool × List Char)
  | _, _, _, [] => none
  | negated, justNegated, changes, c :: cs =>
    if c = ':' then if justNegated then none else some (changes.reverse, true, cs)
    else if c = ')' then
      if justNegated || changes.isEmpty then none else some (changes.reverse, false, cs)
    else if c = '-' then if negated then none else readFlags true true changes cs
    else do
      let flag ← Flag.ofLetter? c
      if (changes.value? flag).isSome then none
      else readFlags negated false ((flag, !negated) :: changes) cs

def isNameStart (c : Char) : Bool := c = '_' || alphabetic.contains c.toNat

def isNameChar (c : Char) : Bool :=
  isNameStart c || c = '.' || c = '[' || c = ']' ||
    (ofCategories ["Nd", "Nl", "No"]).contains c.toNat

def readName (cs : List Char) : Option (String × List Char) :=
  match cs.takeWhile (· ≠ '>'), cs.dropWhile (· ≠ '>') with
  | c :: name, _ :: rest =>
    if isNameStart c && name.all isNameChar then some (String.ofList (c :: name), rest) else none
  | _, _ => none

/-- What an opening parenthesis starts. -/
inductive GroupStart where
  | flags (changes : FlagChanges)
  | group (isCapture : Bool) (changes : FlagChanges)

/-- Reads what follows an opening parenthesis, `names` being the names of groups so far. -/
def readGroupStart (verbose : Bool) (names : List String) (cs : List Char) :
    Option (GroupStart × List String × List Char) :=
  match skip verbose cs with
  | '?' :: 'P' :: '<' :: rest => named rest
  | '?' :: '<' :: rest => named rest
  | '?' :: rest => do
    let (changes, isGroup, rest) ← readFlags false false [] rest
    return (if isGroup then .group false changes else .flags changes, names, rest)
  | rest => some (.group true [], names, rest)
where
  named (cs : List Char) : Option (GroupStart × List String × List Char) := do
    let (name, rest) ← readName cs
    if name ∈ names then none else some (.group true [], name :: names, rest)

/-! ### Sequences and choices -/

/-- A group that is being read. -/
structure Level where
  verbose : Bool
  branches : List Ast
  items : List Ast

namespace Level

def push (level : Level) (item : Ast) : Level := { level with items := item :: level.items }

def branch (level : Level) : Ast :=
  match level.items with
  | [] => .empty
  | [item] => item
  | items => .concat items.reverse

def nextBranch (level : Level) : Level :=
  { level with branches := level.branch :: level.branches, items := [] }

def finish (level : Level) : Ast :=
  match level.branches with
  | [] => level.branch
  | branches => .alternation (level.branch :: branches).reverse

/-- The group with its last item repeated; there has to be one, and flags cannot be repeated. -/
def repeatLast (level : Level) (least : Nat) (most : Option Nat) : Option Level :=
  match level.items with
  | [] | .flags _ :: _ => none
  | item :: items => some { level with items := .repetition least most item :: items }

end Level

/-- Reads a group up to its closing parenthesis, or all of a text: the pattern, the names of groups
    and what follows. -/
def readLevel : Nat → Bool → Level → List String → List Char →
    Option (Ast × List String × List Char)
  | 0, _, _, _, _ => none
  | fuel + 1, inGroup, level, names, cs =>
    match skip level.verbose cs with
    | [] => if inGroup then none else some (level.finish, names, [])
    | c :: cs =>
      match c with
      | ')' => if inGroup then some (level.finish, names, cs) else none
      | '|' => readLevel fuel inGroup level.nextBranch names cs
      | '(' => do
        let (start, names, cs) ← readGroupStart level.verbose names cs
        match start with
        | .flags changes =>
          let verbose := (changes.value? .verbose).getD level.verbose
          readLevel fuel inGroup ({ level with verbose }.push (.flags changes)) names cs
        | .group isCapture changes =>
          let verbose := (changes.value? .verbose).getD level.verbose
          let (body, names, cs) ← readLevel fuel true ⟨verbose, [], []⟩ names cs
          readLevel fuel inGroup (level.push (.group isCapture changes body)) names cs
      | '[' => do
        let (cls, cs) ← readClass level.verbose cs
        readLevel fuel inGroup (level.push cls) names cs
      | '?' => do readLevel fuel inGroup (← level.repeatLast 0 (some 1)) names (dropLazyMark cs)
      | '*' => do readLevel fuel inGroup (← level.repeatLast 0 none) names (dropLazyMark cs)
      | '+' => do readLevel fuel inGroup (← level.repeatLast 1 none) names (dropLazyMark cs)
      | '\x7b' => do
        let ((least, most), cs) ← readBounds level.verbose cs
        readLevel fuel inGroup (← level.repeatLast least most) names
          (dropLazyMark (skip level.verbose cs))
      | '\\' => do
        let (primitive, cs) ← readEscape level.verbose cs
        readLevel fuel inGroup (level.push primitive.toAst) names cs
      | '.' => readLevel fuel inGroup (level.push .dot) names cs
      | '^' => readLevel fuel inGroup (level.push (.assertion .startLine)) names cs
      | '$' => readLevel fuel inGroup (level.push (.assertion .endLine)) names cs
      | c => readLevel fuel inGroup (level.push (.literal ⟨c, false⟩)) names cs

def maxNesting : Nat := 250

/-- Reads a pattern.  Every step of the reader takes a character. -/
def Ast.parse? (cs : List Char) : Option Ast := do
  let (ast, _, _) ← readLevel (cs.length + 1) false ⟨false, [], []⟩ [] cs
  if ast.depth ≤ maxNesting then some ast else none

end ImageFreshness.Pattern
