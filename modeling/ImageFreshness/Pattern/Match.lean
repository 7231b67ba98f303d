import ImageFreshness.Pattern.Expr

/-!
# Matching

`Expr.ends` takes a set of positions in a text and gives the positions where a match may end that
starts at one of them.  A set of positions is a number with one bit for each.
-/

namespace ImageFreshness.Pattern

open Unicode

/-- A set of positions: bit `i` stands for the position before the character with index `i`. -/
abbrev Positions := Nat

def positionsOf (set : CodeSet) : List Char → Positions
  | [] => 0
  | c :: cs => 2 * positionsOf set cs + (if set.contains c.toNat then 1 else 0)

def isWordChar (unicode : Bool) (c : Char) : Bool :=
  if unicode then wordChars.contains c.toNat else c.isAlphanum || c = '_'

def Look.holds (look : Look) (before after : Option Char) : Bool :=
  let word (unicode : Bool) (c : Option Char) := c.any (isWordChar unicode)
  match look with
  | .textStart => before.isNone
  | .textEnd => after.isNone
  | .lineStart => before.isNone || before = some '\n'
  | .lineEnd => after.isNone || after = some '\n'
  | .crlfStart => before.isNone || before = some '\n' || (before = some '\r' && after ≠ some '\n')
  | .crlfEnd => after.isNone || after = some '\r' || (after = some '\n' && before ≠ some '\r')
  | .wordBoundary u => word u before != word u after
  | .noWordBoundary u => word u before == word u after
  | .wordStart u => !word u before && word u after
  | .wordEnd u => word u before && !word u after
  | .wordStartHalf u => !word u before
  | .wordEndHalf u => !word u after

def Look.positions (look : Look) : Option Char → List Char → Positions
  | before, [] => if look.holds before none then 1 else 0
  | before, c :: cs =>
    2 * look.positions (some c) cs + (if look.holds before (some c) then 1 else 0)

/-- Applies `step` a number of times, or until it changes nothing. -/
def iterate (step : Positions → Positions) : Nat → Positions → Positions
  | 0, s => s
  | n + 1, s =>
    let next := step s
    if next = s then s else iterate step n next

/-- Collects what `step` reaches in up to a number of rounds, starting each round at the positions
    that the one before has added. -/
def accumulate (step : Positions → Positions) : Nat → Positions → Positions → Positions
  | 0, _, seen => seen
  | n + 1, fresh, seen =>
    let all := seen ||| step fresh
    if all = seen then seen else accumulate step n (all ^^^ seen) all

/-- The positions where matches end that start at one of `starts`. -/
def Expr.ends (text : List Char) (starts : Positions) : Expr → Positions
  | .oneOf set => 2 * (starts &&& positionsOf set text)
  | .look test => starts &&& test.positions none text
  | .concat parts => concatEnds starts parts
  | .choice branches => choiceEnds starts branches
  | .times least most body =>
    let reached := iterate (fun s => body.ends text s) least starts
    let rounds := match most with
      | some most => most - least
      | none => text.length + 1
    accumulate (fun s => body.ends text s) rounds reached reached
  | .capture body => body.ends text starts
where
  concatEnds (starts : Positions) : List Expr → Positions
    | [] => starts
    | expr :: rest => concatEnds (expr.ends text starts) rest
  choiceEnds (starts : Positions) : List Expr → Positions
    | [] => 0
    | expr :: rest => expr.ends text starts ||| choiceEnds starts rest

def Expr.occursIn (expr : Expr) (text : List Char) : Bool :=
  expr.ends text (Nat.pow 2 (text.length + 1) - 1) ≠ 0

end ImageFreshness.Pattern
