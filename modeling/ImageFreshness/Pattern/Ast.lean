/-!
# The form of patterns

What a pattern looks like once it has been read, before it is given a meaning.
-/

namespace ImageFreshness.Pattern

inductive Flag where
  | ignoreCase
  | multiLine
  | dotAll
  | swapGreed
  | unicode
  | crlf
  | verbose
  deriving DecidableEq, Repr

abbrev FlagChanges := List (Flag × Bool)

def FlagChanges.value? (changes : FlagChanges) (flag : Flag) : Option Bool := changes.lookup flag

structure Literal where
  char : Char
  /-- Whether it was given by two hexadecimal digits, which name a byte where Unicode is off. -/
  isByte : Bool
  deriving DecidableEq, Repr

inductive LetterClass where
  | digit
  | space
  | word
  deriving DecidableEq, Repr

inductive NamedClass where
  | alnum | alpha | ascii | blank | cntrl | digit | graph | lower | print | punct | space | upper
  | word | xdigit
  deriving DecidableEq, Repr

/-- A Unicode property as it is asked for: by one name, or by the name of a property and one of its
    values. -/
inductive PropertyQuery where
  | name (name : String)
  | value (property value : String)
  deriving DecidableEq, Repr

inductive Assertion where
  | startLine | endLine | startText | endText
  | wordBoundary | noWordBoundary | wordStart | wordEnd | wordStartHalf | wordEndHalf
  deriving DecidableEq, Repr

/-- How two sets in brackets are combined. -/
inductive SetOperation where
  | intersection | difference | symmetricDifference
  deriving DecidableEq, Repr

inductive ClassSet where
  | empty
  | literal (literal : Literal)
  | range (first last : Literal)
  | named (negated : Bool) (cls : NamedClass)
  | letter (negated : Bool) (cls : LetterClass)
  | property (negated : Bool) (query : PropertyQuery)
  | bracketed (negated : Bool) (set : ClassSet)
  | union (parts : List ClassSet)
  | operation (op : SetOperation) (left right : ClassSet)

inductive Ast where
  | empty
  | flags (changes : FlagChanges)
  | literal (literal : Literal)
  | dot
  | assertion (assertion : Assertion)
  | letter (negated : Bool) (cls : LetterClass)
  | property (negated : Bool) (query : PropertyQuery)
  | bracketed (negated : Bool) (set : ClassSet)
  /-- The pattern `least` to `most` times in a row. -/
  | repetition (least : Nat) (most : Option Nat) (body : Ast)
  | group (isCapture : Bool) (changes : FlagChanges) (body : Ast)
  | concat (parts : List Ast)
  | alternation (branches : List Ast)

/-- How many brackets, unions and operations are nested inside each other. -/
def ClassSet.depth : ClassSet → Nat
  | .bracketed _ set => set.depth + 1
  | .union parts => depths parts + 1
  | .operation _ left right => max left.depth right.depth + 1
  | _ => 0
where
  depths : List ClassSet → Nat
    | [] => 0
    | set :: rest => max set.depth (depths rest)

/-- How many groups, repetitions, sequences, choices and brackets are nested inside each other. -/
def Ast.depth : Ast → Nat
  | .bracketed _ set => set.depth + 1
  | .repetition _ _ body => body.depth + 1
  | .group _ _ body => body.depth + 1
  | .concat parts => depths parts + 1
  | .alternation branches => depths branches + 1
  | _ => 0
where
  depths : List Ast → Nat
    | [] => 0
    | ast :: rest => max ast.depth (depths rest)

end ImageFreshness.Pattern
