import ImageFreshness.Json.Parse
import ImageFreshness.Json.Skip

/-!
# Reading JSON of a known shape

A `Reader` takes a value of one shape from the front of some tokens.  It reads from left to right
and stops at the first fault, be it in the text or in the shape.

A record is read from an object, whose unknown members are passed over, or from an array that
lists its fields in order.  Fields that are missing keep the value they have in the record that
the reader starts from, unless they are required.
-/

namespace ImageFreshness.Json

/-- Takes a value of one shape from the front of some tokens. -/
abbrev Reader (α : Type) := List Token → Except Fault (α × List Token)

namespace Reader

def string : Reader String
  | [] => .error .unfinished
  | .string (.ok s) :: rest => .ok (s, rest)
  | token :: _ => .error token.mismatch

def bool : Reader Bool
  | [] => .error .unfinished
  | .bool b :: rest => .ok (b, rest)
  | token :: _ => .error token.mismatch

def unsigned : Reader Nat
  | [] => .error .unfinished
  | .number (.ok (.unsigned n)) :: rest => .ok (n, rest)
  | token :: _ => .error token.mismatch

def moreStrings : Reader (List String)
  | [] => .error .unfinished
  | .closeBracket :: rest => .ok ([], rest)
  | [.comma] => .error .unfinished
  | .comma :: .string (.ok s) :: rest => do
    let (more, rest) ← moreStrings rest
    return (s :: more, rest)
  | .comma :: token :: _ => .error token.mismatch
  | _ => .error .malformed

def strings : Reader (List String)
  | [] => .error .unfinished
  | [.openBracket] => .error .unfinished
  | .openBracket :: .closeBracket :: rest => .ok ([], rest)
  | .openBracket :: .string (.ok s) :: rest => do
    let (more, rest) ← moreStrings rest
    return (s :: more, rest)
  | .openBracket :: token :: _ => .error token.mismatch
  | token :: _ => .error token.mismatch

def optional {α : Type} (reader : Reader α) : Reader (Option α)
  | .null :: rest => .ok (none, rest)
  | tokens => (reader tokens).map fun (a, rest) => (some a, rest)

/-- What `refine?` makes of a value; it may refuse it. -/
def refine {α β : Type} (reader : Reader α) (refine? : α → Option β) : Reader β := fun tokens => do
  let (a, rest) ← reader tokens
  match refine? a with
  | some b => return (b, rest)
  | none => .error .mismatched

/-- A field of a record: its name, whether it may be missing, and how a value updates the
    record. -/
structure Field (σ : Type) where
  name : String
  isRequired : Bool
  read : σ → Reader σ

def Field.optional {σ α : Type} (name : String) (reader : Reader α) (set : σ → α → σ) : Field σ :=
  ⟨name, false, fun record tokens =>
    (reader tokens).map fun (a, rest) => (set record a, rest)⟩

def Field.required {σ α : Type} (name : String) (reader : Reader α) (set : σ → α → σ) : Field σ :=
  { Field.optional name reader set with isRequired := true }

def colon : List Token → Except Fault (List Token)
  | [] => .error .unfinished
  | .colon :: rest => .ok rest
  | _ => .error .malformed

/-- The value of the member with this name: the record with it, and the names read so far. -/
def member {σ : Type} (fields : List (Field σ)) (seen : List String) (record : σ) (name : String)
    (tokens : List Token) : Except Fault ((List String × σ) × List Token) :=
  match fields.find? (·.name = name) with
  | none => do
    let rest ← skipValue (← colon tokens)
    return ((seen, record), rest)
  | some field =>
    if name ∈ seen then .error .mismatched
    else do
      let (record, rest) ← field.read record (← colon tokens)
      return ((name :: seen, record), rest)

def complete {σ : Type} (missing : List (Field σ)) (record : σ) (rest : List Token) :
    Except Fault (σ × List Token) :=
  if missing.any (·.isRequired) then .error .mismatched else .ok (record, rest)

/-- The members of an object from a name on, at most `fuel` of them, and its end. -/
def members {σ : Type} (fields : List (Field σ)) :
    Nat → List String → σ → List Token → Except Fault (σ × List Token)
  | _, _, _, [] => .error .unfinished
  | 0, _, _, _ => .error .unfinished
  | fuel + 1, seen, record, .string (.ok name) :: tokens => do
    let ((seen, record), tokens) ← member fields seen record name tokens
    match tokens with
    | [] => .error .unfinished
    | .closeBrace :: rest => complete (fields.filter (·.name ∉ seen)) record rest
    | .comma :: rest => members fields fuel seen record rest
    | _ => .error .malformed
  | _, _, _, .string (.error fault) :: _ => .error fault
  | _, _, _, .brokenString stop :: _ => .error stop.wanted
  | _, _, _, _ => .error .malformed

/-- The items of an array from some field on, and its end. -/
def items {σ : Type} : List (Field σ) → Bool → σ → List Token → Except Fault (σ × List Token)
  | _, _, _, [] => .error .unfinished
  | fields, _, record, .closeBracket :: rest => complete fields record rest
  | [], _, _, _ => .error .malformed
  | field :: fields, true, record, tokens => do
    let (record, rest) ← field.read record tokens
    items fields false record rest
  | field :: fields, false, record, .comma :: tokens =>
    match tokens with
    | [] => .error .unfinished
    | .closeBracket :: _ => .error .malformed
    | _ => do
      let (record, rest) ← field.read record tokens
      items fields false record rest
  | _, false, _, _ => .error .malformed

/-- A record, starting from the values its fields have when they are missing. -/
def record {σ : Type} (fields : List (Field σ)) (start : σ) : Reader σ
  | [] => .error .unfinished
  | .openBrace :: .closeBrace :: rest => complete fields start rest
  | .openBrace :: rest => members fields rest.length [] start rest
  | .openBracket :: rest => items fields true start rest
  | token :: _ => .error token.mismatch

def run {α : Type} (reader : Reader α) (text : String) : Except Fault α := do
  let (value, rest) ← reader (Token.lex text.toList)
  checkEnd rest
  return value

def runBytes {α : Type} (reader : Reader α) (bytes : ByteArray) : Except Fault α := do
  let (value, rest) ← reader (Token.lexBytes bytes)
  checkEnd rest
  return value

theorem runBytes_toUTF8 {α : Type} (reader : Reader α) (text : String) :
    reader.runBytes text.toUTF8 = reader.run text := by
  rw [runBytes, Token.lexBytes_toUTF8]
  rfl

end Reader

end ImageFreshness.Json
