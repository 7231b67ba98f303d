import ImageFreshness.Json.Token

/-!
# Reading a whole JSON text

`Json.parse` turns a text into a value.  It takes the tokens one by one and keeps the arrays and
objects that are still open on a stack, whose height is limited.
-/

namespace ImageFreshness.Json

/-- How many arrays and objects may be open at a time. -/
def maxDepth : Nat := 127

/-- An array or object that is still open, with what it holds so far, last first. -/
inductive OpenValue where
  | array (items : List Json)
  | object (members : List (String × Json)) (name : String)

inductive Expecting where
  | value
  | itemOrEnd
  | nameOrEnd
  | name (members : List (String × Json))
  | colon (members : List (String × Json)) (name : String)
  | after (value : Json)

/-- The open values, innermost first, and what comes next. -/
structure Parsing where
  stack : List OpenValue
  expecting : Expecting

namespace Parsing

def startValue (stack : List OpenValue) : Token → Except Fault Parsing
  | .null => .ok ⟨stack, .after .null⟩
  | .bool b => .ok ⟨stack, .after (.bool b)⟩
  | .number (.ok n) => .ok ⟨stack, .after (.number n)⟩
  | .string (.ok s) => .ok ⟨stack, .after (.string s)⟩
  | .openBracket => if stack.length < maxDepth then .ok ⟨stack, .itemOrEnd⟩ else .error .malformed
  | .openBrace => if stack.length < maxDepth then .ok ⟨stack, .nameOrEnd⟩ else .error .malformed
  | token => .error token.mismatch

def startName (stack : List OpenValue) (members : List (String × Json)) :
    Token → Except Fault Parsing
  | .string (.ok name) => .ok ⟨stack, .colon members name⟩
  | .string (.error fault) => .error fault
  | .brokenString stop => .error stop.wanted
  | _ => .error .malformed

def endValue (value : Json) : List OpenValue → Token → Except Fault Parsing
  | .array items :: stack, .comma => .ok ⟨.array (value :: items) :: stack, .value⟩
  | .array items :: stack, .closeBracket => .ok ⟨stack, .after (.array (value :: items).reverse)⟩
  | .object members name :: stack, .comma => .ok ⟨stack, .name ((name, value) :: members)⟩
  | .object members name :: stack, .closeBrace =>
    .ok ⟨stack, .after (.object ((name, value) :: members).reverse)⟩
  | _, _ => .error .malformed

def step (p : Parsing) (token : Token) : Except Fault Parsing :=
  match p.expecting, token with
  | .value, _ => startValue p.stack token
  | .itemOrEnd, .closeBracket => .ok ⟨p.stack, .after (.array [])⟩
  | .itemOrEnd, _ => startValue (.array [] :: p.stack) token
  | .nameOrEnd, .closeBrace => .ok ⟨p.stack, .after (.object [])⟩
  | .nameOrEnd, _ => startName p.stack [] token
  | .name members, _ => startName p.stack members token
  | .colon members name, .colon => .ok ⟨.object members name :: p.stack, .value⟩
  | .colon .., _ => .error .malformed
  | .after value, _ => endValue value p.stack token

/-- Takes tokens until no value is open any more. -/
def run : Parsing → List Token → Except Fault (Json × List Token)
  | ⟨[], .after value⟩, tokens => .ok (value, tokens)
  | _, [] => .error .unfinished
  | p, token :: tokens =>
    match p.step token with
    | .ok next => run next tokens
    | .error fault => .error fault

end Parsing

def parseTokens (tokens : List Token) : Except Fault (Json × List Token) :=
  Parsing.run ⟨[], .value⟩ tokens

def checkEnd : List Token → Except Fault Unit
  | [] => .ok ()
  | _ => .error .malformed

def parse (text : String) : Except Fault Json := do
  let (value, rest) ← parseTokens (Token.lex text.toList)
  checkEnd rest
  return value

end ImageFreshness.Json
