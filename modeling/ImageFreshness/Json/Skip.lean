import ImageFreshness.Json.Token

/-!
# Passing over a JSON value

A value that nobody wants is passed over without building it: it may be nested as deeply as it
likes, and its numbers and strings need not denote anything.
-/

namespace ImageFreshness.Json

inductive Frame where
  | array
  | object
  deriving DecidableEq

inductive Awaiting where
  | value
  | itemOrEnd
  | nameOrEnd
  | name
  | colon
  | after
  deriving DecidableEq

/-- The frames that are open, innermost first, and what comes next. -/
structure Skipping where
  stack : List Frame
  awaiting : Awaiting

namespace Skipping

def startValue (stack : List Frame) : Token → Except Fault Skipping
  | .null | .bool _ | .number _ | .string _ => .ok ⟨stack, .after⟩
  | .openBracket => .ok ⟨.array :: stack, .itemOrEnd⟩
  | .openBrace => .ok ⟨.object :: stack, .nameOrEnd⟩
  | .brokenString stop => .error stop.skipped
  | .broken stop => .error stop.skipped
  | _ => .error .malformed

def startName (stack : List Frame) : Token → Except Fault Skipping
  | .string _ => .ok ⟨stack, .colon⟩
  | .brokenString stop => .error stop.skipped
  | _ => .error .malformed

def step (s : Skipping) (token : Token) : Except Fault Skipping :=
  match s.awaiting, s.stack, token with
  | .value, stack, _ => startValue stack token
  | .itemOrEnd, .array :: stack, .closeBracket => .ok ⟨stack, .after⟩
  | .itemOrEnd, stack, _ => startValue stack token
  | .nameOrEnd, .object :: stack, .closeBrace => .ok ⟨stack, .after⟩
  | .nameOrEnd, stack, _ => startName stack token
  | .name, stack, _ => startName stack token
  | .colon, stack, .colon => .ok ⟨stack, .value⟩
  | .after, .array :: stack, .comma => .ok ⟨.array :: stack, .value⟩
  | .after, .array :: stack, .closeBracket => .ok ⟨stack, .after⟩
  | .after, .object :: stack, .comma => .ok ⟨.object :: stack, .name⟩
  | .after, .object :: stack, .closeBrace => .ok ⟨stack, .after⟩
  | _, _, _ => .error .malformed

/-- Takes tokens until no value is open any more. -/
def run : Skipping → List Token → Except Fault (List Token)
  | ⟨[], .after⟩, tokens => .ok tokens
  | _, [] => .error .unfinished
  | s, token :: tokens =>
    match s.step token with
    | .ok next => run next tokens
    | .error fault => .error fault

end Skipping

def skipValue (tokens : List Token) : Except Fault (List Token) := Skipping.run ⟨[], .value⟩ tokens

end ImageFreshness.Json
