import ImageFreshness.Text.Decimal
import ImageFreshness.Text.Hex

/-!
# JSON values

Values keep the order of the members of an object, and members of the same name.
`Json.render` writes a value in the compact form, without any white space.
-/

namespace ImageFreshness

inductive Number where
  /-- A whole number without a sign, of at most 64 bits. -/
  | unsigned (n : Nat)
  /-- A whole number below zero that 64 bits with a sign can hold, without its minus sign. -/
  | negative (n : Nat)
  /-- Every other number, as it is written. -/
  | real (lexeme : List Char)
  deriving DecidableEq, Repr

inductive Json where
  | null
  | bool (value : Bool)
  | number (value : Number)
  | string (value : String)
  | array (items : List Json)
  | object (members : List (String × Json))

namespace Number

def ofInt (n : Int) : Number :=
  if n < 0 then .negative n.natAbs else .unsigned n.natAbs

def render : Number → List Char
  | .unsigned n => Text.Decimal.ofNat n
  | .negative n => '-' :: Text.Decimal.ofNat n
  | .real lexeme => lexeme

end Number

namespace Json

/-- How one character is written inside a string: quotes and backslashes get a backslash, control
    characters a short escape or their code. -/
def escape (c : Char) : List Char :=
  match c with
  | '"' => ['\\', '"']
  | '\\' => ['\\', '\\']
  | '\n' => ['\\', 'n']
  | '\r' => ['\\', 'r']
  | '\t' => ['\\', 't']
  | '\x08' => ['\\', 'b']
  | '\x0c' => ['\\', 'f']
  | _ =>
    if c.toNat < 0x20 then
      ['\\', 'u', '0', '0', Nat.digitChar (c.toNat / 16), Nat.digitChar (c.toNat % 16)]
    else [c]

def renderString (s : String) : List Char := '"' :: s.toList.flatMap escape ++ ['"']

mutual

def render : Json → List Char
  | .null => "null".toList
  | .bool true => "true".toList
  | .bool false => "false".toList
  | .number n => n.render
  | .string s => renderString s
  | .array items => '[' :: renderItems items
  | .object members => '\x7b' :: renderMembers members

def renderItems : List Json → List Char
  | [] => [']']
  | [item] => render item ++ [']']
  | item :: rest => render item ++ ',' :: renderItems rest

def renderMembers : List (String × Json) → List Char
  | [] => ['\x7d']
  | [(name, value)] => renderString name ++ ':' :: render value ++ ['\x7d']
  | (name, value) :: rest => renderString name ++ ':' :: render value ++ ',' :: renderMembers rest

end

def text (value : Json) : String := String.ofList value.render

end Json

end ImageFreshness
