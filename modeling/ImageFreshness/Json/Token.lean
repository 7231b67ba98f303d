import ImageFreshness.Json.Lexeme
import ImageFreshness.Text.Utf8

/-!
# Tokens of a JSON text

`Token.lex` splits a text into tokens.  Some faults show only to a reader that wants the value of
a token: half a surrogate pair in a string, a number out of range.  Such a token carries the
fault, and lexing goes on behind it.  Where the text cannot be split any further the last token
says why, to a reader that wants it and to one that passes over it.
-/

namespace ImageFreshness.Json

open Text

inductive Token where
  | openBrace
  | closeBrace
  | openBracket
  | closeBracket
  | colon
  | comma
  | null
  | bool (value : Bool)
  | number (value : Except Fault Number)
  | string (value : Except Fault String)
  /-- A string without its closing quote; no token follows. -/
  | brokenString (stop : Stop)
  | broken (stop : Stop)

def byteLength (cs : List Char) : Nat := cs.foldl (fun n c => n + c.utf8Size) 0

/-- The fault of an escape whose four digits are not there: the text ends within the next four
    bytes, or they hold something else. -/
def missingHex (rest : List Char) : Fault :=
  if byteLength rest < 4 then .unfinished else .malformed

def unescape (c : Char) : Option Char :=
  match c with
  | '"' => some '"'
  | '\\' => some '\\'
  | '/' => some '/'
  | 'b' => some '\x08'
  | 'f' => some '\x0c'
  | 'n' => some '\n'
  | 'r' => some '\r'
  | 't' => some '\t'
  | _ => none

/-- The number of four hexadecimal digits. -/
def hex4 (a b c d : Char) : Option Nat := Hex.value? [a, b, c, d]

def isLeading (n : Nat) : Bool := 0xD800 ≤ n && n ≤ 0xDBFF

def isTrailing (n : Nat) : Bool := 0xDC00 ≤ n && n ≤ 0xDFFF

def ofPair (leading trailing : Nat) : Char :=
  Char.ofNat ((leading - 0xD800) * 0x400 + (trailing - 0xDC00) + 0x10000)

/-- Passes over a string after its opening quote: what follows the closing quote.  The halves of
    surrogate pairs need not match. -/
def skipString : List Char → Except Fault (List Char)
  | [] => .error .unfinished
  | '"' :: rest => .ok rest
  | '\\' :: 'u' :: a :: b :: c :: d :: rest =>
    match hex4 a b c d with
    | some _ => skipString rest
    | none => .error (missingHex (a :: b :: c :: d :: rest))
  | '\\' :: 'u' :: rest => .error (missingHex rest)
  | '\\' :: c :: rest => if (unescape c).isSome then skipString rest else .error .malformed
  | ['\\'] => .error .unfinished
  | c :: rest => if c.toNat < 0x20 then .error .malformed else skipString rest

def readString : List Char → Except Fault (List Char)
  | [] => .error .unfinished
  | '"' :: _ => .ok []
  | '\\' :: 'u' :: a :: b :: c :: d :: rest =>
    match hex4 a b c d with
    | none => .error (missingHex (a :: b :: c :: d :: rest))
    | some n =>
      if isTrailing n then .error .malformed
      else if isLeading n then
        match rest with
        | '\\' :: 'u' :: e :: f :: g :: h :: rest =>
          match hex4 e f g h with
          | none => .error (missingHex (e :: f :: g :: h :: rest))
          | some m =>
            if isTrailing m then (readString rest).map (ofPair n m :: ·) else .error .malformed
        | '\\' :: 'u' :: rest => .error (missingHex rest)
        | [] => .error .unfinished
        | ['\\'] => .error .unfinished
        | _ => .error .malformed
      else (readString rest).map (Char.ofNat n :: ·)
  | '\\' :: 'u' :: rest => .error (missingHex rest)
  | '\\' :: c :: rest =>
    match unescape c with
    | some e => (readString rest).map (e :: ·)
    | none => .error .malformed
  | ['\\'] => .error .unfinished
  | c :: rest => if c.toNat < 0x20 then .error .malformed else (readString rest).map (c :: ·)

namespace Token

def isSpace (c : Char) : Bool := c = ' ' || c = '\n' || c = '\t' || c = '\r'

structure Lexed where
  token : Token
  rest : List Char

def lexString (cs : List Char) : Lexed :=
  match skipString cs with
  | .ok rest => ⟨.string ((readString cs).map String.ofList), rest⟩
  | .error skipped =>
    match readString cs with
    | .ok _ => ⟨.brokenString ⟨skipped, skipped⟩, []⟩
    | .error wanted => ⟨.brokenString ⟨wanted, skipped⟩, []⟩

def lexNumber (cs : List Char) : Lexed :=
  match Lexeme.scan cs with
  | .ok (lexeme, rest) => ⟨.number lexeme.value?, rest⟩
  | .error stop => ⟨.broken stop, []⟩

/-- The token of a word after its first letter, `word` being the letters that have to follow. -/
def lexWord (token : Token) : List Char → List Char → Lexed
  | [], rest => ⟨token, rest⟩
  | _ :: _, [] => ⟨.broken ⟨.unfinished, .unfinished⟩, []⟩
  | w :: word, c :: cs =>
    if w = c then lexWord token word cs else ⟨.broken ⟨.malformed, .malformed⟩, []⟩

def lexOne (c : Char) (cs : List Char) : Lexed :=
  match c with
  | '\x7b' => ⟨.openBrace, cs⟩
  | '\x7d' => ⟨.closeBrace, cs⟩
  | '[' => ⟨.openBracket, cs⟩
  | ']' => ⟨.closeBracket, cs⟩
  | ':' => ⟨.colon, cs⟩
  | ',' => ⟨.comma, cs⟩
  | '"' => lexString cs
  | 'n' => lexWord .null "ull".toList cs
  | 't' => lexWord (.bool true) "rue".toList cs
  | 'f' => lexWord (.bool false) "alse".toList cs
  | _ =>
    if c = '-' || c.isDigit then lexNumber (c :: cs) else ⟨.broken ⟨.malformed, .malformed⟩, []⟩

def lexAtMost : Nat → List Char → List Token
  | 0, _ => []
  | fuel + 1, cs =>
    match cs.dropWhile isSpace with
    | [] => []
    | c :: cs =>
      let lexed := lexOne c cs
      lexed.token :: lexAtMost fuel lexed.rest

/-- The tokens of a text.  Each takes a character at least, so there are no more of them than
    characters. -/
def lex (cs : List Char) : List Token := lexAtMost cs.length cs

/-- The token in two readings of the same bytes.  A string that they do not agree on is no text to
    a reader that wants it. -/
def common : Token → Token → Token
  | .string (.ok s), .string (.ok t) =>
    if s = t then .string (.ok s) else .string (.error .malformed)
  | token, _ => token

/-- The tokens of some bytes.  Bytes that belong to no character are read in two ways, as letters
    that are part of no word, number or escape: what is made of them differs inside strings only. -/
def lexBytes (bytes : ByteArray) : List Token :=
  List.zipWith common (lex (chars 'x' bytes)) (lex (chars 'y' bytes))

theorem common_self (token : Token) : common token token = token := by
  cases token with
  | string value =>
    cases value with
    | ok s => exact if_pos rfl
    | error fault => rfl
  | _ => rfl

theorem lexBytes_toUTF8 (text : String) : lexBytes text.toUTF8 = lex text.toList := by
  simp only [lexBytes, chars_toUTF8, List.zipWith_self, common_self, List.map_id']

example : lexBytes ⟨#[0x22, 0xff, 0x22]⟩ = [.string (.error .malformed)] := rfl

def mismatch : Token → Fault
  | .number (.error fault) => fault
  | .string (.error fault) => fault
  | .brokenString stop => stop.wanted
  | .broken stop => stop.wanted
  | .closeBrace | .closeBracket | .colon | .comma => .malformed
  | _ => .mismatched

end Token

end ImageFreshness.Json
