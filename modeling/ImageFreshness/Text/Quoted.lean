import ImageFreshness.Text.Hex
import ImageFreshness.Unicode.Category
import ImageFreshness.Unicode.Property

/-!
# Quoted text for messages

A value in a message stands between double quotes.  Quotes, backslashes and the common control
characters get a backslash; other characters that do not show by themselves, or that would merge
with the character before them, are written by code point.
-/

namespace ImageFreshness.Text.Quoted

open Unicode

/-- The code points that show nothing by themselves: controls, formats, unassigned and private
    ones, and every separator but the blank. -/
def invisible : CodeSet :=
  (ofCategories ["Cc", "Cf", "Cs", "Co", "Cn", "Zl", "Zp", "Zs"]).diff [(0x20, 0x20)]

def encodeChar (c : Char) : List Char :=
  match c with
  | '\x00' => ['\\', '0']
  | '\t' => ['\\', 't']
  | '\r' => ['\\', 'r']
  | '\n' => ['\\', 'n']
  | '"' => ['\\', '"']
  | '\\' => ['\\', '\\']
  | _ =>
    if graphemeExtend.contains c.toNat || invisible.contains c.toNat then
      ['\\', 'u', '\x7b'] ++ Hex.ofNat c.toNat ++ ['\x7d']
    else [c]

def encode (s : String) : String :=
  String.ofList ('"' :: s.toList.flatMap encodeChar ++ ['"'])

end ImageFreshness.Text.Quoted
