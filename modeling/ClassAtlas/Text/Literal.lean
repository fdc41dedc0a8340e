import ClassAtlas.Text.Extender
import ClassAtlas.Text.Hidden

/-!
# String literals

A text between quotation marks, with an escape for every character that would
end it, that has no visible form, or that would attach to what stands before.
-/

namespace ClassAtlas.Text

/-- The code point in hexadecimal between braces. -/
def codePointEscape (c : Char) : List Char :=
  '\\' :: 'u' :: '\x7b' :: Nat.toDigits 16 c.toNat ++ ['\x7d']

def escapeChar (c : Char) : List Char :=
  match c with
  | '\x00' => ['\\', '0']
  | '\t' => ['\\', 't']
  | '\n' => ['\\', 'n']
  | '\r' => ['\\', 'r']
  | '\\' => ['\\', '\\']
  | '"' => ['\\', '"']
  | c => if isExtender c || isHidden c then codePointEscape c else [c]

def literal (s : String) : String :=
  String.ofList ('"' :: s.toList.flatMap escapeChar ++ ['"'])

end ClassAtlas.Text
