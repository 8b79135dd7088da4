import MultiTarget.Text.Unprintable

/-!
# `MultiTarget.Text.Quoted`: names quoted in messages

Messages list names as `["a", "b"]`. Inside the quotation marks a
quotation mark and a backslash follow a backslash, four control
characters have a letter, and every other character that is not shown
as it is stands as its code point in hexadecimal.

Names and candidates in content errors are written so (specification 7).
-/

set_option autoImplicit false

namespace MultiTarget.Text

/-- A character inside quotation marks. -/
def quotedChar (c : Char) : List Char :=
  match c with
  | '"' => ['\\', '"']
  | '\\' => ['\\', '\\']
  | '\n' => ['\\', 'n']
  | '\r' => ['\\', 'r']
  | '\t' => ['\\', 't']
  | '\x00' => ['\\', '0']
  | c =>
    if isUnprintable c then '\\' :: 'u' :: '\x7b' :: Nat.toDigits 16 c.toNat ++ ['\x7d'] else [c]

/-- A name between quotation marks. -/
def quoted (text : String) : String :=
  String.ofList ('"' :: (text.toList.flatMap quotedChar ++ ['"']))

/-- A list of names between brackets. -/
def quotedList (names : List String) : String :=
  "[" ++ String.intercalate ", " (names.map quoted) ++ "]"

end MultiTarget.Text
