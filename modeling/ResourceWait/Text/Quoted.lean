import ResourceWait.Text.Printable

/-!
# Texts in quotes

How a message shows a text that it talks about: in double quotes, with the quote, the backslash and
everything that would not show as itself escaped. The line ends, the tab and the null character have
short escapes; any other such character is written as its code point, in braces.
-/

namespace ResourceWait.Text

/-- A number in hexadecimal, in small letters and without leading zeros. -/
def hexadecimal (n : Nat) : List Char :=
  Nat.toDigits 16 n

/-- A character as it stands in a quoted text. -/
def quotedChar (c : Char) : List Char :=
  match c with
  | '"' => ['\\', '"']
  | '\\' => ['\\', '\\']
  | '\n' => ['\\', 'n']
  | '\r' => ['\\', 'r']
  | '\t' => ['\\', 't']
  | '\x00' => ['\\', '0']
  | c =>
    if showsAsItself c then [c]
    else '\\' :: 'u' :: '{' :: (hexadecimal c.toNat ++ ['}'])

/-- **A text in quotes.** -/
def quoted (s : String) : String :=
  String.ofList ('"' :: (s.toList.flatMap quotedChar ++ ['"']))

end ResourceWait.Text
