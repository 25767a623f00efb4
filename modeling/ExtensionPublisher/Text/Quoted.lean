import ExtensionPublisher.Text.Hidden

/-!
# Text between quotation marks

Values that come from outside are shown in messages between double quotation marks, with
every character visible: a quotation mark and a backslash are preceded by a backslash, the
common controls have a letter, and any other hidden character is given by its code point
in braces.
-/
namespace ExtensionPublisher.Text

/-- The lower-case hexadecimal digits of a number, without leading zeros. -/
def hexDigits (n : Nat) : List Char := Nat.toDigits 16 n

/-- One character as it is shown between quotation marks. What would not be seen, or
would join the character in front of it, is shown by its number. -/
def quotedChar (c : Char) : List Char :=
  match c with
  | '"' => ['\\', '"']
  | '\\' => ['\\', '\\']
  | '\n' => ['\\', 'n']
  | '\r' => ['\\', 'r']
  | '\t' => ['\\', 't']
  | '\x00' => ['\\', '0']
  | c => if isHidden c then ['\\', 'u', '\x7b'] ++ hexDigits c.toNat ++ ['\x7d'] else [c]

/-- Text between double quotation marks, every character visible, so that it can be
told from what stands around it. -/
def quoted (s : String) : String :=
  String.ofList ('"' :: s.toList.flatMap quotedChar ++ ['"'])

end ExtensionPublisher.Text
