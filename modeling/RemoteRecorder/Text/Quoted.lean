import RemoteRecorder.Text.Printable

/-!
# RemoteRecorder.Text.Quoted

**Quoted text**, as messages show it: between double quotes, on one line, with every
character visible.

* A backslash stands before a double quote and before a backslash; a single quote
  stays as it is.
* Line feed, carriage return, tab and the zero character have letters of their own.
* Every other character without a picture of its own is written as its code point,
  in lower-case hexadecimal digits between braces.
-/

namespace RemoteRecorder.Text

/-- The digits of a code point in lower-case hexadecimal, without leading zeros. -/
def hexDigits (n : Nat) : List Char :=
  Nat.toDigits 16 n

/-- How one character is written between the quotes. -/
def quoteChar (c : Char) : List Char :=
  match c with
  | '"' => ['\\', '"']
  | '\\' => ['\\', '\\']
  | '\n' => ['\\', 'n']
  | '\r' => ['\\', 'r']
  | '\t' => ['\\', 't']
  | '\x00' => ['\\', '0']
  | c => if isPrintable c then [c] else ['\\', 'u', '\x7b'] ++ hexDigits c.toNat ++ ['\x7d']

/-- A text between double quotes, every character visible. -/
def quoted (s : String) : String :=
  String.ofList ('"' :: s.toList.flatMap quoteChar ++ ['"'])

/-- A list of quoted texts between square brackets. -/
def quotedList (texts : List String) : String :=
  "[" ++ ", ".intercalate (texts.map quoted) ++ "]"

end RemoteRecorder.Text
