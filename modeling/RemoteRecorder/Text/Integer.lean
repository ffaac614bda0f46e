/-!
# RemoteRecorder.Text.Integer

**Decimal integers of 64 bits**, as texts write them: an optional sign and one or more
of the ten ASCII digits.

* `Integer.read` reads from left to right and reports the first thing that is wrong.
  A character that is no digit counts before the overflow of the number it ends, and
  an overflow counts before what follows it.
* `Integer.natural?` keeps the values that are not negative.
* `Integer.digits` writes a natural number, padded with zeros to a given width.
-/

namespace RemoteRecorder.Text.Integer

/-- Why a text is no 64-bit integer. -/
inductive Invalid where
  /-- There is no character at all. -/
  | empty
  /-- A character is no digit, or there is nothing after a sign. -/
  | digit
  /-- The value is above the greatest 64-bit integer. -/
  | tooLarge
  /-- The value is below the least 64-bit integer. -/
  | tooSmall
  deriving DecidableEq

/-- The wording of a cause. -/
def Invalid.message : Invalid → String
  | .empty => "cannot parse integer from empty string"
  | .digit => "invalid digit found in string"
  | .tooLarge => "number too large to fit in target type"
  | .tooSmall => "number too small to fit in target type"

/-- The value of an ASCII digit. -/
def digit? (c : Char) : Option Nat :=
  if c.isDigit then some (c.toNat - 48) else none

/-- Reads digits onto the value `acc`, which may not grow above `limit`. -/
def magnitude (limit : Nat) (overflow : Invalid) : Nat → List Char → Except Invalid Nat
  | acc, [] => .ok acc
  | acc, c :: cs =>
    match digit? c with
    | none => .error .digit
    | some d =>
      if acc * 10 + d ≤ limit then magnitude limit overflow (acc * 10 + d) cs
      else .error overflow

/-- Reads digits that follow a sign, or stand without one: at least one of them. -/
def unsigned (limit : Nat) (overflow : Invalid) (cs : List Char) : Except Invalid Nat :=
  if cs.isEmpty then .error .digit else magnitude limit overflow 0 cs

/-- The 63rd power of two: one more than the greatest 64-bit integer, and the least one
without its sign. -/
abbrev bound : Nat := 0x8000000000000000

/-- Reads an optional sign and digits. -/
def readChars : List Char → Except Invalid Int64
  | [] => .error .empty
  | '-' :: cs => (unsigned bound .tooSmall cs).map fun n => Int64.ofInt (-n)
  | '+' :: cs => (unsigned (bound - 1) .tooLarge cs).map fun n => Int64.ofInt n
  | cs => (unsigned (bound - 1) .tooLarge cs).map fun n => Int64.ofInt n

/-- Reads a text as a decimal integer of 64 bits. -/
def read (s : String) : Except Invalid Int64 :=
  readChars s.toList

/-- The values of 64-bit integers that are not negative. -/
abbrev Natural := Fin bound

/-- Zero. As a limit it says that there is none. -/
abbrev Natural.zero : Natural := 0

/-- A value that is not negative, as a natural number. -/
def natural? (v : Int64) : Option Natural :=
  if h : 0 ≤ v.toInt then
    some ⟨v.toInt.toNat, by have := v.toInt_lt; show _ < 0x8000000000000000; omega⟩
  else none

/-- A natural number in decimal digits, with zeros in front up to `width` characters. -/
def digits (width n : Nat) : String :=
  let text := toString n
  String.ofList (List.replicate (width - text.length) '0') ++ text

end RemoteRecorder.Text.Integer
