import RemoteRecorder.Text.Blank
import RemoteRecorder.Text.Integer

/-!
# RemoteRecorder.TimeSpan

**Time spans**, such as `30 s`: a count that is not negative and a unit, which may be
missing.

* `TimeSpan.text` writes the count, and after one space the unit.
* `TimeSpan.read?` also takes a sign in front of the count and any white space between
  the count and the unit, but none before the one or after the other.
-/

namespace RemoteRecorder

/-- Units of time that the recorder knows. -/
inductive TimeUnit where
  | ns | us | ms | s | m | h | d
  deriving DecidableEq

namespace TimeUnit

/-- All units, from the shortest to the longest. -/
def all : List TimeUnit := [ns, us, ms, s, m, h, d]

/-- The abbreviation of a unit. -/
def text : TimeUnit → String
  | ns => "ns"
  | us => "us"
  | ms => "ms"
  | s => "s"
  | m => "m"
  | h => "h"
  | d => "d"

/-- The unit of an abbreviation. -/
def ofText? (t : String) : Option TimeUnit := all.find? fun unit => unit.text == t

theorem ofText?_text (u : TimeUnit) : ofText? u.text = some u := by cases u <;> rfl

end TimeUnit

/-- A length of time: a count, and a unit unless the count stands alone. -/
structure TimeSpan where
  count : Text.Integer.Natural
  unit : Option TimeUnit
  deriving DecidableEq

namespace TimeSpan

/-- No limit. -/
def zero : TimeSpan := ⟨.zero, none⟩

/-- The count, and after a space the unit. -/
def text (t : TimeSpan) : String :=
  match t.unit with
  | none => toString t.count
  | some u => toString t.count ++ " " ++ u.text

/-- Cuts a text after the number at its start: an optional sign and digits. -/
def splitNumber : List Char → List Char × List Char
  | '+' :: cs => ('+' :: cs.takeWhile Char.isDigit, cs.dropWhile Char.isDigit)
  | '-' :: cs => ('-' :: cs.takeWhile Char.isDigit, cs.dropWhile Char.isDigit)
  | cs => (cs.takeWhile Char.isDigit, cs.dropWhile Char.isDigit)

/-- Reads a number that is not negative, white space and a unit, the last two of which
may be missing. White space alone is no limit. -/
def read? (raw : String) : Option TimeSpan :=
  if Text.allBlank raw then some zero
  else do
    let (number, rest) := splitNumber raw.toList
    let count ← Text.Integer.natural? (← (Text.Integer.readChars number).toOption)
    match rest.dropWhile Text.isBlank with
    | [] => return ⟨count, none⟩
    | unit => return ⟨count, some (← TimeUnit.ofText? (String.ofList unit))⟩

end TimeSpan

end RemoteRecorder
