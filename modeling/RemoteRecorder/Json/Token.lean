import RemoteRecorder.Text.Integer

/-!
# RemoteRecorder.Json.Token

**The words of a JSON text**: brackets, punctuation, literals, numbers and strings.

* The scanner is an automaton over single characters, so it is total by the
  recursion on the text.
* A number keeps its spelling: whether it is an integer, and in which range, is for
  its reader to say.
* A string may hold the escape of half a surrogate pair. Its text is then `none`:
  the string is well formed, but no text.
-/

namespace RemoteRecorder

/-- A word of a JSON text. -/
inductive Json.Token where
  | openArray
  | closeArray
  | openObject
  | closeObject
  | comma
  | colon
  | null
  | bool (value : Bool)
  /-- A number as it is spelled. -/
  | number (spelling : String)
  /-- A string; `none` if it holds half a surrogate pair. -/
  | string (text : Option String)
  deriving DecidableEq

namespace Json.Token

/-! ## Numbers -/

/-- Nothing, or an exponent: a letter, an optional sign and digits. -/
def isExponent : List Char → Bool
  | [] => true
  | c :: cs =>
    let digits := match cs with
      | '+' :: r => r
      | '-' :: r => r
      | r => r
    (c == 'e' || c == 'E') && !digits.isEmpty && digits.all Char.isDigit

/-- Nothing or a fraction, and then nothing or an exponent. -/
def isFraction : List Char → Bool
  | '.' :: cs => !(cs.takeWhile Char.isDigit).isEmpty && isExponent (cs.dropWhile Char.isDigit)
  | cs => isExponent cs

/-- The grammar of numbers: an optional minus sign, digits without a leading zero,
an optional fraction and an optional exponent. -/
def isNumber (cs : List Char) : Bool :=
  let unsigned := match cs with
    | '-' :: r => r
    | r => r
  let whole := unsigned.takeWhile Char.isDigit
  (whole == ['0'] || (!whole.isEmpty && whole.head? != some '0')) &&
    isFraction (unsigned.dropWhile Char.isDigit)

/-- A character that a number may contain. -/
def isNumeric (c : Char) : Bool :=
  c.isDigit || c == '-' || c == '+' || c == '.' || c == 'e' || c == 'E'

/-- The token of a run of number characters. -/
def ofNumber? (cs : List Char) : Option Token :=
  if isNumber cs then some (.number (String.ofList cs)) else none

/-- The token of a run of letters. -/
def ofWord? (cs : List Char) : Option Token :=
  match String.ofList cs with
  | "null" => some .null
  | "true" => some (.bool true)
  | "false" => some (.bool false)
  | _ => none

/-! ## Strings -/

/-- A part of a string: a character, or the number of a surrogate. -/
inductive Piece where
  | char (c : Char)
  | surrogate (unit : Nat)

/-- A code unit written as an escape. -/
def Piece.ofUnit (n : Nat) : Piece :=
  if 0xd800 ≤ n && n ≤ 0xdfff then .surrogate n else .char (Char.ofNat n)

/-- The text of the pieces, if every surrogate is in a pair. -/
def textOf : List Piece → Option (List Char)
  | [] => some []
  | .char c :: ps => (textOf ps).map (c :: ·)
  | .surrogate high :: .surrogate low :: ps =>
    if high < 0xdc00 && 0xdc00 ≤ low then
      (textOf ps).map (Char.ofNat (0x10000 + (high - 0xd800) * 0x400 + (low - 0xdc00)) :: ·)
    else none
  | .surrogate _ :: _ => none

/-- The character that a one-letter escape stands for. -/
def ofEscape? : Char → Option Char
  | '"' => some '"'
  | '\\' => some '\\'
  | '/' => some '/'
  | 'b' => some '\x08'
  | 'f' => some '\x0c'
  | 'n' => some '\n'
  | 'r' => some '\r'
  | 't' => some '\t'
  | _ => none

/-- The value of a hexadecimal digit of either case. -/
def hexDigit? (c : Char) : Option Nat :=
  if c.isDigit then some (c.toNat - 48)
  else if 'a' ≤ c && c ≤ 'f' then some (c.toNat - 87)
  else if 'A' ≤ c && c ≤ 'F' then some (c.toNat - 55)
  else none

/-! ## The scanner -/

/-- Where the scanner stands; what it has collected is in reverse order. -/
inductive Mode where
  | between
  | inWord (letters : List Char)
  | inNumber (spelling : List Char)
  | inString (pieces : List Piece)
  /-- After a backslash. -/
  | inEscape (pieces : List Piece)
  /-- Inside the four digits of a numeric escape, `left` of which are missing. -/
  | inUnit (pieces : List Piece) (left value : Nat)

/-- The tokens found, in reverse order, and where the scanner stands. -/
structure Scanner where
  found : List Token
  mode : Mode

/-- White space between tokens: space, tab, line feed and carriage return. -/
def isSpace (c : Char) : Bool :=
  c == ' ' || c == '\t' || c == '\n' || c == '\r'

/-- Takes a character outside every longer token. -/
def Scanner.enter (found : List Token) (c : Char) : Option Scanner :=
  match c with
  | '[' => some ⟨.openArray :: found, .between⟩
  | ']' => some ⟨.closeArray :: found, .between⟩
  | '{' => some ⟨.openObject :: found, .between⟩
  | '}' => some ⟨.closeObject :: found, .between⟩
  | ',' => some ⟨.comma :: found, .between⟩
  | ':' => some ⟨.colon :: found, .between⟩
  | '"' => some ⟨found, .inString []⟩
  | c =>
    if isSpace c then some ⟨found, .between⟩
    else if c.isAlpha then some ⟨found, .inWord [c]⟩
    else if isNumeric c then some ⟨found, .inNumber [c]⟩
    else none

/-- Takes one character. -/
def Scanner.step (s : Scanner) (c : Char) : Option Scanner :=
  match s.mode with
  | .between => enter s.found c
  | .inWord cs =>
    if c.isAlpha then some ⟨s.found, .inWord (c :: cs)⟩
    else (ofWord? cs.reverse).bind fun t => enter (t :: s.found) c
  | .inNumber cs =>
    if isNumeric c then some ⟨s.found, .inNumber (c :: cs)⟩
    else (ofNumber? cs.reverse).bind fun t => enter (t :: s.found) c
  | .inString ps =>
    if c == '"' then
      some ⟨.string ((textOf ps.reverse).map String.ofList) :: s.found, .between⟩
    else if c == '\\' then some ⟨s.found, .inEscape ps⟩
    else if c.toNat < 0x20 then none
    else some ⟨s.found, .inString (.char c :: ps)⟩
  | .inEscape ps =>
    if c == 'u' then some ⟨s.found, .inUnit ps 4 0⟩
    else (ofEscape? c).map fun d => ⟨s.found, .inString (.char d :: ps)⟩
  | .inUnit ps left value =>
    (hexDigit? c).map fun d =>
      if left ≤ 1 then ⟨s.found, .inString (.ofUnit (value * 16 + d) :: ps)⟩
      else ⟨s.found, .inUnit ps (left - 1) (value * 16 + d)⟩

/-- The tokens at the end of the text. -/
def Scanner.finish (s : Scanner) : Option (List Token) :=
  match s.mode with
  | .between => some s.found.reverse
  | .inWord cs => (ofWord? cs.reverse).map fun t => (t :: s.found).reverse
  | .inNumber cs => (ofNumber? cs.reverse).map fun t => (t :: s.found).reverse
  | _ => none

/-- The tokens of a text, or `none` if some part of it is no token. -/
def scan (s : String) : Option (List Token) :=
  (s.toList.foldlM Scanner.step ⟨[], .between⟩).bind Scanner.finish

end Json.Token

end RemoteRecorder
