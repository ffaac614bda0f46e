import RemoteRecorder.Json.Token

/-!
# RemoteRecorder.Json

**JSON values** and their reader.

* `Json.parse?` reads one value and refuses whatever follows it. It is a pushdown
  automaton over the tokens, so values may be nested to any depth.
* Members of an object stand in the order of the text, repeated keys included.
* `int64?`, `bool?` and `variant?` read a value as what a setting or a name needs.
  They say only whether a value fits; all ways of not fitting are alike.
-/

namespace RemoteRecorder

/-- A JSON value. -/
inductive Json where
  | null
  | bool (value : Bool)
  /-- A number as it is spelled. -/
  | number (spelling : String)
  /-- A string; `none` if it holds half a surrogate pair. -/
  | string (text : Option String)
  | array (items : List Json)
  | object (members : List (Option String × Json))

namespace Json

/-! ## Reading a text -/

/-- A value that has been opened and not closed; what it holds is in reverse order. -/
inductive Frame where
  | array (items : List Json)
  | object (members : List (Option String × Json))
  /-- An object, and the key of the member that comes next. -/
  | member (members : List (Option String × Json)) (key : Option String)

/-- What may come next. -/
inductive Expected where
  /-- A value. -/
  | value
  /-- A value, or the end of an empty array. -/
  | firstItem
  /-- A key. -/
  | key
  /-- A key, or the end of an empty object. -/
  | firstKey
  /-- The colon after a key. -/
  | colon
  /-- A comma or the end of the innermost open value. -/
  | separator
  /-- Nothing: the value is complete. -/
  | done (value : Json)

/-- The open values, innermost first, and what may come next. -/
structure Reader where
  frames : List Frame
  expected : Expected

/-- Hands a complete value to the innermost open value. -/
def Reader.supply (v : Json) : List Frame → Option Reader
  | [] => some ⟨[], .done v⟩
  | .array items :: fs => some ⟨.array (v :: items) :: fs, .separator⟩
  | .member members key :: fs => some ⟨.object ((key, v) :: members) :: fs, .separator⟩
  | .object _ :: _ => none

/-- Takes a token where a value has to come. -/
def Reader.value (fs : List Frame) : Token → Option Reader
  | .null => supply .null fs
  | .bool b => supply (.bool b) fs
  | .number n => supply (.number n) fs
  | .string s => supply (.string s) fs
  | .openArray => some ⟨.array [] :: fs, .firstItem⟩
  | .openObject => some ⟨.object [] :: fs, .firstKey⟩
  | _ => none

/-- Takes a token where a key has to come. -/
def Reader.key : List Frame → Token → Option Reader
  | .object members :: fs, .string s => some ⟨.member members s :: fs, .colon⟩
  | _, _ => none

/-- Takes one token. -/
def Reader.step (r : Reader) (t : Token) : Option Reader :=
  match r.expected, r.frames, t with
  | .value, fs, t => value fs t
  | .firstItem, .array items :: fs, .closeArray => supply (.array items.reverse) fs
  | .firstItem, fs, t => value fs t
  | .key, fs, t => key fs t
  | .firstKey, .object members :: fs, .closeObject => supply (.object members.reverse) fs
  | .firstKey, fs, t => key fs t
  | .colon, fs, .colon => some ⟨fs, .value⟩
  | .separator, .array items :: fs, .comma => some ⟨.array items :: fs, .value⟩
  | .separator, .array items :: fs, .closeArray => supply (.array items.reverse) fs
  | .separator, .object members :: fs, .comma => some ⟨.object members :: fs, .key⟩
  | .separator, .object members :: fs, .closeObject => supply (.object members.reverse) fs
  | _, _, _ => none

/-- The value that a text spells, if it spells one and nothing else. -/
def parse? (s : String) : Option Json := do
  let tokens ← Token.scan s
  match (← tokens.foldlM Reader.step ⟨[], .value⟩).expected with
  | .done v => some v
  | _ => none

/-! ## Reading a value as something -/

/-- An integer of 64 bits, spelled without fraction and exponent. Minus zero is not
among them: it is the spelling of a number that is no integer. -/
def int64? : Json → Option Int64
  | .number spelling =>
    if spelling == "-0" then none else (Text.Integer.read spelling).toOption
  | _ => none

/-- A truth value. -/
def bool? : Json → Option Bool
  | .bool b => some b
  | _ => none

/-- The name of a variant without content: a string, or an object whose only key is
the name, with the value `null`. -/
def variant? : Json → Option String
  | .string s => s
  | .object [(key, .null)] => key
  | _ => none

end Json

end RemoteRecorder
