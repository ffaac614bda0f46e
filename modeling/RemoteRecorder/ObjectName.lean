import RemoteRecorder.Text.Quoted
import RemoteRecorder.Text.Split

/-!
# RemoteRecorder.ObjectName

**Names of management objects**: a domain, a colon, and key properties separated by
commas, as in `domain:key=value,key=value`.

* A name is kept as its parts; `ObjectName.text` writes it as it was read.
* The domain ends at the first colon and a key at the first equals sign, so a value
  may hold both characters again.
-/

namespace RemoteRecorder

/-- A key and its value in the name of a management object. -/
structure KeyProperty where
  key : String
  value : String
  deriving DecidableEq

/-- The name of a management object. -/
structure ObjectName where
  domain : String
  properties : List KeyProperty
  deriving DecidableEq

namespace ObjectName

/-- Why a text is no name of a management object. -/
inductive Invalid where
  | noColon (raw : String)
  | noDomain (raw : String)
  | noProperties (raw : String)
  /-- A property without equals sign, or with nothing on one side of it. -/
  | badProperty (property raw : String)
  deriving DecidableEq

/-- The wording of a cause. -/
def Invalid.message : Invalid → String
  | .noColon raw => "missing ':' in object name " ++ Text.quoted raw
  | .noDomain raw => "empty domain in object name " ++ Text.quoted raw
  | .noProperties raw => "no key properties in object name " ++ Text.quoted raw
  | .badProperty property raw =>
    "malformed key property " ++ Text.quoted property ++ " in " ++ Text.quoted raw

/-- A property written with its equals sign. -/
def propertyText (p : KeyProperty) : String := p.key ++ "=" ++ p.value

/-- The name as it is written. -/
def text (n : ObjectName) : String :=
  n.domain ++ ":" ++ ",".intercalate (n.properties.map propertyText)

/-- Reads one property: a key and a value, neither of them empty. -/
def readProperty? (cs : List Char) : Option KeyProperty :=
  match Text.cut? '=' cs with
  | some (k :: key, v :: value) => some ⟨String.ofList (k :: key), String.ofList (v :: value)⟩
  | _ => none

/-- Reads properties from left to right; the first that is none is reported. -/
def readProperties (raw : String) : List (List Char) → Except Invalid (List KeyProperty)
  | [] => .ok []
  | cs :: rest =>
    match readProperty? cs with
    | none => .error (.badProperty (String.ofList cs) raw)
    | some p => (readProperties raw rest).map (p :: ·)

/-- Reads a name. -/
def read (raw : String) : Except Invalid ObjectName :=
  match Text.cut? ':' raw.toList with
  | none => .error (.noColon raw)
  | some ([], _) => .error (.noDomain raw)
  | some (_, []) => .error (.noProperties raw)
  | some (domain, properties) =>
    (readProperties raw (Text.pieces ',' properties)).map fun ps => ⟨String.ofList domain, ps⟩

end ObjectName

end RemoteRecorder
