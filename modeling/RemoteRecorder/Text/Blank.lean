/-!
# RemoteRecorder.Text.Blank

**White space.** The characters of Unicode's `White_Space` property, and the text
that is left when they are cut off at both ends.

* `isBlank` is a closed list: the property has had these 25 characters since
  Unicode 6.3, so no table is needed.
* `trim` works on the list of characters; `trimChars` is its view for proofs.
-/

namespace RemoteRecorder.Text

/-- The characters with Unicode's `White_Space` property. -/
def isBlank (c : Char) : Bool :=
  let n := c.toNat
  (9 ≤ n && n ≤ 13) || n == 0x20 || n == 0x85 || n == 0xa0 || n == 0x1680 ||
    (0x2000 ≤ n && n ≤ 0x200a) || n == 0x2028 || n == 0x2029 || n == 0x202f ||
    n == 0x205f || n == 0x3000

/-- The characters that are left when white space is cut off at both ends. -/
def trimChars (cs : List Char) : List Char :=
  ((cs.dropWhile isBlank).reverse.dropWhile isBlank).reverse

/-- The text that is left when white space is cut off at both ends. -/
def trim (s : String) : String :=
  String.ofList (trimChars s.toList)

@[simp] theorem toList_trim (s : String) : (trim s).toList = trimChars s.toList := by
  simp [trim]

/-- Nothing but white space. -/
def allBlank (s : String) : Bool :=
  s.toList.all isBlank

end RemoteRecorder.Text
