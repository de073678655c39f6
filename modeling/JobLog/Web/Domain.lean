import JobLog.Text.Mark
import JobLog.Web.Domain.Direction
import JobLog.Web.Domain.Joining
import JobLog.Web.Domain.Mapping
import JobLog.Web.Punycode

/-!
# Names of domains

A name in any script is written in ASCII label by label: its characters are mapped, the text is
brought to its normal form, and each label with other characters than those of ASCII is written in
Punycode behind `xn--`. Labels must be well formed, also those that are in Punycode already, and in
a name with characters that are written from right to left every label needs one direction. This is
the processing of Unicode's technical standard 46 without limits on hyphens and lengths.
-/

namespace JobLog.Web.Domain

/-- What a label in Punycode starts with. -/
def mark : List Char := "xn--".toList

/-- Whether all characters are of ASCII. -/
def isAscii (s : List Char) : Bool :=
  s.all (·.toNat < 0x80)

/-- How many characters a label may have that is written in Punycode. -/
def encodeLimit : Nat := 1000

/-- How many characters a label may have that is read from Punycode. -/
def decodeLimit : Nat := 2000

/-- A part of a name between points: its text and how it is written in ASCII. -/
structure Label where
  text : List Char
  shown : List Char
  deriving DecidableEq, Repr

/-- Whether the characters of a label go together: it does not start with a mark, and its joiners
stand where they may. -/
def isWellFormed (label : List Char) : Bool :=
  !(label.head?.any Text.isMark) && joinersFit [] label

/-- The text of a label in Punycode, which must need it and be in its mapped and normal form. -/
def decoded? (written : List Char) : Option (List Char) := do
  guard (written.getLast? ≠ some '-' ∧ written.length ≤ decodeLimit)
  let text ← Punycode.decode? written
  guard (!isAscii text && text.all standsForItself && Text.normal text = text)
  guard (isWellFormed text)
  return text

/-- A label of a mapped name. -/
def label? (s : List Char) : Option Label :=
  if mark.isPrefixOf s then do
    guard (isAscii s)
    return ⟨← decoded? (s.drop mark.length), s⟩
  else if isAscii s then some ⟨s, s⟩
  else do
    guard (isWellFormed s && s.length ≤ encodeLimit)
    return ⟨s, mark ++ Punycode.encode s⟩

/-- The labels of a name. -/
def labels? (name : List Char) : Option (List Label) := do
  let images ← name.mapM image?
  let labels ← ((Text.normal images.flatten).splitOn '.').mapM label?
  guard (!(labels.any fun l => l.text.any turns) || labels.all fun l => hasDirection l.text)
  return labels

/-- A name in ASCII. -/
def toAscii? (name : List Char) : Option (List Char) :=
  (labels? name).map fun labels => ['.'].intercalate (labels.map Label.shown)

end JobLog.Web.Domain
