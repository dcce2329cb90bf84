import ScreenScript.Web.HostName.Composite
import ScreenScript.Web.HostName.Direction
import ScreenScript.Web.HostName.Joining
import ScreenScript.Web.HostName.Permitted
import ScreenScript.Web.HostName.Punycode

/-!
# Host names beyond ASCII

A host name consists of labels. Those with characters beyond ASCII are sent in Punycode behind a mark,
if they are labels at all.

* `isLabel` — the labels
* `encode?` — the ASCII form of a name
-/

namespace ScreenScript.HostName

/-- The greatest length of a label. -/
def maxLabel : Nat := 63

/-- The greatest length of a name. -/
def maxName : Nat := 253

/-- What stands before the Punycode of a label. -/
def punycodeMark : Text := "xn--".toList

/-- Whether all characters of a label are permitted where they stand, behind the characters
`before`, the nearest one first. -/
def arePermitted (before : Text) : Text → Bool
  | [] => true
  | c :: rest =>
    (isPermitted c || isPermittedBetween before c rest) && arePermitted (c :: before) rest

/-- Whether the hyphens of a label stand where they may: not at its ends, nor at its third and
fourth place together. -/
def isHyphenated (t : Text) : Bool :=
  t.head? ≠ some '-' && t.getLast? ≠ some '-' && (t.drop 2).take 2 ≠ ['-', '-']

/-- Whether a text is a label. -/
def isLabel (t : Text) : Bool :=
  t ≠ [] && isComposed t && isHyphenated t && !t.head?.any isMark && arePermitted [] t &&
    isReadable (t.map Direction.ofChar)

/-- Whether a text in ASCII is a label or the ASCII form of one. -/
def isAsciiLabel (t : Text) : Bool :=
  if punycodeMark.isPrefixOf t then
    let writing := t.drop punycodeMark.length
    writing ≠ [] && writing.getLast? ≠ some '-' && (Punycode.decode? writing).any isLabel
  else
    isLabel t

/-- The ASCII form of a label, if it is one and not too long. -/
def encodeLabel? (t : Text) : Option Text :=
  if maxLabel < t.length then
    none
  else if t.isAscii then
    if isAsciiLabel t then some t else none
  else if isLabel t then
    let encoded := punycodeMark ++ Punycode.encode t
    if encoded.length ≤ maxLabel then some encoded else none
  else
    none

/-- The labels of a name. Several full stops separate them. -/
def labels (t : Text) : List Text :=
  (((t.replaceChar '。' '.').replaceChar '．' '.').replaceChar '｡' '.').fields '.'

/-- The ASCII form of a name in lower case, if it is one. A full stop may stand at its end. -/
def encode? (t : Text) : Option Text := do
  let all := labels t
  let isClosed := all.getLast? = some []
  let encoded ← (if isClosed then all.dropLast else all).mapM encodeLabel?
  let name := ['.'].intercalate encoded
  if encoded = [] || maxName < name.length then none
  else if isClosed then return name ++ ['.']
  else return name

end ScreenScript.HostName
