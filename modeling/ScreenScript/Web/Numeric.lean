import ScreenScript.Text.Digit

/-!
# Numeric hosts

A host may be a number instead of a name: four octets between full stops, or eight groups of
hexadecimal digits between colons, of which two colons in a row stand for as many groups of zeros as
are missing.
-/

namespace ScreenScript.Numeric

/-- Whether a text is an octet in decimal digits, without leading zeros. -/
def isOctet (t : Text) : Bool :=
  t ≠ [] && t.length ≤ 3 && t.all Text.isAsciiDigit && (t = ['0'] || t.head? ≠ some '0') &&
    Text.ofAsciiDigits t ≤ 255

/-- Whether a text is four octets between full stops. -/
def isQuad (t : Text) : Bool := (t.fields '.').length = 4 && (t.fields '.').all isOctet

/-- Whether a character is a hexadecimal digit. -/
def isHexDigit (c : Char) : Bool :=
  Text.isAsciiDigit c || 'a' ≤ c && c ≤ 'f' || 'A' ≤ c && c ≤ 'F'

/-- Whether a text is a group of hexadecimal digits. -/
def isGroup (t : Text) : Bool := t ≠ [] && t.length ≤ 4 && t.all isHexDigit

/-- The groups with two groups for a last one that is four octets. -/
def withoutQuad? (groups : List Text) : Option (List Text) :=
  match groups.getLast? with
  | some last =>
    if last.elem '.' then
      if isQuad last then some (groups.dropLast ++ [['0'], ['0']]) else none
    else
      some groups
  | none => some groups

/-- The groups on one side of two colons: none if the colons are at the end of the text. -/
def side (groups : List Text) : List Text := if groups = [[]] then [] else groups

/-- Whether the pieces between the colons are groups, one gap in their middle apart. -/
def areGroups (groups : List Text) : Bool :=
  let front := groups.head?.toList ++ (groups.drop 1).takeWhile (· ≠ [])
  let behind := groups.drop (front.length + 1)
  if behind = [] then
    groups.length = 8 && groups.all isGroup
  else
    (side front).all isGroup && (side behind).all isGroup &&
      (side front).length + (side behind).length ≤ 7

/-- Whether a text is eight groups between colons. A zone may follow behind a percent sign. -/
def isGrouped (t : Text) : Bool :=
  let groups := t.takeWhile (· ≠ '%')
  let zone := t.drop groups.length
  let pieces := Text.fields ':' groups
  zone ≠ ['%'] && !(zone.drop 1).elem '%' && 3 ≤ pieces.length && (withoutQuad? pieces).any areGroups

/-! ## Hosts that look like four numbers

Digits, any character, digits, and so on: a host that has this form in any way has to be four octets. -/

/-- The stages that a character leads to: even ones are before the digits of a number, odd ones
among them. -/
def advance (c : Char) (stage : Nat) : List Nat :=
  (if Text.isAsciiDigit c then [if stage % 2 = 0 then stage + 1 else stage] else []) ++
    if stage % 2 = 1 && stage < 7 then [stage + 1] else []

/-- Whether a text consists of four numbers with one character between every two. -/
def looksLikeQuad (t : Text) : Bool :=
  (t.foldl (fun stages c => (stages.flatMap (advance c)).eraseDups) [0]).elem 7

end ScreenScript.Numeric
