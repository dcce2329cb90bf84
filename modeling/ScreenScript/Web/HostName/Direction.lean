import ScreenScript.Web.HostName.Mark

/-!
# Directions

A label with a character that is written from the right to the left has to be readable whichever way
the text around it runs (Unicode 14.0).

* `Direction.ofChar` — the direction of each character of names
* `isReadable` — the rule
-/

namespace ScreenScript.HostName

/-- Which way a character runs. -/
inductive Direction
  /-- to the right -/
  | right
  /-- to the left -/
  | left
  /-- a digit that runs to the right anywhere -/
  | digit
  /-- a digit of a script that runs to the left -/
  | leftDigit
  /-- the way of the character before it -/
  | mark
  /-- the way of the text around it -/
  | neutral
  deriving DecidableEq, Repr

/-- The characters that run to the left. -/
def leftRanges : List (Nat × Nat) := [
  (0x05d0, 0x05ea), (0x05ef, 0x05f4), (0x0620, 0x063f), (0x0641, 0x064a), (0x066e, 0x066f),
  (0x0671, 0x0674), (0x0679, 0x06d3), (0x06d5, 0x06d5), (0x06e5, 0x06e6), (0x06ee, 0x06ef),
  (0x06fa, 0x06ff), (0x0710, 0x0710), (0x0712, 0x072f), (0x074d, 0x07a5), (0x07b1, 0x07b1),
  (0x07c0, 0x07ea), (0x07f4, 0x07f5), (0x0800, 0x0815), (0x081a, 0x081a), (0x0824, 0x0824),
  (0x0828, 0x0828), (0x0840, 0x0858), (0x0860, 0x086a), (0x0870, 0x0887), (0x0889, 0x088e),
  (0x08a0, 0x08c9), (0xfe73, 0xfe73), (0x10800, 0x10805), (0x10808, 0x10808), (0x1080a, 0x10835),
  (0x10837, 0x10838), (0x1083c, 0x1083c), (0x1083f, 0x10855), (0x10860, 0x10876),
  (0x10880, 0x1089e), (0x108e0, 0x108f2), (0x108f4, 0x108f5), (0x10900, 0x10915),
  (0x10920, 0x10939), (0x10980, 0x109b7), (0x109be, 0x109bf), (0x10a00, 0x10a00),
  (0x10a10, 0x10a13), (0x10a15, 0x10a17), (0x10a19, 0x10a35), (0x10a60, 0x10a7c),
  (0x10a80, 0x10a9c), (0x10ac0, 0x10ac7), (0x10ac9, 0x10ae4), (0x10b00, 0x10b35),
  (0x10b40, 0x10b55), (0x10b60, 0x10b72), (0x10b80, 0x10b91), (0x10c00, 0x10c48),
  (0x10cc0, 0x10cf2), (0x10d00, 0x10d23), (0x10e80, 0x10ea9), (0x10eb0, 0x10eb1),
  (0x10f00, 0x10f1c), (0x10f27, 0x10f27), (0x10f30, 0x10f45), (0x10f70, 0x10f81),
  (0x10fb0, 0x10fc4), (0x10fe0, 0x10ff6), (0x1e800, 0x1e8c4), (0x1e922, 0x1e943),
  (0x1e94b, 0x1e94b), (0x1e950, 0x1e959)
]

/-- The digits that run to the right anywhere. -/
def digitRanges : List (Nat × Nat) := [
  (0x0030, 0x0039), (0x06f0, 0x06f9)
]

/-- The digits of scripts that run to the left. -/
def leftDigitRanges : List (Nat × Nat) := [
  (0x0660, 0x0669), (0x10d30, 0x10d39)
]

/-- The characters that run as the text around them does. -/
def neutralRanges : List (Nat × Nat) := [
  (0x002d, 0x002d), (0x00b7, 0x00b7), (0x02b9, 0x02ba), (0x02c6, 0x02cf), (0x02ec, 0x02ec),
  (0x0375, 0x0375), (0x200c, 0x200d), (0x2e2f, 0x2e2f), (0x30fb, 0x30fb), (0xa67f, 0xa67f),
  (0xa717, 0xa71f), (0xa788, 0xa788)
]

/-- Which way a character of names runs. -/
def Direction.ofChar (c : Char) : Direction :=
  if isNonspacing c then .mark
  else if isWithin leftRanges c then .left
  else if isWithin digitRanges c then .digit
  else if isWithin leftDigitRanges c then .leftDigit
  else if isWithin neutralRanges c then .neutral
  else .right

/-- The last direction that is not a mark's. -/
def lastDirection? (directions : List Direction) : Option Direction :=
  directions.reverse.find? (· ≠ .mark)

/-- Whether a label whose characters have these directions can be read anywhere. Labels in which
nothing runs to the left always can. In the others, the first character runs to the left, nothing runs
to the right but digits, these are of one kind, and the last character that is no mark is not
neutral. -/
def isReadable (directions : List Direction) : Bool :=
  if directions.all fun d => d ≠ .left && d ≠ .leftDigit then
    true
  else
    directions.head? = some .left && directions.all (· ≠ .right) &&
      !(directions.elem .digit && directions.elem .leftDigit) &&
      lastDirection? directions ≠ some .neutral

end ScreenScript.HostName
