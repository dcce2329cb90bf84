import ScreenScript.Text.Basic

/-!
# Decimal digits of every script

Each script keeps its ten digits together and in order, so the table holds the zeros alone and a
digit's value is its distance from its zero (Unicode 14.0). Formats that are written by programs know
the digits of ASCII alone.
-/

namespace ScreenScript.Text

/-- The code point of the digit zero in every script that has decimal digits. -/
def digitZeros : List Nat := [
  0x0030, 0x0660, 0x06f0, 0x07c0, 0x0966, 0x09e6, 0x0a66, 0x0ae6, 0x0b66, 0x0be6, 0x0c66, 0x0ce6,
  0x0d66, 0x0de6, 0x0e50, 0x0ed0, 0x0f20, 0x1040, 0x1090, 0x17e0, 0x1810, 0x1946, 0x19d0, 0x1a80,
  0x1a90, 0x1b50, 0x1bb0, 0x1c40, 0x1c50, 0xa620, 0xa8d0, 0xa900, 0xa9d0, 0xa9f0, 0xaa50, 0xabf0,
  0xff10, 0x104a0, 0x10d30, 0x11066, 0x110f0, 0x11136, 0x111d0, 0x112f0, 0x11450, 0x114d0,
  0x11650, 0x116c0, 0x11730, 0x118e0, 0x11950, 0x11c50, 0x11d50, 0x11da0, 0x16a60, 0x16ac0,
  0x16b50, 0x1d7ce, 0x1d7d8, 0x1d7e2, 0x1d7ec, 0x1d7f6, 0x1e140, 0x1e2f0, 0x1e950, 0x1fbf0
]

/-- The value of a decimal digit, and nothing for any other character. -/
def digitValue? (c : Char) : Option Nat :=
  (digitZeros.find? fun origin => origin ≤ c.toNat && c.toNat < origin + 10).map (c.toNat - ·)

/-- A decimal digit of some script. -/
def isDigit (c : Char) : Bool := (digitValue? c).isSome

/-- The ASCII digit of a value below ten. -/
def digitChar (value : Fin 10) : Char := Char.ofNat (0x30 + value)

/-- A digit of ASCII. -/
def isAsciiDigit (c : Char) : Bool := '0' ≤ c && c ≤ '9'

/-- The number that digits of ASCII stand for, the most significant first. -/
def ofAsciiDigits (digits : Text) : Nat := digits.foldl (fun n c => n * 10 + (c.toNat - 48)) 0

/-- The text without its underscores. None of them may stand at an end or next to another one. -/
def withoutUnderscores? (t : Text) : Option Text :=
  if t.head? = some '_' || t.getLast? = some '_' || contains "__".toList t then none
  else some (t.filter (· ≠ '_'))

end ScreenScript.Text
