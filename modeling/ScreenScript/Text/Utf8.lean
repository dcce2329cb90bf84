import ScreenScript.Text.Basic

/-!
# UTF-8

Decoding splits octets into characters and *invalid parts*: an octet that starts no character, or
the longest beginning of a character that is not continued. A strict reader refuses a text with an
invalid part, a lenient one drops such parts, and a marking one shows each as U+FFFD.
-/

namespace ScreenScript

/-- The content of a file or message, octet by octet. -/
abbrev Octets := List UInt8

namespace Utf8

/-- The octets of one character. -/
def encodeChar (c : Char) : Octets := String.utf8EncodeChar c

/-- The octets of a text. -/
def encode (t : Text) : Octets := t.flatMap encodeChar

/-- What the first octet of a character announces: how many octets follow, the bits it carries
itself, and the bounds of the second octet. The bounds exclude overlong forms, surrogates and code
points above U+10FFFF. -/
def lead? (first : Nat) : Option (Nat × Nat × Nat × Nat) :=
  if first < 0x80 then some (0, first, 0, 0)
  else if first < 0xC2 then none
  else if first < 0xE0 then some (1, first - 0xC0, 0x80, 0xBF)
  else if first = 0xE0 then some (2, 0, 0xA0, 0xBF)
  else if first = 0xED then some (2, 0xD, 0x80, 0x9F)
  else if first < 0xF0 then some (2, first - 0xE0, 0x80, 0xBF)
  else if first = 0xF0 then some (3, 0, 0x90, 0xBF)
  else if first < 0xF4 then some (3, first - 0xF0, 0x80, 0xBF)
  else if first = 0xF4 then some (3, 4, 0x80, 0x8F)
  else none

/-- A character of which some octets have been read. -/
structure Begun where
  /-- the bits read so far -/
  bits : Nat
  /-- how many octets are to follow -/
  missing : Nat
  /-- the least value of the next octet -/
  low : Nat
  /-- its greatest value -/
  high : Nat
  deriving DecidableEq, Repr

/-- Starts reading a character. -/
def startChar (octet : UInt8) : Option Char ⊕ Begun :=
  match lead? octet.toNat with
  | none => .inl none
  | some (0, bits, _, _) => .inl (some (Char.ofNat bits))
  | some (missing, bits, low, high) => .inr ⟨bits, missing, low, high⟩

/-- The characters and invalid parts (`none`) of some octets, given the character begun before
them. -/
def scanFrom : Option Begun → Octets → List (Option Char)
  | none, [] => []
  | some _, [] => [none]
  | none, octet :: rest =>
    match startChar octet with
    | .inl part => part :: scanFrom none rest
    | .inr begun => scanFrom (some begun) rest
  | some begun, octet :: rest =>
    if begun.low ≤ octet.toNat && octet.toNat ≤ begun.high then
      let bits := begun.bits * 64 + (octet.toNat - 0x80)
      if begun.missing = 1 then
        some (Char.ofNat bits) :: scanFrom none rest
      else
        scanFrom (some ⟨bits, begun.missing - 1, 0x80, 0xBF⟩) rest
    else
      match startChar octet with
      | .inl part => none :: part :: scanFrom none rest
      | .inr next => none :: scanFrom (some next) rest

/-- The characters and invalid parts of some octets. -/
def scan (octets : Octets) : List (Option Char) := scanFrom none octets

/-- The characters of a scan, if no part of it is invalid. -/
def valid? : List (Option Char) → Option Text
  | [] => some []
  | none :: _ => none
  | some c :: rest => (valid? rest).map (c :: ·)

/-- The text that the octets encode, if they do. -/
def decode? (octets : Octets) : Option Text := valid? (scan octets)

/-- The text of the octets without their invalid parts. -/
def decodeDropping (octets : Octets) : Text := (scan octets).filterMap id

/-- The text of the octets with U+FFFD for each invalid part. -/
def decodeMarking (octets : Octets) : Text := (scan octets).map (·.getD '\uFFFD')

end Utf8

end ScreenScript
