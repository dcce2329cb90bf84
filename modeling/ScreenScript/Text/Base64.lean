import ScreenScript.Text.Utf8

/-!
# Base64

Three octets become four characters of a 64-letter alphabet; `=` fills up the last group.
-/

namespace ScreenScript.Base64

/-- The alphabet, by value. -/
def alphabet : Text := "ABCDEFGHIJKLMNOPQRSTUVWXYZabcdefghijklmnopqrstuvwxyz0123456789+/".toList

/-- The letter for the lowest six bits of a number. -/
def letter (n : Nat) : Char := (alphabet[n % 64]?).getD '='

/-- The Base64 text of some octets. -/
def encode : Octets → Text
  | [] => []
  | [a] =>
    let bits := a.toNat * 16
    [letter (bits / 64), letter bits, '=', '=']
  | [a, b] =>
    let bits := (a.toNat * 256 + b.toNat) * 4
    [letter (bits / 4096), letter (bits / 64), letter bits, '=']
  | a :: b :: c :: rest =>
    let bits := (a.toNat * 256 + b.toNat) * 256 + c.toNat
    [letter (bits / 262144), letter (bits / 4096), letter (bits / 64), letter bits] ++ encode rest

end ScreenScript.Base64
