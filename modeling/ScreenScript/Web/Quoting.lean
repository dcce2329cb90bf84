import ScreenScript.Text.Utf8

/-!
# Percent quoting

In a web address, a character that a component cannot hold is written as its octets in UTF-8, each
of them a percent sign and two hexadecimal digits. Percent signs themselves are left alone, so that
a quoted text stays as it is.
-/

namespace ScreenScript

/-- The components of a web address in which characters are quoted. -/
inductive Component
  /-- the user and password -/
  | user
  /-- the host -/
  | host
  /-- the path -/
  | path
  /-- the query -/
  | query
  /-- the fragment -/
  | fragment
  deriving DecidableEq, Repr

namespace Component

/-- The characters of ASCII, from the space on, that the component cannot hold. -/
def unsafeText : Component → Text
  | user => " \"#<>?\x60\x7b\x7d/;=@[\\]^|".toList
  | host => " #/:<>?@[]^".toList
  | path => " \"#<>?\x60\x7b\x7d".toList
  | query => " \"#<>".toList
  | fragment => " \"<>\x60".toList

/-- Whether the component can hold a character. -/
def holds (component : Component) (c : Char) : Bool :=
  ' ' ≤ c && c ≤ '~' && !component.unsafeText.elem c

/-- The digit of a value below sixteen. -/
def hexDigit (value : Nat) : Char :=
  if value < 10 then Char.ofNat ('0'.toNat + value) else Char.ofNat ('A'.toNat + value - 10)

/-- An octet behind a percent sign. -/
def quotedOctet (octet : UInt8) : Text :=
  ['%', hexDigit (octet.toNat / 16), hexDigit (octet.toNat % 16)]

/-- The text with the characters quoted that the component cannot hold. -/
def quote (component : Component) (t : Text) : Text :=
  t.flatMap fun c => if component.holds c then [c] else (Utf8.encodeChar c).flatMap quotedOctet

/-! ## Small laws -/

@[simp] theorem quote_nil (component : Component) : component.quote [] = [] := rfl

@[simp] theorem quote_append (component : Component) (s t : Text) :
    component.quote (s ++ t) = component.quote s ++ component.quote t := by
  simp [quote]

end Component

end ScreenScript
