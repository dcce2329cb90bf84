import ScreenScript.Web.Address
import ScreenScript.Web.Charset
import ScreenScript.Web.Library
import ScreenScript.Web.Packing

/-!
# A plain library for the web

The library that is used if no other one is given. It reads addresses as browsers do, unpacks answers, follows
none to another address, and decodes texts in the usual character sets.

* `WebLibrary.plain` — the library
* `WebLibrary.asciiOnly_plain` — it takes only keys in ASCII
-/

namespace ScreenScript.WebLibrary

/-- The fault of what has to be ASCII and is not. -/
def beyondAscii : WebFault := .ofStrings "UnicodeEncodeError" "character beyond ASCII"

/-- An address. -/
def addressOf (url : Text) : Except WebFault Address :=
  (Address.ofText url).mapError fun flaw => ⟨"InvalidURL".toList, flaw.message⟩

/-- The statuses of answers that name another address. -/
def redirections : List Int := [301, 302, 303, 307, 308]

/-- What is wrong with the address that an answer names. None is ever followed. -/
def redirectionFlaw? (status : Int) (headers : List (Text × Text)) : Option WebFlaw := do
  let location ← Header.value? "location".toList headers
  if redirections.elem status then
    match Address.ofText location with
    | .error flaw => return .declared ("Invalid URL in location header: ".toList ++ flaw.message ++ ['.'])
    | .ok address => return .other ⟨"InvalidURL".toList, (← address.completionFlaw?).message⟩
  else
    none

/-- The character set of an answer. -/
def charset (headers : List (Text × Text)) : Charset :=
  let named? := do
    let value ← Header.value? "content-type".toList headers
    Charset.named? (← Header.parameter? "charset".toList value)
  named?.getD (.utf8 false)

/-- The text of an unpacked body. -/
def decode (headers : List (Text × Text)) (body : Octets) : Except WebFault Text :=
  if body.isEmpty then .ok [] else (charset headers).decode body

/-- What becomes of an answer from an address. -/
def read (address : Address) (status : Int) (headers : List (Text × Text)) (body : Octets) :
    Except WebFlaw WebAnswer := do
  let body ← (Packing.unpack headers body).mapError fun flaw => .declared flaw.message
  if !address.isAbsolute then
    throw (.other (.ofStrings "ValueError" "answer from nowhere"))
  if let some flaw := redirectionFlaw? status headers then
    throw flaw
  return { status, header := fun name => Header.value? name headers, text := decode headers body }

/-- The library that is used if no other one is given. -/
def plain : WebLibrary where
  build url apiKey clientKey request := do
    let address ← addressOf url
    if !(apiKey.isAscii && clientKey.isAscii) then
      throw beyondAscii
    if !request.isSendable then
      throw (.ofStrings "ValueError" "number not allowed in a request")
    if !address.host.isAscii then
      throw beyondAscii
    return address.sent
  receive url
    | .failed reason => .error (.declared reason)
    | .broken fault => .error (.other fault)
    | .answered status headers body => do
      read (← (addressOf url).mapError .other) status headers body

/-- It takes only keys in ASCII. -/
theorem asciiOnly_plain : plain.AsciiOnly := by
  intro url apiKey clientKey request address h
  simp only [plain, bind, Except.bind] at h
  split at h
  · cases h
  · split at h
    · cases h
    · next hkeys =>
      rw [Bool.not_eq_true, Bool.not_eq_false', Bool.and_eq_true] at hkeys
      exact hkeys

end ScreenScript.WebLibrary
