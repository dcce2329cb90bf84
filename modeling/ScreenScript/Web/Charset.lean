import ScreenScript.Text.Utf8
import ScreenScript.Web.Charset.Chinese
import ScreenScript.Web.Charset.Octet
import ScreenScript.Web.Flaw

/-!
# Character sets

An answer may say in which character set its text is written. Octets that are no characters in it are
shown as U+FFFD. Some names are taken for character sets although they are none, and to read a text in these is
a fault.

* `Charset.named?` — the character set of a name
* `Charset.decode` — the text of some octets
-/

namespace ScreenScript

/-- How the octets of a text are read. -/
inductive Charset
  /-- UTF-8, in which a byte order mark is a character or, if it `isMarked`, is not -/
  | utf8 (isMarked : Bool)
  /-- UTF-16 with the high octet first or last, or as a byte order mark says -/
  | utf16 (isHighFirst : Option Bool)
  /-- UTF-32 with the highest octet first or last, or as a byte order mark says -/
  | utf32 (isHighFirst : Option Bool)
  /-- one octet for each character -/
  | octets (upper : String)
  /-- Chinese in two octets, in the older set or the newer one -/
  | chinese (isOlder : Bool)
  /-- none -/
  | raising (fault : WebFault)
  deriving DecidableEq, Repr

namespace Charset

/-- The names of the character sets of more than one octet, and of what is taken for one. -/
def longSets : List (List String × Charset) := [
  (["utf_8", "u8", "utf", "utf8", "utf8_ucs2", "utf8_ucs4", "cp65001"], utf8 false),
  (["utf_8_sig"], utf8 true),
  (["utf_16", "u16", "utf16"], utf16 none),
  (["utf_16_le", "unicodelittleunmarked", "utf_16le"], utf16 (some false)),
  (["utf_16_be", "unicodebigunmarked", "utf_16be"], utf16 (some true)),
  (["utf_32", "u32", "utf32"], utf32 none),
  (["utf_32_le", "utf_32le"], utf32 (some false)),
  (["utf_32_be", "utf_32be"], utf32 (some true)),
  (["gbk", "936", "cp936", "ms936"], chinese false),
  (["gb2312", "chinese", "csiso58gb231280", "euc_cn", "euccn", "eucgb2312_cn", "gb2312_1980",
    "gb2312_80", "iso_ir_58", "x_mac_simp_chinese"], chinese true),
  (["base64_codec", "base64", "base_64", "bz2_codec", "bz2", "hex_codec", "hex", "quopri_codec", "quopri",
    "quoted_printable", "quotedprintable", "uu_codec", "uu", "zlib_codec", "zip", "zlib"],
    raising (.ofStrings "AssertionError" "")),
  (["rot_13", "rot13"], raising (.ofStrings "TypeError" "octets are no text")),
  (["idna"], raising (.ofStrings "UnicodeError" "Unsupported error handling replace")),
  (["undefined"], raising (.ofStrings "UnicodeError" "undefined encoding"))]

/-- A name with one underscore for whatever stands between letters, digits and full stops. -/
def plainName (t : Text) : Text :=
  let spaced := t.map fun c => if c.isAlphanum || c = '.' then c.toLower else ' '
  ['_'].intercalate ((Text.fields ' ' spaced).filter (· ≠ []))

/-- The character set of a name, in which underscores may stand for full stops. -/
def named? (t : Text) : Option Charset :=
  let name := plainName t
  let isAmong (names : List String) :=
    names.elem (String.ofList name) || names.elem (String.ofList (Text.replaceChar '.' '_' name))
  match longSets.find? fun (names, _) => isAmong names with
  | some (_, charset) => some charset
  | none => (octetSets.find? fun set => isAmong set.names).map fun set => octets set.upper

/-! ## Reading -/

/-- The text of octets in UTF-16, where `unit` makes a number of two octets. A number in the range of
the surrogates is a character only together with the next one. -/
def decodeUnits (unit : UInt8 → UInt8 → Nat) : Octets → Text
  | [] => []
  | [_] => ['\uFFFD']
  | a :: b :: rest =>
    let first := unit a b
    if first < 0xD800 || 0xDFFF < first then
      Char.ofNat first :: decodeUnits unit rest
    else if 0xDBFF < first then
      '\uFFFD' :: decodeUnits unit rest
    else
      match rest with
      | c :: d :: more =>
        let second := unit c d
        if 0xDC00 ≤ second && second ≤ 0xDFFF then
          Char.ofNat (0x10000 + (first - 0xD800) * 0x400 + (second - 0xDC00)) ::
            decodeUnits unit more
        else
          '\uFFFD' :: decodeUnits unit (c :: d :: more)
      | _ => ['\uFFFD']

/-- A number of two octets, the high one first or last. -/
def unitOf (isHighFirst : Bool) (a b : UInt8) : Nat :=
  if isHighFirst then a.toNat * 256 + b.toNat else b.toNat * 256 + a.toNat

/-- The text of octets in UTF-32, where `unit` makes a number of four octets. -/
def decodeWide (unit : UInt8 → UInt8 → UInt8 → UInt8 → Nat) : Octets → Text
  | [] => []
  | a :: b :: c :: d :: rest =>
    let code := unit a b c d
    (if code.isValidChar then Char.ofNat code else '\uFFFD') :: decodeWide unit rest
  | _ => ['\uFFFD']

/-- A number of four octets, the highest one first or last. -/
def wideOf (isHighFirst : Bool) (a b c d : UInt8) : Nat :=
  if isHighFirst then unitOf true a b * 65536 + unitOf true c d
  else unitOf false c d * 65536 + unitOf false a b

/-- The text of octets. Where nothing says in which order they are, two of them have none in UTF-16, and four in
UTF-32. -/
def decode (charset : Charset) (body : Octets) : Except WebFault Text :=
  match charset, body with
  | utf8 false, body => .ok (Utf8.decodeMarking body)
  | utf8 true, 0xEF :: 0xBB :: 0xBF :: rest => .ok (Utf8.decodeMarking rest)
  | utf8 true, body => .ok (Utf8.decodeMarking body)
  | utf16 (some isHighFirst), body => .ok (decodeUnits (unitOf isHighFirst) body)
  | utf16 none, 0xFF :: 0xFE :: rest => .ok (decodeUnits (unitOf false) rest)
  | utf16 none, 0xFE :: 0xFF :: rest => .ok (decodeUnits (unitOf true) rest)
  | utf16 none, _ :: _ :: _ => .error (.ofStrings "UnicodeError" "UTF-16 stream does not start with BOM")
  | utf16 none, body => .ok (decodeUnits (unitOf false) body)
  | utf32 (some isHighFirst), body => .ok (decodeWide (wideOf isHighFirst) body)
  | utf32 none, 0xFF :: 0xFE :: 0 :: 0 :: rest => .ok (decodeWide (wideOf false) rest)
  | utf32 none, 0 :: 0 :: 0xFE :: 0xFF :: rest => .ok (decodeWide (wideOf true) rest)
  | utf32 none, _ :: _ :: _ :: _ :: _ => .error (.ofStrings "UnicodeError" "UTF-32 stream does not start with BOM")
  | utf32 none, body => .ok (decodeWide (wideOf false) body)
  | octets upper, body =>
    let upper := upper.toList
    .ok (body.map fun octet =>
      if octet < 0x80 then Char.ofNat octet.toNat else (upper[octet.toNat - 0x80]?).getD '\uFFFD')
  | chinese false, body => .ok (decodeChinese chineseChar? body)
  | chinese true, body => .ok (decodeChinese olderChineseChar? body)
  | raising fault, _ => .error fault

end Charset

end ScreenScript
