import ScreenScript.Web.HostName.Mark

/-!
# Characters that need neighbours

Some characters are permitted in a name only where they make a difference or belong: the joiners, some
punctuation of single scripts, and two rows of digits that are easily confused.
-/

namespace ScreenScript.HostName

/-- The letters that join the letters on both sides. -/
def bothJoiningRanges : List (Nat × Nat) := [
  (0x0620, 0x0620), (0x0626, 0x0626), (0x0628, 0x0628), (0x062a, 0x062e), (0x0633, 0x063f),
  (0x0641, 0x0647), (0x0649, 0x064a), (0x066e, 0x066f), (0x0679, 0x0687), (0x069a, 0x06bf),
  (0x06c1, 0x06c2), (0x06cc, 0x06cc), (0x06ce, 0x06ce), (0x06d0, 0x06d1), (0x06fa, 0x06fc),
  (0x06ff, 0x06ff), (0x0712, 0x0714), (0x071a, 0x071d), (0x071f, 0x0727), (0x0729, 0x0729),
  (0x072b, 0x072b), (0x072d, 0x072e), (0x074e, 0x0758), (0x075c, 0x076a), (0x076d, 0x0770),
  (0x0772, 0x0772), (0x0775, 0x0777), (0x077a, 0x077f), (0x07ca, 0x07ea), (0x0841, 0x0845),
  (0x0848, 0x0848), (0x084a, 0x0853), (0x0855, 0x0855), (0x0860, 0x0860), (0x0862, 0x0865),
  (0x0868, 0x0868), (0x0886, 0x0886), (0x0889, 0x088d), (0x08a0, 0x08a9), (0x08af, 0x08b0),
  (0x08b3, 0x08b8), (0x08ba, 0x08c8), (0x1820, 0x1878), (0x1887, 0x18a8), (0x18aa, 0x18aa),
  (0xa840, 0xa871), (0x10ac0, 0x10ac4), (0x10ad3, 0x10ad6), (0x10ad8, 0x10adc),
  (0x10ade, 0x10ae0), (0x10b80, 0x10b80), (0x10b82, 0x10b82), (0x10b86, 0x10b88),
  (0x10b8a, 0x10b8b), (0x10b8d, 0x10b8d), (0x10b90, 0x10b90), (0x10d01, 0x10d21),
  (0x10d23, 0x10d23), (0x10f30, 0x10f32), (0x10f34, 0x10f44), (0x10f70, 0x10f73),
  (0x10f76, 0x10f81), (0x10fb0, 0x10fb0), (0x10fb2, 0x10fb3), (0x10fb8, 0x10fb8),
  (0x10fbb, 0x10fbc), (0x10fbe, 0x10fbf), (0x10fc1, 0x10fc1), (0x10fc4, 0x10fc4),
  (0x1e922, 0x1e943)
]

/-- The letters that join the letter before them alone. -/
def priorJoiningRanges : List (Nat × Nat) := [
  (0x0622, 0x0625), (0x0627, 0x0627), (0x0629, 0x0629), (0x062f, 0x0632), (0x0648, 0x0648),
  (0x0671, 0x0673), (0x0688, 0x0699), (0x06c0, 0x06c0), (0x06c3, 0x06cb), (0x06cd, 0x06cd),
  (0x06cf, 0x06cf), (0x06d2, 0x06d3), (0x06d5, 0x06d5), (0x06ee, 0x06ef), (0x0710, 0x0710),
  (0x0715, 0x0719), (0x071e, 0x071e), (0x0728, 0x0728), (0x072a, 0x072a), (0x072c, 0x072c),
  (0x072f, 0x072f), (0x074d, 0x074d), (0x0759, 0x075b), (0x076b, 0x076c), (0x0771, 0x0771),
  (0x0773, 0x0774), (0x0778, 0x0779), (0x0840, 0x0840), (0x0846, 0x0847), (0x0849, 0x0849),
  (0x0854, 0x0854), (0x0856, 0x0858), (0x0867, 0x0867), (0x0869, 0x086a), (0x0870, 0x0882),
  (0x088e, 0x088e), (0x08aa, 0x08ac), (0x08ae, 0x08ae), (0x08b1, 0x08b2), (0x08b9, 0x08b9),
  (0x10ac5, 0x10ac5), (0x10ac7, 0x10ac7), (0x10ac9, 0x10aca), (0x10ace, 0x10ad2),
  (0x10add, 0x10add), (0x10ae1, 0x10ae1), (0x10ae4, 0x10ae4), (0x10b81, 0x10b81),
  (0x10b83, 0x10b85), (0x10b89, 0x10b89), (0x10b8c, 0x10b8c), (0x10b8e, 0x10b8f),
  (0x10b91, 0x10b91), (0x10d22, 0x10d22), (0x10f33, 0x10f33), (0x10f74, 0x10f75),
  (0x10fb4, 0x10fb6), (0x10fb9, 0x10fba), (0x10fbd, 0x10fbd), (0x10fc2, 0x10fc3)
]

/-- The letters that join the letter behind them alone. -/
def nextJoiningRanges : List (Nat × Nat) := [
  (0xa872, 0xa872), (0x10acd, 0x10acd), (0x10ad7, 0x10ad7), (0x10d00, 0x10d00)
]

/-- Marks with room of their own across which letters join nevertheless. -/
def alsoTransparent : List (Nat × Nat) := [
  (0x0cbf, 0x0cbf), (0x0cc6, 0x0cc6), (0x11a07, 0x11a08), (0x11c3f, 0x11c3f), (0x1e94b, 0x1e94b)
]

/-- Whether letters join across the character. -/
def isTransparent (c : Char) : Bool :=
  isNonspacing c && c.toNat ≠ 0x1171e || isWithin alsoTransparent c

/-- The Greek characters of names. -/
def greekRanges : List (Nat × Nat) := [
  (0x0371, 0x0371), (0x0373, 0x0373), (0x0375, 0x0375), (0x0377, 0x0377), (0x037b, 0x037d),
  (0x0390, 0x0390), (0x03ac, 0x03ce), (0x03d7, 0x03d7), (0x03d9, 0x03d9), (0x03db, 0x03db),
  (0x03dd, 0x03dd), (0x03df, 0x03df), (0x03e1, 0x03e1), (0x03f3, 0x03f3), (0x03f8, 0x03f8),
  (0x03fb, 0x03fc), (0x1d26, 0x1d2a), (0x1f00, 0x1f07), (0x1f10, 0x1f15), (0x1f20, 0x1f27),
  (0x1f30, 0x1f37), (0x1f40, 0x1f45), (0x1f50, 0x1f57), (0x1f60, 0x1f67), (0x1f70, 0x1f70),
  (0x1f72, 0x1f72), (0x1f74, 0x1f74), (0x1f76, 0x1f76), (0x1f78, 0x1f78), (0x1f7a, 0x1f7a),
  (0x1f7c, 0x1f7c), (0x1fb0, 0x1fb1), (0x1fb6, 0x1fb6), (0x1fc6, 0x1fc6), (0x1fd0, 0x1fd2),
  (0x1fd6, 0x1fd7), (0x1fe0, 0x1fe2), (0x1fe4, 0x1fe7), (0x1ff6, 0x1ff6), (0xab65, 0xab65)
]

/-- The Hebrew characters of names. -/
def hebrewRanges : List (Nat × Nat) := [
  (0x0591, 0x05bd), (0x05bf, 0x05bf), (0x05c1, 0x05c2), (0x05c4, 0x05c5), (0x05c7, 0x05c7),
  (0x05d0, 0x05ea), (0x05ef, 0x05f4), (0xfb1e, 0xfb1e)
]

/-- The Chinese and Japanese characters of names. -/
def eastAsianRanges : List (Nat × Nat) := [
  (0x3005, 0x3005), (0x3007, 0x3007), (0x3041, 0x3096), (0x309d, 0x309e), (0x30a1, 0x30fa),
  (0x30fd, 0x30fe), (0x31f0, 0x31ff), (0x3400, 0x4dbf), (0x4e00, 0x9fff), (0xfa0e, 0xfa0f),
  (0xfa11, 0xfa11), (0xfa13, 0xfa14), (0xfa1f, 0xfa1f), (0xfa21, 0xfa21), (0xfa23, 0xfa24),
  (0xfa27, 0xfa29), (0x16fe3, 0x16fe3), (0x16ff0, 0x16ff1), (0x1aff0, 0x1aff3),
  (0x1aff5, 0x1affb), (0x1affd, 0x1affe), (0x1b000, 0x1b122), (0x1b150, 0x1b152),
  (0x1b164, 0x1b167), (0x20000, 0x2a6df), (0x2a700, 0x2b738), (0x2b740, 0x2b81d),
  (0x2b820, 0x2cea1), (0x2ceb0, 0x2ebe0), (0x30000, 0x3134a)
]

/-- The digits of Arabic. -/
def arabicDigits : List (Nat × Nat) := [(0x0660, 0x0669)]

/-- The digits of Persian. -/
def persianDigits : List (Nat × Nat) := [(0x06f0, 0x06f9)]

/-- The first character across which letters do not join. -/
def nearest? (t : Text) : Option Char := (t.dropWhile isTransparent).head?

/-- Whether the first character that counts is in one of two kinds of letters. -/
def meets (ranges : List (Nat × Nat)) (t : Text) : Bool :=
  (nearest? t).any fun c => isWithin ranges c || isWithin bothJoiningRanges c

/-- Whether a character that is not permitted at any place is permitted between `before`, the
nearest character first, and `behind`. -/
def isPermittedBetween (before : Text) (c : Char) (behind : Text) : Bool :=
  let follows (ranges : List (Nat × Nat)) := before.head?.any (isWithin ranges)
  let occurs (ranges : List (Nat × Nat)) := (before ++ behind).any (isWithin ranges)
  let killed := before.head?.any fun mark => combiningClass mark = vowelKiller
  match c with
  | '\u200C' => killed || meets nextJoiningRanges before && meets priorJoiningRanges behind
  | '\u200D' => killed
  | '·' => before.head? = some 'l' && behind.head? = some 'l'
  | '\u0375' => behind.head?.any (isWithin greekRanges)
  | '\u05F3' => follows hebrewRanges
  | '\u05F4' => follows hebrewRanges
  | '・' => occurs eastAsianRanges
  | c =>
    isWithin arabicDigits c && !occurs persianDigits ||
      isWithin persianDigits c && !occurs arabicDigits

end ScreenScript.HostName
