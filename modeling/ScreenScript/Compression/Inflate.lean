import ScreenScript.Compression.Deflate

/-!
# Reading compressed octets

The converse of compression, for all kinds of blocks: octets as they are, tokens in the fixed codes,
and tokens in codes that the block itself begins with. Octets that end too early are read as far as
they go.

* `Inflate.plain` — blocks alone
* `Inflate.framed` — blocks between a header and the checksum that `Deflate.compress` writes
* `Inflate.file` — blocks between the header and the checksums of a compressed file
-/

namespace ScreenScript

/-- What is wrong with compressed octets. -/
inductive InflateFlaw
  /-- they do not begin as they have to -/
  | header
  /-- they are compressed by another method -/
  | method
  /-- they refer farther back than anyone can keep -/
  | window
  /-- they refer to a text that is not with them -/
  | dictionary
  /-- their header holds what nobody knows -/
  | flags
  /-- the checksum of their header differs -/
  | headerSum
  /-- a block is of no kind -/
  | block
  /-- a block of octets has two different lengths -/
  | lengths
  /-- a block has more codes than there are -/
  | counts
  /-- the code of the codes is none -/
  | outerCode
  /-- a length of a code is repeated where there is none, or too often -/
  | repeated
  /-- the end of a block has no code -/
  | endless
  /-- the code of octets and lengths is none -/
  | literalCode
  /-- the code of distances is none -/
  | distanceCode
  /-- some bits are no octet and no length -/
  | literal
  /-- some bits are no distance -/
  | distance
  /-- a distance reaches back before the first octet -/
  | tooFar
  /-- the checksum differs -/
  | sum
  /-- the length differs -/
  | length
  deriving DecidableEq, Repr

/-- The flaw in words. -/
def InflateFlaw.message (flaw : InflateFlaw) : Text :=
  let prose :=
    match flaw with
    | header => "incorrect header check"
    | method => "unknown compression method"
    | window => "invalid window size"
    | dictionary => "need dictionary"
    | flags => "unknown header flags set"
    | headerSum => "header crc mismatch"
    | block => "invalid block type"
    | lengths => "invalid stored block lengths"
    | counts => "too many length or distance symbols"
    | outerCode => "invalid code lengths set"
    | repeated => "invalid bit length repeat"
    | endless => "invalid code -- missing end-of-block"
    | literalCode => "invalid literal/lengths set"
    | distanceCode => "invalid distances set"
    | literal => "invalid literal/length code"
    | distance => "invalid distance code"
    | tooFar => "invalid distance too far back"
    | sum => "incorrect data check"
    | length => "incorrect length check"
  "Error -3 while decompressing data: ".toList ++ prose.toList

namespace Inflate

open Deflate (Bits)

/-- Why reading stops. -/
inductive Halt
  /-- the octets have ended -/
  | short
  /-- something is wrong with them -/
  | flawed (flaw : InflateFlaw)
  deriving DecidableEq, Repr

/-- What is read from the beginning of some bits, and the bits behind it. -/
abbrev Reader (α : Type) := StateT Bits (Except Halt) α

/-- The bits of some octets. -/
def bitsOf (octets : Octets) : Bits := octets.flatMap fun octet => Deflate.lowFirst 8 octet.toNat

/-- Nothing is read, since something is wrong. -/
def refuse {α : Type} (flaw : InflateFlaw) : Reader α := fun _ => .error (.flawed flaw)

/-- Refuses what is wrong if a condition holds. -/
def refuseIf (condition : Bool) (flaw : InflateFlaw) : Reader Unit :=
  if condition then refuse flaw else pure ()

/-- A number of so many bits. -/
def number (count : Nat) : Reader Nat := fun bits =>
  let taken := bits.take count
  if taken.length < count then .error .short else .ok (Deflate.bitsValue taken, bits.drop count)

/-- So many octets. -/
def octets : Nat → Reader Octets
  | 0 => pure []
  | count + 1 => do
    let octet ← number 8
    return UInt8.ofNat octet :: (← octets count)

/-! ## Codes -/

/-- A code: how many symbols have one bit, two bits, …, and the symbols in this order. Of equal length,
the bits of one symbol are those of the symbol before it plus one. -/
structure Code where
  /-- the numbers of symbols of each length -/
  counts : List Nat
  /-- the symbols -/
  symbols : List Nat
  deriving DecidableEq, Repr

/-- The code in which the symbols 0, 1, … have these lengths; a symbol of length 0 has no bits. -/
def Code.ofLengths (lengths : List Nat) : Code :=
  let longest := lengths.foldl max 0
  let ofLength (length : Nat) := (lengths.zipIdx.filter fun (l, _) => l = length).map Prod.snd
  let groups := (List.range longest).map fun length => ofLength (length + 1)
  ⟨groups.map List.length, groups.flatten⟩

/-- How many more symbols there could be behind those of the counts, where `free` could have begun;
nothing if there are too many of them. -/
def freeBehind? : List Nat → Nat → Option Nat
  | [], free => some free
  | count :: counts, free => if 2 * free < count then none else freeBehind? counts (2 * free - count)

/-- Whether all bits are the beginning of a symbol. A code without symbols, and one with a single
symbol of one bit, may do with less where `isLax`. -/
def Code.isWhole (code : Code) (isLax : Bool) : Bool :=
  code.counts = [] ||
    match freeBehind? code.counts 1 with
    | none => false
    | some free => free = 0 || isLax && code.counts.length = 1

/-- The symbol that bits begin with, given the value of the bits before them, the value of the first
symbol of that length, and the counts and symbols that are left. -/
def symbolFrom : List Nat → Nat → Nat → List Nat → Reader (Option Nat)
  | [], _, _, _ => pure none
  | count :: counts, value, first, symbols => do
    let value := 2 * value + (← number 1)
    let first := 2 * first
    if value < first + count then
      return symbols[value - first]?
    else
      symbolFrom counts value (first + count) (symbols.drop count)

/-- The symbol that bits begin with. -/
def Code.symbol (code : Code) : Reader (Option Nat) := symbolFrom code.counts 0 0 code.symbols

/-- The fixed code of octets and lengths. -/
def fixedLiterals : Code :=
  Code.ofLengths (List.replicate 144 8 ++ List.replicate 112 9 ++ List.replicate 24 7 ++
    List.replicate 8 8)

/-- The fixed code of distances. -/
def fixedDistances : Code := Code.ofLengths (List.replicate 32 5)

/-- The order in which the lengths of the code of the codes are told. -/
def outerOrder : List Nat := [16, 17, 18, 0, 8, 7, 9, 6, 10, 5, 11, 4, 12, 3, 13, 2, 14, 1, 15]

/-- The lengths of `total` symbols behind those already told, the last one first. -/
def lengthsBehind (code : Code) (total : Nat) : Nat → List Nat → Reader (List Nat)
  | 0, told => pure told
  | fuel + 1, told => do
    if total ≤ told.length then
      return told
    else
      let again (times length : Nat) : Reader (List Nat) := do
        refuseIf (total < told.length + times) .repeated
        lengthsBehind code total fuel (List.replicate times length ++ told)
      match ← code.symbol with
      | some 16 =>
        match told with
        | [] => refuse .repeated
        | last :: _ => again (3 + (← number 2)) last
      | some 17 => again (3 + (← number 3)) 0
      | some 18 => again (11 + (← number 7)) 0
      | some length => lengthsBehind code total fuel (length :: told)
      | none => refuse .outerCode

/-- The two codes that a block begins with. -/
def ownCodes : Reader (Code × Code) := do
  let literals := 257 + (← number 5)
  let distances := 1 + (← number 5)
  let outer := 4 + (← number 4)
  refuseIf (286 < literals || 30 < distances) .counts
  let told ← (outerOrder.take outer).mapM fun symbol => return (symbol, ← number 3)
  let code := Code.ofLengths ((List.range 19).map fun symbol => (told.lookup symbol).getD 0)
  refuseIf (!code.isWhole false) .outerCode
  refuseIf (code.counts = []) .endless
  let lengths := (← lengthsBehind code (literals + distances) (literals + distances) []).reverse
  refuseIf ((lengths[Deflate.endSymbol]?).getD 0 = 0) .endless
  let literalCode := Code.ofLengths (lengths.take literals)
  refuseIf (!literalCode.isWhole true) .literalCode
  let distanceCode := Code.ofLengths (lengths.drop literals)
  refuseIf (!distanceCode.isWhole true) .distanceCode
  return (literalCode, distanceCode)

/-! ## Blocks -/

/-- Octets that have been read, and the bits behind them or why there are none. -/
abbrev Progress := Array UInt8 × Except Halt Bits

/-- A length or distance whose group is known. -/
def ofGroup (groups : List (Nat × Nat)) (place : Nat) (flaw : InflateFlaw) : Reader Nat :=
  match groups[place]? with
  | some (first, count) => return first + (← number count)
  | none => refuse flaw

/-- The length and the distance of a repetition that begins with a symbol. -/
def repetition (distances : Code) (symbol : Nat) : Reader (Nat × Nat) := do
  let length ← ofGroup Deflate.lengthGroups (symbol - (Deflate.endSymbol + 1)) .literal
  match ← distances.symbol with
  | some place => return (length, ← ofGroup Deflate.distanceGroups place .distance)
  | none => refuse .distance

/-- The octets with a repetition behind them. -/
def repeated (done : Array UInt8) (length distance : Nat) : Array UInt8 :=
  (List.range length).foldl (fun done _ => done.push ((done[done.size - distance]?).getD 0)) done

/-- Reads tokens up to the end of the block; `fuel` is more than the number of the bits. -/
def tokens (literals distances : Code) : Nat → Array UInt8 → Bits → Progress
  | 0, done, _ => (done, .error .short)
  | fuel + 1, done, bits =>
    match literals.symbol bits with
    | .error halt => (done, .error halt)
    | .ok (none, _) => (done, .error (.flawed .literal))
    | .ok (some symbol, rest) =>
      if symbol < Deflate.endSymbol then
        tokens literals distances fuel (done.push (UInt8.ofNat symbol)) rest
      else if symbol = Deflate.endSymbol then
        (done, .ok rest)
      else
        match repetition distances symbol rest with
        | .error halt => (done, .error halt)
        | .ok ((length, distance), rest) =>
          if done.size < distance then (done, .error (.flawed .tooFar))
          else tokens literals distances fuel (repeated done length distance) rest

/-- Reads `count` octets as they are. -/
def copied : Nat → Array UInt8 → Bits → Progress
  | 0, done, bits => (done, .ok bits)
  | count + 1, done, bits =>
    match number 8 bits with
    | .error halt => (done, .error halt)
    | .ok (octet, rest) => copied count (done.push (UInt8.ofNat octet)) rest

/-- The bits from the next octet on. -/
def aligned (bits : Bits) : Bits := bits.drop (bits.length % 8)

/-- The length of a block of octets as they are: it is told twice, the second time with all bits
turned. -/
def storedLength : Reader Nat := do
  let told ← number 32
  refuseIf (told % 65536 + told / 65536 ≠ 65535) .lengths
  return told % 65536

/-- Reads a block of a kind. -/
def block (kind : Nat) (done : Array UInt8) (bits : Bits) : Progress :=
  if kind = 0 then
    match storedLength (aligned bits) with
    | .error halt => (done, .error halt)
    | .ok (length, rest) => copied length done rest
  else if kind = 1 then
    tokens fixedLiterals fixedDistances (bits.length + 1) done bits
  else if kind = 2 then
    match ownCodes bits with
    | .error halt => (done, .error halt)
    | .ok ((literals, distances), rest) =>
      tokens literals distances (rest.length + 1) done rest
  else
    (done, .error (.flawed .block))

/-- Reads blocks up to the last one; `fuel` is more than the number of the bits. -/
def blocks : Nat → Array UInt8 → Bits → Progress
  | 0, done, _ => (done, .error .short)
  | fuel + 1, done, bits =>
    match number 3 bits with
    | .error halt => (done, .error halt)
    | .ok (head, rest) =>
      match block (head / 2) done rest with
      | (done, .error halt) => (done, .error halt)
      | (done, .ok rest) => if head % 2 = 1 then (done, .ok (aligned rest)) else blocks fuel done rest

/-! ## Frames -/

/-- What is read behind a header and before a trailer, as far as it goes. -/
def within (header : Reader Unit) (trailer : Octets → Reader Unit) (compressed : Octets) :
    Except InflateFlaw Octets :=
  let bits := bitsOf compressed
  match header bits with
  | .error (.flawed flaw) => .error flaw
  | .error .short => .ok []
  | .ok ((), rest) =>
    match blocks (rest.length + 1) #[] rest with
    | (_, .error (.flawed flaw)) => .error flaw
    | (done, .error .short) => .ok done.toList
    | (done, .ok rest) =>
      match trailer done.toList rest with
      | .error (.flawed flaw) => .error flaw
      | _ => .ok done.toList

/-- The octets of blocks alone. -/
def plain (compressed : Octets) : Except InflateFlaw Octets :=
  within (pure ()) (fun _ => pure ()) compressed

/-- The header of two octets: a method, the greatest distance, and whether a text is presupposed. -/
def frameHeader : Reader Unit := do
  let told ← number 16
  let first := told % 256
  let second := told / 256
  refuseIf ((first * 256 + second) % 31 ≠ 0) .header
  refuseIf (first % 16 ≠ 8) .method
  refuseIf (7 < first / 16) .window
  if second / 32 % 2 = 1 then
    let _ ← number 32
    refuse .dictionary

/-- The checksum behind the blocks, its highest octet first. -/
def frameTrailer (done : Octets) : Reader Unit := do
  let told ← octets 4
  refuseIf (told ≠ Deflate.bigEndian (Checksum.adler32 done)) .sum

/-- The octets of blocks between a header and a checksum. -/
def framed (compressed : Octets) : Except InflateFlaw Octets :=
  within frameHeader frameTrailer compressed

/-- Passes octets up to a zero; `fuel` is more than their number. -/
def passText : Nat → Reader Unit
  | 0 => fun _ => .error .short
  | fuel + 1 => do
    if (← number 8) ≠ 0 then passText fuel

/-- The header of a compressed file: a signature, the method, what the header holds, a time and a system,
and then more octets, a name, a comment and a checksum of the header, if it holds them. -/
def fileHeader (compressed : Octets) : Reader Unit := do
  let signature ← number 16
  refuseIf (signature ≠ 0x8B1F) .header
  let told ← number 16
  refuseIf (told % 256 ≠ 8) .method
  let holds := told / 256
  refuseIf (holds.testBit 5 || holds.testBit 6 || holds.testBit 7) .flags
  let _ ← octets 6
  if holds.testBit 2 then
    let _ ← octets (← number 16)
  if holds.testBit 3 then
    passText (compressed.length + 1)
  if holds.testBit 4 then
    passText (compressed.length + 1)
  if holds.testBit 1 then
    let rest ← get
    let passed := compressed.take (compressed.length - rest.length / 8)
    let told ← number 16
    refuseIf (told ≠ Checksum.crc32 passed % 65536) .headerSum

/-- The checksum and the length behind the blocks. -/
def fileTrailer (done : Octets) : Reader Unit := do
  let told ← number 32
  refuseIf (told ≠ Checksum.crc32 done) .sum
  let length ← number 32
  refuseIf (length ≠ done.length % 4294967296) .length

/-- The octets of a compressed file. -/
def file (compressed : Octets) : Except InflateFlaw Octets :=
  within (fileHeader compressed) fileTrailer compressed

end Inflate

end ScreenScript
