import ScreenScript.Text.Utf8

/-!
# Repetitions

Octets are cut into tokens: single octets, and repetitions of what came before. A repetition is looked
for at every place; before one is used, the next place is tried, too, and if it has a longer one the
octet before it stands alone. Repetitions of five octets or fewer are not used.

* `Repetition.search` — the longest repetition at a place
* `Repetition.tokens` — the tokens of some octets
-/

namespace ScreenScript

/-- A piece of some octets. -/
inductive Token
  /-- an octet -/
  | literal (octet : UInt8)
  /-- the `length` octets that also stand `distance` before -/
  | repetition (length distance : Nat)
  deriving DecidableEq, Repr, Inhabited

namespace Repetition

/-- The greatest distance of a repetition. -/
def maxDistance : Nat := 32506

/-- The greatest length of a repetition. -/
def maxLength : Nat := 258

/-- Shorter repetitions are not used. -/
def leastUsed : Nat := 6

/-- A repetition so long is not compared with others. -/
def goodEnough : Nat := 128

/-- How many places are tried, and how many if the repetition before is `wellBegun` long. -/
def places (before : Nat) : Nat := if 8 ≤ before then 32 else 128

/-- Behind a repetition so long, no longer one is looked for. -/
def longEnough : Nat := 16

/-- How many octets from two places on are equal, up to `limit`. -/
def common (octets : Array UInt8) (i j : Nat) : Nat → Nat
  | 0 => 0
  | limit + 1 =>
    if octets[i]? = octets[j]? && (octets[i]?).isSome then 1 + common octets (i + 1) (j + 1) limit else 0

/-- The longest repetition at `place` of one of the places before, if it is longer than `best`: its
length and where it starts. The first one of several counts. -/
def search (octets : Array UInt8) (place : Nat) (before : List Nat) (best start : Nat) : Nat × Nat :=
  let left := octets.size - place
  match before with
  | [] => (best, start)
  | candidate :: others =>
    if maxDistance < place - candidate then
      (best, start)
    else
      let length := common octets candidate place (min maxLength left)
      if best < length then
        if min goodEnough left ≤ length then (length, candidate)
        else search octets place others length candidate
      else
        search octets place others best start

/-- A number that is equal for equal groups of three octets, and rarely for others. -/
def groupKey (octets : Array UInt8) (place : Nat) : Nat :=
  let at_ (i : Nat) : Nat := ((octets[place + i]?).getD 0).toNat
  ((at_ 0 * 4096) ^^^ (at_ 1 * 64) ^^^ at_ 2) % 65536

/-- The places before, by the group of octets that starts there, the latest first. -/
abbrev Places := Array (List Nat)

/-- The places with another one. The very first place, and places without a whole group, are not
kept. -/
def remember (octets : Array UInt8) (known : Places) (place : Nat) : Places :=
  if place = 0 || octets.size < place + 3 then known
  else known.modify (groupKey octets place) (place :: ·)

/-- The places with `count` more, from `place` on. -/
def rememberAll (octets : Array UInt8) (known : Places) (place count : Nat) : Places :=
  (List.range count).foldl (fun known i => remember octets known (place + i)) known

/-- Where the cutting has come to. -/
structure Cursor where
  /-- the place -/
  place : Nat := 0
  /-- the places before -/
  known : Places := Array.replicate 65536 []
  /-- the length of the repetition at the place before; two if there is none -/
  length : Nat := 2
  /-- where it starts -/
  start : Nat := 0
  /-- whether the octet before has no token yet -/
  pending : Bool := false

/-- The repetition at the place of a cursor, if it is longer than the one before. -/
def found (octets : Array UInt8) (cursor : Cursor) : Nat × Nat :=
  if octets.size < cursor.place + 3 || longEnough ≤ cursor.length then
    (2, 0)
  else
    match (cursor.known[groupKey octets cursor.place]?).getD [] with
    | [] => (2, 0)
    | before =>
      let (length, start) :=
        search octets cursor.place (before.take (places cursor.length)) cursor.length cursor.start
      if length < leastUsed then (2, 0) else (length, start)

/-- The tokens from a place on; `fuel` is at least the number of octets left. -/
def tokensFrom (octets : Array UInt8) : Nat → Cursor → List Token
  | 0, cursor =>
    if cursor.pending then [.literal ((octets[cursor.place - 1]?).getD 0)] else []
  | fuel + 1, cursor =>
    if octets.size ≤ cursor.place then
      tokensFrom octets 0 cursor
    else
      let (length, start) := found octets cursor
      let known := remember octets cursor.known cursor.place
      if 3 ≤ cursor.length && length ≤ cursor.length then
        let known := rememberAll octets known (cursor.place + 1) (cursor.length - 2)
        .repetition cursor.length (cursor.place - 1 - cursor.start) ::
          tokensFrom octets fuel { place := cursor.place + cursor.length - 1, known }
      else
        let next : Cursor := { place := cursor.place + 1, known, length, start, pending := true }
        if cursor.pending then
          .literal ((octets[cursor.place - 1]?).getD 0) :: tokensFrom octets fuel next
        else
          tokensFrom octets fuel next

/-- The tokens of some octets. -/
def tokens (octets : Octets) : List Token := tokensFrom octets.toArray octets.length {}

end Repetition

end ScreenScript
