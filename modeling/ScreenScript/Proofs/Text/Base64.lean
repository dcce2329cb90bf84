import Mathlib.Data.List.Nodup
import ScreenScript.Text.Base64

/-!
# What Base64 keeps

The text of some octets is read back group by group: four letters are three octets, and a group that is filled
up is one octet or two. So different octets have different texts.

* `Base64.decode?` — the octets of a text
* `Base64.decode?_encode` — the text of some octets stands for these octets
* `Base64.length_encode`, `Base64.mem_encode` — its length and its letters
-/

namespace ScreenScript.Base64

/-! ## Letters -/

/-- The value of a letter. -/
def value? (c : Char) : Option Nat :=
  if alphabet.idxOf c < alphabet.length then some (alphabet.idxOf c) else none

theorem length_alphabet : alphabet.length = 64 := by decide

theorem letter_eq (n : Nat) :
    letter n = alphabet.get ⟨n % 64, by rw [length_alphabet]; exact Nat.mod_lt n (by decide)⟩ := by
  rw [letter, List.getElem?_eq_getElem]
  rfl

theorem letter_mem (n : Nat) : letter n ∈ alphabet := by
  rw [letter_eq]
  exact List.getElem_mem _

theorem letter_ne_filler (n : Nat) : letter n ≠ '=' := fun h =>
  absurd (h ▸ letter_mem n) (by decide)

/-- A letter has the value that it stands for. -/
theorem value?_letter (n : Nat) : value? (letter n) = some (n % 64) := by
  have hnodup : alphabet.Nodup := by decide
  have hplace : alphabet.idxOf (letter n) = n % 64 := by
    rw [letter_eq]
    exact hnodup.idxOf_getElem _ _
  have hlt : n % 64 < alphabet.length := by
    rw [length_alphabet]
    exact Nat.mod_lt n (by decide)
  rw [value?, hplace, if_pos hlt]

/-! ## Reading -/

/-- The octets of a text, if it is one of Base64. The bits that fill up the last group have to be zero. -/
def decode? : Text → Option Octets
  | [] => some []
  | a :: b :: c :: d :: rest => do
    let first ← value? a
    let second ← value? b
    if d ≠ '=' then
      let bits := ((first * 64 + second) * 64 + (← value? c)) * 64 + (← value? d)
      return [bits / 65536, bits / 256, bits].map UInt8.ofNat ++ (← decode? rest)
    else if rest ≠ [] then
      none
    else if c ≠ '=' then
      let bits := (first * 64 + second) * 64 + (← value? c)
      if bits % 4 = 0 then some ([bits / 1024, bits / 4].map UInt8.ofNat) else none
    else
      let bits := first * 64 + second
      if bits % 16 = 0 then some [UInt8.ofNat (bits / 16)] else none
  | _ => none

/-- **Base64 keeps what it encodes.** -/
theorem decode?_encode (octets : Octets) : decode? (encode octets) = some octets := by
  have hofNat {n : Nat} {a : UInt8} (h : n % 256 = a.toNat) : UInt8.ofNat n = a := by
    rw [← UInt8.toNat_inj, UInt8.toNat_ofNat', h]
  induction octets using encode.induct with
  | case1 => rfl
  | case2 a =>
    have ha := a.toNat_lt
    obtain ⟨bits, hbits⟩ : ∃ bits, bits = a.toNat * 16 := ⟨_, rfl⟩
    rw [encode, ← hbits, decode?, value?_letter, value?_letter]
    have hjoin : (bits / 64 % 64) * 64 + bits % 64 = bits := by omega
    simp only [Option.bind_eq_bind, Option.bind_some, ne_eq, not_true_eq_false, if_false]
    rw [hjoin, if_pos (by omega), hofNat (a := a) (by omega)]
  | case3 a b =>
    have ha := a.toNat_lt
    have hb := b.toNat_lt
    obtain ⟨bits, hbits⟩ : ∃ bits, bits = (a.toNat * 256 + b.toNat) * 4 := ⟨_, rfl⟩
    rw [encode, ← hbits, decode?, value?_letter, value?_letter, value?_letter]
    have hjoin : ((bits / 4096 % 64) * 64 + bits / 64 % 64) * 64 + bits % 64 = bits := by omega
    simp only [Option.bind_eq_bind, Option.bind_some, ne_eq, not_true_eq_false, if_false,
      letter_ne_filler, not_false_eq_true, if_true, List.map_cons, List.map_nil]
    rw [hjoin, if_pos (by omega), hofNat (a := a) (by omega), hofNat (a := b) (by omega)]
  | case4 a b c rest ih =>
    have ha := a.toNat_lt
    have hb := b.toNat_lt
    have hc := c.toNat_lt
    obtain ⟨bits, hbits⟩ : ∃ bits, bits = (a.toNat * 256 + b.toNat) * 256 + c.toNat := ⟨_, rfl⟩
    rw [encode, ← hbits, List.cons_append, List.cons_append, List.cons_append, List.cons_append, List.nil_append,
      decode?, value?_letter, value?_letter, value?_letter, value?_letter, ih]
    have hjoin : (((bits / 262144 % 64) * 64 + bits / 4096 % 64) * 64 + bits / 64 % 64) * 64 + bits % 64 =
        bits := by omega
    simp only [Option.bind_eq_bind, Option.bind_some, ne_eq, letter_ne_filler, not_false_eq_true, if_true,
      List.map_cons, List.map_nil]
    rw [hjoin, hofNat (a := a) (by omega), hofNat (a := b) (by omega), hofNat (a := c) (by omega)]
    rfl

/-- Two octets, whose group is filled up. -/
example : encode [77, 97] = "TWE=".toList ∧ decode? "TWE=".toList = some [77, 97] := by decide

/-- Every three octets, also if they are not complete, are four letters. -/
theorem length_encode (octets : Octets) : (encode octets).length = 4 * ((octets.length + 2) / 3) := by
  induction octets using encode.induct with
  | case1 | case2 | case3 => simp [encode]
  | case4 a b c rest ih =>
    rw [encode, List.length_append, ih]
    simp only [List.length_cons, List.length_nil]
    omega

/-- The text has letters of the alphabet only, and what fills it up. -/
theorem mem_encode {c : Char} {octets : Octets} (h : c ∈ encode octets) : c ∈ alphabet ∨ c = '=' := by
  induction octets using encode.induct with
  | case1 => cases h
  | case2 a =>
    simp only [encode, List.mem_cons, List.not_mem_nil, or_false] at h
    rcases h with rfl | rfl | rfl | rfl <;> simp [letter_mem]
  | case3 a b =>
    simp only [encode, List.mem_cons, List.not_mem_nil, or_false] at h
    rcases h with rfl | rfl | rfl | rfl <;> simp [letter_mem]
  | case4 a b c rest ih =>
    rw [encode, List.mem_append] at h
    rcases h with h | h
    · simp only [List.mem_cons, List.not_mem_nil, or_false] at h
      rcases h with rfl | rfl | rfl | rfl <;> exact .inl (letter_mem _)
    · exact ih h

end ScreenScript.Base64
