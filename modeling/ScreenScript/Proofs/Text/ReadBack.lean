import ScreenScript.Proofs.Text.Figures
import ScreenScript.Proofs.Text.Trimming

/-!
# Integers that are read back

An integer that is written in decimal reads as itself, negative ones with their sign, as long as it does not
have too many digits.

* `Text.readInt?_ofInt` — reading a written integer
* `Text.isBlank_of_mem_ofInt` — a written integer has no blanks
-/

namespace ScreenScript.Text

variable {c : Char} {t : Text} {n : Nat}

/-- A digit of ASCII and its value. -/
theorem digitValue?_of_isDigit (h : c.isDigit = true) : digitValue? c = some (c.toNat - '0'.toNat) := by
  rw [Char.isDigit, Bool.and_eq_true, decide_eq_true_eq, decide_eq_true_eq] at h
  have hfirst : 48 ≤ c.toNat := h.1
  have hlast : c.toNat ≤ 57 := h.2
  have hfound : digitZeros.find? (fun origin => origin ≤ c.toNat && c.toNat < origin + 10) = some 48 :=
    List.find?_cons_of_pos (by simp [hfirst]; omega)
  rw [digitValue?, hfound]
  rfl

/-- A run of digits of ASCII, one after the other. -/
theorem groupedDigits?_of_isDigit (hne : t ≠ []) (h : ∀ c ∈ t, c.isDigit = true) :
    groupedDigits? t = some (t.map fun c => c.toNat - '0'.toNat) := by
  induction t with
  | nil => exact absurd rfl hne
  | cons c rest ih =>
    obtain ⟨hc, hrest⟩ := List.forall_mem_cons.1 h
    rw [groupedDigits?, digitValue?_of_isDigit hc]
    cases rest with
    | nil => rfl
    | cons next rest =>
      have hnext : next ≠ '_' := by
        rintro rfl
        exact absurd (hrest _ List.mem_cons_self) (by decide)
      have ih := ih (List.cons_ne_nil next rest) hrest
      simp [ih]

theorem isDigit_of_mem_ofNat (h : c ∈ ofNat n) : c.isDigit = true :=
  Nat.isDigit_of_mem_toDigits (by decide) (by decide) h

theorem ofNat_ne_nil (n : Nat) : ofNat n ≠ [] := Nat.toDigits_ne_nil

theorem readGrouped?_ofNat (h : (ofNat n).length ≤ maxDigits) : readGrouped? (ofNat n) = some n := by
  have hvalue : ofDigitValues ((ofNat n).map fun c => c.toNat - '0'.toNat) = n := by
    rw [ofDigitValues, List.foldl_map]
    exact Nat.ofDigitChars_toDigits (by decide) (by decide)
  rw [readGrouped?, groupedDigits?_of_isDigit (ofNat_ne_nil n) fun _ => isDigit_of_mem_ofNat]
  simpa [h] using hvalue

/-- Without a sign, an integer is read as digits. -/
theorem readInt?_of_isDigit (h : ∀ c ∈ t, c.isDigit = true) : readInt? t = (readGrouped? t).map (↑·) := by
  unfold readInt?
  split
  · exact absurd (h _ List.mem_cons_self) (by decide)
  · exact absurd (h _ List.mem_cons_self) (by decide)
  · cases readGrouped? t <;> rfl

/-- An integer that can be written reads as itself. -/
theorem readInt?_ofInt {n : Int} (h : Writable n) : readInt? (ofInt n) = some n := by
  obtain ⟨t, ht⟩ := h
  have hlength : (ofNat n.natAbs).length ≤ maxDigits := by
    by_contra hlong
    rw [writeInt?, if_neg hlong] at ht
    cases ht
  have hread := readGrouped?_ofNat hlength
  cases n with
  | ofNat n =>
    change readInt? (ofNat n) = _
    rw [readInt?_of_isDigit fun _ => isDigit_of_mem_ofNat]
    exact congrArg (Option.map _) hread
  | negSucc n =>
    change readInt? ('-' :: ofNat (n + 1)) = _
    change readGrouped? (ofNat (n + 1)) = _ at hread
    rw [readInt?, hread]
    rfl

/-- What stands in a written integer is a digit or a sign. -/
theorem mem_ofInt {n : Int} (h : c ∈ ofInt n) : c.isDigit = true ∨ c = '-' := by
  cases n with
  | ofNat n => exact .inl (isDigit_of_mem_ofNat h)
  | negSucc n =>
    rcases List.mem_cons.1 h with rfl | h
    · exact .inr rfl
    · exact .inl (isDigit_of_mem_ofNat h)

theorem isBlank_of_mem_ofInt {n : Int} (h : c ∈ ofInt n) : isBlank c = false := by
  rcases mem_ofInt h with hdigit | rfl
  · exact isBlank_of_isDigit (by rw [isDigit, digitValue?_of_isDigit hdigit, Option.isSome_some])
  · decide

end ScreenScript.Text
