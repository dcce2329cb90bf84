import Mathlib.Data.List.DropRight
import ScreenScript.Text.Blank
import ScreenScript.Text.Digit

/-!
# Trimming

Trimming takes the blanks at the two ends of a text away and leaves the rest as it is. So blanks around a text
do not count where it is trimmed, and neither do those around the pieces between separators, if these are
trimmed as well.

* `Text.trim_pad` — a text with blanks around it
* `Text.trim_trim`, `Text.trim_eq_nil_iff` — what is left
* `Text.fields_eq_splitOn` — the pieces between separators
* `Text.map_trim_fields_trim` — the pieces of a trimmed text
-/

namespace ScreenScript.Text

/-- The text consists of blanks. -/
def Blank (t : Text) : Prop := ∀ c ∈ t, isBlank c = true

instance (t : Text) : Decidable (Blank t) := List.decidableBAll (fun c => isBlank c = true) t

variable {c d separator : Char} {t front back : Text}

/-! ## Blanks around a text -/

theorem trim_cons_of_blank (h : isBlank c = true) (t : Text) : trim (c :: t) = trim t := by
  rw [trim, trimStart, List.dropWhile_cons_of_pos h, trim, trimStart]

theorem trim_cons_of_not_blank (h : isBlank c = false) (t : Text) : trim (c :: t) = trimEnd (c :: t) := by
  rw [trim, trimStart, List.dropWhile_cons_of_neg (by simp [h])]

theorem trim_eq_nil (h : Blank t) : trim t = [] := by
  rw [trim, trimStart, List.dropWhile_eq_nil_iff.2 h]
  rfl

theorem trimEnd_append (h : Blank back) : trimEnd (t ++ back) = trimEnd t := by
  rw [trimEnd, List.reverse_append, List.dropWhile_append_of_pos fun c hc => h c (List.mem_reverse.1 hc), trimEnd]

/-- What is taken away at the end of a text are blanks. -/
theorem exists_back (t : Text) : ∃ back, Blank back ∧ t = trimEnd t ++ back :=
  ⟨t.rtakeWhile isBlank, fun _ hc => List.mem_rtakeWhile_imp hc, List.rdropWhile_append_rtakeWhile.symm⟩

theorem trimEnd_append_of_ne_nil (h : trimEnd back ≠ []) (t : Text) : trimEnd (t ++ back) = t ++ trimEnd back := by
  have hdrop : back.reverse.dropWhile isBlank ≠ [] := fun hnil => h (congrArg List.reverse hnil)
  rw [trimEnd, List.reverse_append, List.dropWhile_append, if_neg (by simpa using hdrop), List.reverse_append,
    List.reverse_reverse, trimEnd]

theorem trimEnd_cons (c : Char) (t : Text) : trimEnd (c :: t) = trimEnd (c :: trimEnd t) := by
  obtain ⟨back, hback, ht⟩ := exists_back t
  calc trimEnd (c :: t)
    _ = trimEnd ((c :: trimEnd t) ++ back) := by rw [List.cons_append, ← ht]
    _ = trimEnd (c :: trimEnd t) := trimEnd_append hback

theorem trim_append (h : Blank back) : trim (t ++ back) = trim t := by
  induction t with
  | nil => rw [List.nil_append, trim_eq_nil h, trim_nil]
  | cons c rest ih =>
    rw [List.cons_append]
    cases hc : isBlank c with
    | true => rw [trim_cons_of_blank hc, trim_cons_of_blank hc, ih]
    | false =>
      rw [trim_cons_of_not_blank hc, trim_cons_of_not_blank hc, ← List.cons_append, trimEnd_append h]

/-- Blanks around a text do not count. -/
theorem trim_pad (hfront : Blank front) (hback : Blank back) : trim (front ++ t ++ back) = trim t := by
  rw [trim_append hback, trim, trimStart, List.dropWhile_append_of_pos hfront, trim, trimStart]

@[simp] theorem trim_trimEnd (t : Text) : trim (trimEnd t) = trim t := by
  obtain ⟨back, hback, ht⟩ := exists_back t
  have htrim := trim_append (t := trimEnd t) hback
  rw [← ht] at htrim
  exact htrim.symm

/-! ## What is left -/

/-- What is trimmed away are blanks. -/
theorem exists_pad (t : Text) : ∃ front back, Blank front ∧ Blank back ∧ t = front ++ trim t ++ back := by
  obtain ⟨back, hback, hstart⟩ := exists_back (trimStart t)
  refine ⟨t.takeWhile isBlank, back, fun _ hc => List.mem_takeWhile_imp hc, hback, ?_⟩
  rw [List.append_assoc, trim, ← hstart, trimStart, List.takeWhile_append_dropWhile]

@[simp] theorem trim_trim (t : Text) : trim (trim t) = trim t := by
  obtain ⟨front, back, hfront, hback, ht⟩ := exists_pad t
  have hpad := trim_pad (t := trim t) hfront hback
  rw [← ht] at hpad
  exact hpad.symm

theorem trim_eq_nil_iff : trim t = [] ↔ Blank t := by
  refine ⟨fun h => ?_, trim_eq_nil⟩
  obtain ⟨front, back, hfront, hback, ht⟩ := exists_pad t
  rw [h, List.append_nil] at ht
  rw [ht]
  exact fun c hc => (List.mem_append.1 hc).elim (hfront c) (hback c)

/-- A text is trimmed if neither of its ends is blank. -/
theorem trim_of_ends (hc : isBlank c = false) (hd : isBlank d = false) :
    trim (c :: (t ++ [d])) = c :: (t ++ [d]) := by
  rw [trim_cons_of_not_blank hc, ← List.cons_append]
  exact List.rdropWhile_concat_neg _ _ _ (by simp [hd])

/-- A text without blanks is trimmed. -/
theorem trim_eq_self (h : ∀ c ∈ t, isBlank c = false) : trim t = t := by
  obtain ⟨front, back, hfront, hback, ht⟩ := exists_pad t
  have hnil {pad : Text} (hpad : Blank pad) (hmem : ∀ c ∈ pad, c ∈ t) : pad = [] :=
    List.eq_nil_iff_forall_not_mem.2 fun c hc => by simpa [hpad c hc] using h c (hmem c hc)
  have hfront := hnil hfront fun c hc => ht ▸ List.mem_append_left _ (List.mem_append_left _ hc)
  have hback := hnil hback fun c hc => ht ▸ List.mem_append_right _ hc
  rw [hfront, hback, List.append_nil, List.nil_append] at ht
  exact ht.symm

/-- No digit is a blank. -/
theorem isBlank_of_isDigit (h : isDigit c = true) : isBlank c = false := by
  have hapart : ∀ range ∈ blankRanges, ∀ origin ∈ digitZeros,
      range.2 < origin ∨ origin + 10 ≤ range.1 := by decide +kernel
  rw [isDigit, digitValue?, Option.isSome_map, List.find?_isSome] at h
  obtain ⟨origin, horigin, hdigit⟩ := h
  rw [isBlank, List.any_eq_false]
  intro range hrange hblank
  have := hapart range hrange origin horigin
  simp only [Bool.and_eq_true, decide_eq_true_eq] at hdigit hblank
  omega

/-- The last character of a trimmed text is no blank. -/
theorem isBlank_getLast (h : trim t = t) (hne : t ≠ []) : isBlank (t.getLast hne) = false := by
  have hend : (trimStart t).rdropWhile isBlank = t := h
  have hlast := List.rdropWhile_last_not isBlank (trimStart t) (by rwa [hend])
  simpa [hend] using hlast

/-- A trimmed text behind a character that is no blank. -/
theorem trim_append_trimmed (hc : isBlank c = false) (h : trim t = t) (hne : t ≠ []) (front : Text) :
    trim (c :: (front ++ t)) = c :: (front ++ t) := by
  have hlast := isBlank_getLast h hne
  rw [← List.dropLast_append_getLast hne, ← List.append_assoc]
  exact trim_of_ends hc hlast

/-! ## Pieces -/

theorem fields_eq_splitOn (separator : Char) (t : Text) : fields separator t = t.splitOn separator := by
  induction t with
  | nil => rw [fields, List.splitOn_nil]
  | cons c rest ih =>
    rw [List.splitOn_eq_splitOnP] at ih ⊢
    rw [fields, List.splitOnP_cons_eq_if_modifyHead, ih]
    obtain ⟨piece, pieces, hsplit⟩ := List.exists_cons_of_ne_nil (List.splitOnP_ne_nil (· == separator) rest)
    simp [hsplit]

/-- The pieces of which a text was put together. -/
theorem fields_intercalate {pieces : List Text} (h : ∀ piece ∈ pieces, separator ∉ piece) (hne : pieces ≠ []) :
    fields separator ([separator].intercalate pieces) = pieces := by
  rw [fields_eq_splitOn, List.splitOn_intercalate separator h hne]

theorem fields_cons_of_ne {piece : Text} {pieces : List Text} (hc : c ≠ separator)
    (h : fields separator t = piece :: pieces) : fields separator (c :: t) = (c :: piece) :: pieces := by
  rw [fields, if_neg hc, h]

theorem ne_of_isBlank (hc : isBlank c = true) (hseparator : isBlank separator = false) : c ≠ separator := by
  rintro rfl
  rw [hc] at hseparator
  cases hseparator

/-- Blanks in front of a text are in front of its first piece. -/
theorem map_trim_fields_append_left (hfront : Blank front) (hseparator : isBlank separator = false) (t : Text) :
    (fields separator (front ++ t)).map trim = (fields separator t).map trim := by
  induction front with
  | nil => rfl
  | cons c front ih =>
    obtain ⟨hc, hfront⟩ := List.forall_mem_cons.1 hfront
    obtain ⟨piece, pieces, hfields⟩ := List.exists_cons_of_ne_nil (fields_ne_nil separator (front ++ t))
    rw [← ih hfront, List.cons_append, fields_cons_of_ne (ne_of_isBlank hc hseparator) hfields, hfields,
      List.map_cons, List.map_cons, trim_cons_of_blank hc]

/-- Blanks behind a text are behind its last piece. -/
theorem map_trimEnd_fields_append (hback : Blank back) (hseparator : isBlank separator = false) (t : Text) :
    (fields separator (t ++ back)).map trimEnd = (fields separator t).map trimEnd := by
  induction t with
  | nil =>
    have hmem : separator ∉ back := fun hmem => ne_of_isBlank (hback _ hmem) hseparator rfl
    have hfields : fields separator ([separator].intercalate [back]) = [back] :=
      fields_intercalate (by simpa using hmem) (List.cons_ne_nil back [])
    rw [List.intercalate_singleton] at hfields
    have hend : trimEnd back = [] := trimEnd_append (t := []) hback
    rw [List.nil_append, hfields, List.map_singleton, hend]
    rfl
  | cons c rest ih =>
    obtain ⟨piece, pieces, hrest⟩ := List.exists_cons_of_ne_nil (fields_ne_nil separator rest)
    obtain ⟨piece', pieces', hwhole⟩ := List.exists_cons_of_ne_nil (fields_ne_nil separator (rest ++ back))
    rw [List.cons_append]
    by_cases hc : c = separator
    · rw [fields, fields, if_pos hc, if_pos hc, List.map_cons, List.map_cons, ih]
    · rw [hrest, hwhole, List.map_cons, List.map_cons] at ih
      obtain ⟨hpiece, hpieces⟩ := List.cons.inj ih
      rw [fields_cons_of_ne hc hrest, fields_cons_of_ne hc hwhole, List.map_cons, List.map_cons, hpieces,
        trimEnd_cons, hpiece, ← trimEnd_cons]

/-- The pieces of a trimmed text are those of the text itself, if the pieces are trimmed as well. -/
theorem map_trim_fields_trim (hseparator : isBlank separator = false) (t : Text) :
    (fields separator (trim t)).map trim = (fields separator t).map trim := by
  obtain ⟨front, back, hfront, hback, ht⟩ := exists_pad t
  have hback := map_trimEnd_fields_append hback hseparator (front ++ trim t)
  have hwhole : (fields separator t).map trim = (fields separator (front ++ trim t)).map trim := by
    rw [← ht] at hback
    simpa [Function.comp_def] using congrArg (List.map trim) hback
  rw [hwhole, map_trim_fields_append_left hfront hseparator]

end ScreenScript.Text
