import ScreenScript.Proofs.Number.Rounding
import ScreenScript.Proofs.Picture.File
import ScreenScript.Proofs.Text.Figures

/-!
# Pictures of any size

A picture can be scaled if the library can tell its size, scale it and write all of it, and the numbers for this
can be computed; the same goes for covering. With sides as they are documented, the numbers for scaling can be
computed for every width that is validated and not enormous, and those for covering for every share from zero to
one.

* `Picture.Unscalable`, `Picture.Uncoverable` — why a picture cannot be scaled or covered
* `Picture.result_scaleFile_of_unscalable`, `Picture.yields_scaleFile_of_scaling` — what becomes of its file
* `Picture.exists_scaledSides` — sides can be scaled
* `Picture.IsShare.exists_rowsOf` — the rows of a share can be told
* `Intervals.sound_of_ofGiven` — what is validated of the intervals
-/

namespace ScreenScript

/-- What can be read can be written. -/
theorem Disk.exists_write_of_read {disk : Disk} {path : Path} {content : Content}
    (h : disk.read path = .ok content) (content' : Content) : ∃ disk', disk.write path content' = .ok disk' := by
  obtain ⟨location, hlocate, hnode⟩ := Disk.file_of_read h
  exact ⟨disk.put location (.file content'), by rw [Disk.write, hlocate]; dsimp only; rw [hnode]⟩

/-! ## Pictures -/

namespace Picture

variable {imaging : Imaging} {side share : Scalar} {taken scaled shown covered : Octets} {factor : Binary64}
  {fault : Fault} {disk disk' : Disk} {path source target : Path}

/-- Why a picture cannot be scaled. -/
inductive Unscalable (imaging : Imaging) (path : Path) (side : Scalar) (taken : Octets) : Fault → Prop
  /-- its size cannot be told -/
  | size {flaw : ImagingFlaw} :
    imaging.size path taken = .error flaw → Unscalable imaging path side taken (.imaging flaw)
  /-- the factor or a length cannot be computed -/
  | sides {width height : Nat} {error : ArithmeticError} :
    imaging.size path taken = .ok (width, height) → scaledSides side width height = .error error →
    Unscalable imaging path side taken (.arithmetic error)
  /-- the library cannot scale it -/
  | resize {width height : Nat} {factor : Binary64} {scaledWidth scaledHeight : Int} {flaw : ImagingFlaw} :
    imaging.size path taken = .ok (width, height) →
    scaledSides side width height = .ok (factor, scaledWidth, scaledHeight) →
    imaging.resize path taken scaledWidth scaledHeight = .error flaw →
    Unscalable imaging path side taken (.imaging flaw)
  /-- the library cannot write all of what it has scaled -/
  | unsaved {width height : Nat} {factor : Binary64} {scaledWidth scaledHeight : Int} {written : Octets}
      {flaw : ImagingFlaw} :
    imaging.size path taken = .ok (width, height) →
    scaledSides side width height = .ok (factor, scaledWidth, scaledHeight) →
    imaging.resize path taken scaledWidth scaledHeight = .ok ⟨written, some flaw⟩ →
    Unscalable imaging path side taken (.imaging flaw)

/-- Why a share of a picture cannot be covered. -/
inductive Uncoverable (imaging : Imaging) (path : Path) (share : Scalar) (shown : Octets) : Fault → Prop
  /-- its height cannot be told -/
  | height {flaw : ImagingFlaw} :
    imaging.height path shown = .error flaw → Uncoverable imaging path share shown (.imaging flaw)
  /-- the number of rows cannot be computed -/
  | rows {height : Nat} {error : ArithmeticError} :
    imaging.height path shown = .ok height → rowsOf share height = .error error →
    Uncoverable imaging path share shown (.arithmetic error)
  /-- the library cannot cover it -/
  | cover {height : Nat} {rows : Int} {flaw : ImagingFlaw} :
    imaging.height path shown = .ok height → rowsOf share height = .ok rows →
    imaging.cover path shown rows = .error flaw → Uncoverable imaging path share shown (.imaging flaw)
  /-- the library cannot write all of what it has covered -/
  | unsaved {height : Nat} {rows : Int} {written : Octets} {flaw : ImagingFlaw} :
    imaging.height path shown = .ok height → rowsOf share height = .ok rows →
    imaging.cover path shown rows = .ok ⟨written, some flaw⟩ →
    Uncoverable imaging path share shown (.imaging flaw)

/-- A picture can be scaled, or something is in the way. -/
theorem unscalable_or_scaling (imaging : Imaging) (path : Path) (side : Scalar) (taken : Octets) :
    (∃ fault, Unscalable imaging path side taken fault) ∨
      ∃ factor scaled, Scaling imaging path side taken factor scaled := by
  cases hsize : imaging.size path taken with
  | error flaw => exact .inl ⟨_, .size hsize⟩
  | ok size =>
    obtain ⟨width, height⟩ := size
    cases hsides : scaledSides side width height with
    | error error => exact .inl ⟨_, .sides hsize hsides⟩
    | ok sides =>
      obtain ⟨factor, scaledWidth, scaledHeight⟩ := sides
      rcases hresize : imaging.resize path taken scaledWidth scaledHeight with flaw | ⟨scaled, _ | flaw⟩
      · exact .inl ⟨_, .resize hsize hsides hresize⟩
      · exact .inr ⟨factor, scaled, width, height, scaledWidth, scaledHeight, hsize, hsides, hresize⟩
      · exact .inl ⟨_, .unsaved hsize hsides hresize⟩

/-- A share of a picture can be covered, or something is in the way. -/
theorem uncoverable_or_covering (imaging : Imaging) (path : Path) (share : Scalar) (shown : Octets) :
    (∃ fault, Uncoverable imaging path share shown fault) ∨
      ∃ covered, Covering imaging path share shown covered := by
  cases hheight : imaging.height path shown with
  | error flaw => exact .inl ⟨_, .height hheight⟩
  | ok height =>
    cases hrows : rowsOf share height with
    | error error => exact .inl ⟨_, .rows hheight hrows⟩
    | ok rows =>
      rcases hcover : imaging.cover path shown rows with flaw | ⟨covered, _ | flaw⟩
      · exact .inl ⟨_, .cover hheight hrows hcover⟩
      · exact .inr ⟨covered, height, rows, hheight, hrows, hcover⟩
      · exact .inl ⟨_, .unsaved hheight hrows hcover⟩

/-! ## Files with pictures -/

theorem readContent_bind {α : Type} {content : Content} (h : disk.read path = .ok content)
    (f : Content → Routine Disk α) : (Disk.readContent path >>= f) disk = f content disk := by
  have hread : Disk.readContent path disk = ⟨.ok content, disk, [], []⟩ := by
    rw [Disk.readContent, Routine.bind_of_ok (a := disk) rfl, Disk.toRoutine]
    change Outcome.behind _ (Routine.ofExcept .file (disk.read path) disk) = _
    rw [h]
    rfl
  rw [Routine.bind_of_ok (by rw [hread]), hread]
  rfl

theorem ofExcept_bind {α β ε : Type} {fault : ε → Fault} {value : Except ε α} {a : α} (h : value = .ok a)
    (f : α → Routine Disk β) : (Routine.ofExcept fault value >>= f : Routine Disk β) = f a := by
  rw [h]
  exact Routine.pure_bind a f

theorem ofExcept_bind_of_error {α β ε : Type} {fault : ε → Fault} {value : Except ε α} {error : ε}
    (h : value = .error error) (f : α → Routine Disk β) :
    (Routine.ofExcept fault value >>= f : Routine Disk β) = Routine.fail (fault error) := by
  rw [h]
  exact Routine.fail_bind f

/-- A picture that is written in part only. -/
theorem result_save_of_flaw {written : Octets} {flaw : ImagingFlaw}
    (hwrite : disk.write path (.octets written) = .ok disk') :
    (save path ⟨written, some flaw⟩ disk).result = .error (.imaging flaw) := by
  have hwriting : (Disk.writeContent path (.octets written)).Yields disk () disk' [] :=
    Disk.yields_writeContent.2 ⟨hwrite, rfl⟩
  rw [save, hwriting.result_bind]
  rfl

/-- A picture that is written as a whole. -/
theorem yields_save_of_write {written : Octets} (hwrite : disk.write path (.octets written) = .ok disk') :
    (save path ⟨written, none⟩).Yields disk () disk' [] :=
  Routine.yields_bind.2 ⟨(), disk', [], [], Disk.yields_writeContent.2 ⟨hwrite, rfl⟩,
    Routine.yields_pure.2 ⟨rfl, rfl, rfl⟩, rfl⟩

/-- What scaling does once the size is known. -/
theorem scaleFile_of_size {width height : Nat} (target : Path) (side : Scalar)
    (hread : disk.read source = .ok (.octets taken)) (hsize : imaging.size source taken = .ok (width, height)) :
    scaleFile imaging source target side disk = (do
      let (factor, scaledWidth, scaledHeight) ← ofNumber (scaledSides side width height)
      save target (← ofLibrary (imaging.resize source taken scaledWidth scaledHeight))
      Routine.say .debug ("截图缩放 ".toList ++ sizeText width height ++ " -> ".toList ++
        sizeText scaledWidth scaledHeight ++ ", scale=".toList ++ factor.fixed 4)
      return factor : Routine Disk Binary64) disk := by
  rw [scaleFile, readContent_bind hread, ofLibrary, ofExcept_bind hsize]

/-- What scaling does once the lengths are known. -/
theorem scaleFile_of_sides {width height : Nat} {scaledWidth scaledHeight : Int} (target : Path)
    (hread : disk.read source = .ok (.octets taken)) (hsize : imaging.size source taken = .ok (width, height))
    (hsides : scaledSides side width height = .ok (factor, scaledWidth, scaledHeight)) :
    ∃ message, scaleFile imaging source target side disk = (do
      save target (← ofLibrary (imaging.resize source taken scaledWidth scaledHeight))
      Routine.say .debug message
      return factor : Routine Disk Binary64) disk := by
  refine ⟨"截图缩放 ".toList ++ sizeText width height ++ " -> ".toList ++ sizeText scaledWidth scaledHeight ++
    ", scale=".toList ++ factor.fixed 4, ?_⟩
  rw [scaleFile_of_size target side hread hsize, ofNumber, ofExcept_bind hsides]

/-- A picture that cannot be scaled. -/
theorem result_scaleFile_of_unscalable (hread : disk.read path = .ok (.octets taken))
    (h : Unscalable imaging path side taken fault) :
    (scaleFile imaging path path side disk).result = .error fault := by
  cases h with
  | size hsize =>
    rw [scaleFile, readContent_bind hread, ofLibrary, ofExcept_bind_of_error hsize, Routine.fail]
  | sides hsize hsides =>
    rw [scaleFile_of_size path side hread hsize, ofNumber, ofExcept_bind_of_error hsides, Routine.fail]
  | resize hsize hsides hresize =>
    obtain ⟨message, hscale⟩ := scaleFile_of_sides path hread hsize hsides
    rw [hscale, ofLibrary, ofExcept_bind_of_error hresize, Routine.fail]
  | @unsaved width height factor scaledWidth scaledHeight written flaw hsize hsides hresize =>
    obtain ⟨message, hscale⟩ := scaleFile_of_sides path hread hsize hsides
    obtain ⟨disk', hwrite⟩ := Disk.exists_write_of_read hread (.octets written)
    rw [hscale, ofLibrary, ofExcept_bind hresize, Routine.bind_of_error (result_save_of_flaw hwrite)]

/-- A picture that can be scaled. -/
theorem yields_scaleFile_of_scaling (hread : disk.read source = .ok (.octets taken))
    (h : Scaling imaging source side taken factor scaled)
    (hwrite : disk.write target (.octets scaled) = .ok disk') :
    (scaleFile imaging source target side).Yields disk factor disk' [] := by
  obtain ⟨width, height, scaledWidth, scaledHeight, hsize, hsides, hresize⟩ := h
  obtain ⟨message, hscale⟩ := scaleFile_of_sides target hread hsize hsides
  have hyields : (do
      save target ⟨scaled, none⟩
      Routine.say .debug message
      return factor : Routine Disk Binary64).Yields disk factor disk' [] := by
    refine Routine.yields_bind.2 ⟨(), disk', [], [], yields_save_of_write hwrite, ?_, rfl⟩
    exact Routine.yields_bind.2 ⟨(), disk', [], [], Routine.yields_say.2 ⟨rfl, rfl⟩,
      Routine.yields_pure.2 ⟨rfl, rfl, rfl⟩, rfl⟩
  rw [ofLibrary, ofExcept_bind hresize] at hscale
  exact ⟨by rw [hscale]; exact hyields.result, by rw [hscale]; exact hyields.state,
    by rw [hscale]; exact hyields.trace⟩

/-- A picture that cannot be covered. -/
theorem result_coverFile_of_uncoverable (hread : disk.read path = .ok (.octets shown))
    (h : Uncoverable imaging path share shown fault) :
    (coverFile imaging path share disk).result = .error fault := by
  rw [coverFile, readContent_bind hread]
  cases h with
  | height hheight => rw [ofLibrary, ofExcept_bind_of_error hheight, Routine.fail]
  | rows hheight hrows =>
    rw [ofLibrary, ofExcept_bind hheight, ofNumber, ofExcept_bind_of_error hrows, Routine.fail]
  | cover hheight hrows hcover =>
    rw [ofLibrary, ofExcept_bind hheight, ofNumber, ofExcept_bind hrows, ofLibrary,
      ofExcept_bind_of_error hcover, Routine.fail]
  | @unsaved height rows written flaw hheight hrows hcover =>
    obtain ⟨disk', hwrite⟩ := Disk.exists_write_of_read hread (.octets written)
    rw [ofLibrary, ofExcept_bind hheight, ofNumber, ofExcept_bind hrows, ofLibrary, ofExcept_bind hcover,
      result_save_of_flaw hwrite]

/-- A picture that can be covered. -/
theorem result_coverFile_of_covering (hread : disk.read path = .ok (.octets shown))
    (h : Covering imaging path share shown covered) : (coverFile imaging path share disk).result = .ok () := by
  obtain ⟨height, rows, hheight, hrows, hcover⟩ := h
  obtain ⟨disk', hwrite⟩ := Disk.exists_write_of_read hread (.octets covered)
  rw [coverFile, readContent_bind hread, ofLibrary, ofExcept_bind hheight, ofNumber, ofExcept_bind hrows,
    ofLibrary, ofExcept_bind hcover]
  exact (yields_save_of_write hwrite).result

/-! ## Sides -/

/-- A length of 32 bits times a number that is not too large. -/
theorem exists_mul_finite {length mantissa : Nat} {exponent : Int} (negative : Bool)
    (hlength : length < 2 ^ 31) (h : Binary64.magnitude mantissa exponent ≤ 2 ^ 66) :
    ∃ x mantissa' exponent', (Scalar.int length).toReal = .ok x ∧
      x.mul (.finite negative mantissa exponent) = .finite (false != negative) mantissa' exponent' := by
  have hlength' : (length : ℚ) ≤ 2 ^ 31 := by exact_mod_cast hlength.le
  obtain ⟨x, hx, hnear⟩ :=
    Binary64.ofInt?_near (Binary64.lt_of_le_pow (q := length) (hlength'.trans (by norm_num)))
  obtain ⟨mantissa', exponent', rfl, hvalue⟩ := hnear.le (Nat.cast_nonneg _)
  have hproduct : Binary64.magnitude mantissa' exponent' * Binary64.magnitude mantissa exponent ≤ 2 ^ 128 :=
    calc Binary64.magnitude mantissa' exponent' * Binary64.magnitude mantissa exponent
      _ ≤ (2 * 2 ^ 31 + 1) * 2 ^ 66 := by
        have hnonneg := Binary64.magnitude_nonneg mantissa exponent
        gcongr
        linarith
      _ ≤ 2 ^ 128 := by norm_num
  obtain ⟨mantissa'', exponent'', hrounded, -⟩ :=
    Binary64.mul_near false negative (Binary64.lt_of_le_pow hproduct)
  exact ⟨_, mantissa'', exponent'', by rw [Scalar.toReal, hx], hrounded⟩

/-- The factor for a side, and both sides times it, can be computed. -/
theorem exists_scaledSides {side : Int} {width height : Nat} (hside : 0 < side) (hside' : side < 2 ^ 64)
    (hwidth : 0 < width) (hwidth' : width < 2 ^ 31) (hheight : 0 < height) (hheight' : height < 2 ^ 31) :
    ∃ sides, scaledSides (.int side) width height = .ok sides := by
  lift side to Nat using hside.le
  obtain ⟨shorter, hshorter⟩ : ∃ shorter, shorter = min width height := ⟨_, rfl⟩
  have hpos : 0 < shorter := by omega
  have hquotient : (side / shorter : ℚ) ≤ 2 ^ 64 :=
    calc (side / shorter : ℚ)
      _ ≤ side := div_le_self (Nat.cast_nonneg _) (Nat.one_le_cast.2 hpos)
      _ ≤ 2 ^ 64 := by exact_mod_cast hside'.le
  obtain ⟨factor, hfactor, hnear⟩ :=
    Scalar.divInt_near hpos (Binary64.lt_of_le_pow (hquotient.trans (by norm_num)))
  obtain ⟨mantissa, exponent, rfl, hvalue⟩ := hnear.le (by positivity)
  have hbound : Binary64.magnitude mantissa exponent ≤ 2 ^ 66 := by linarith
  have hscaled (length : Nat) (hlength : length < 2 ^ 31) :
      ∃ n, scaledLength length (.finite false mantissa exponent) = .ok n := by
    obtain ⟨x, mantissa', exponent', hx, hmul⟩ := exists_mul_finite false hlength hbound
    obtain ⟨n, hn⟩ : ∃ n, (Binary64.finite (false != false) mantissa' exponent').nearestInt? = some n :=
      ⟨_, rfl⟩
    refine ⟨n, ?_⟩
    rw [scaledLength, hx]
    change (x.mul _).asInt _ = _
    rw [hmul, Binary64.asInt, hn]
  obtain ⟨scaledWidth, hscaledWidth⟩ := hscaled width hwidth'
  obtain ⟨scaledHeight, hscaledHeight⟩ := hscaled height hheight'
  refine ⟨(.finite false mantissa exponent, scaledWidth, scaledHeight), ?_⟩
  have hdiv : (Scalar.int side).div (.int (min width height)) = .ok (.finite false mantissa exponent) := by
    rw [← Nat.cast_min, ← hshorter]
    exact hfactor
  simp only [scaledSides, hdiv, hscaledWidth, hscaledHeight, bind, Except.bind, pure, Except.pure]

/-! ## Shares -/

/-- A number from zero to one. -/
structure IsShare (x : Binary64) : Prop where
  zero_le : (Binary64.zero false).le x = true
  le_one : x.le .one = true

theorem magnitude_le_one {mantissa k b : Nat} {exponent : Int} (h : mantissa * 2 ^ k ≤ 2 ^ b)
    (hexponent : exponent ≤ k - b) : Binary64.magnitude mantissa exponent ≤ 1 := by
  have h' : (mantissa : ℚ) * 2 ^ (k : ℤ) ≤ 2 ^ (b : ℤ) := by
    rw [zpow_natCast, zpow_natCast]
    exact_mod_cast h
  calc Binary64.magnitude mantissa exponent
    _ ≤ mantissa * 2 ^ ((k : ℤ) - b) := by
      rw [Binary64.magnitude]
      gcongr
      exact one_le_two
    _ = mantissa * 2 ^ (k : ℤ) / 2 ^ (b : ℤ) := by rw [zpow_sub₀ two_ne_zero, mul_div_assoc]
    _ ≤ 1 := (div_le_one (by positivity)).2 h'

/-- The magnitude of a number from zero to one is at most one. -/
theorem IsShare.exists_magnitude_le {x : Binary64} (h : IsShare x) :
    ∃ negative mantissa exponent, x = .finite negative mantissa exponent ∧
      Binary64.magnitude mantissa exponent ≤ 1 := by
  obtain ⟨hzero, hone⟩ := h
  cases x with
  | nan => cases hone
  | inf negative => cases negative <;> [cases hone; cases hzero]
  | finite negative mantissa exponent =>
    refine ⟨negative, mantissa, exponent, rfl, ?_⟩
    rw [Binary64.zero, Binary64.le, decide_eq_true_eq, Binary64.scaled, Binary64.scaled] at hzero
    rw [Binary64.one, Binary64.le, decide_eq_true_eq, Binary64.scaled, Binary64.scaled] at hone
    have hplaces : (-52 - Binary64.minExponent).toNat = 1022 := by decide
    have hpow : ∀ n, Binary64.twoPow n = 2 ^ n := fun n => rfl
    rw [hplaces, hpow, hpow, hpow, ← pow_add] at hone
    rw [hpow, hpow, Nat.zero_mul] at hzero
    refine magnitude_le_one (k := (exponent - Binary64.minExponent).toNat) (b := 52 + 1022) ?_ ?_
    · cases negative with
      | false =>
        rw [if_neg Bool.false_ne_true, if_neg Bool.false_ne_true, Nat.cast_le] at hone
        exact hone
      | true =>
        -- only zero has a sign
        rw [if_pos rfl, if_neg Bool.false_ne_true] at hzero
        have hnone : mantissa * 2 ^ (exponent - Binary64.minExponent).toNat = 0 := by omega
        rw [hnone]
        exact Nat.zero_le _
    · rw [Binary64.minExponent]
      omega

/-- The rows of a share from zero to one can be told. -/
theorem IsShare.exists_rowsOf {x : Binary64} (h : IsShare x) {height : Nat} (hheight : height < 2 ^ 31) :
    ∃ rows, rowsOf (.real x) height = .ok rows := by
  obtain ⟨negative, mantissa, exponent, rfl, hshare⟩ := h.exists_magnitude_le
  obtain ⟨y, mantissa', exponent', hy, hmul⟩ :=
    exists_mul_finite negative hheight (hshare.trans (by norm_num))
  obtain ⟨rows, hrows⟩ : ∃ rows, (Binary64.finite (false != negative) mantissa' exponent').truncate? = some rows :=
    ⟨_, rfl⟩
  refine ⟨rows, ?_⟩
  rw [rowsOf, Scalar.times, hy]
  change (y.mul _).asInt _ = _
  rw [hmul, Binary64.asInt, hrows]

end Picture

/-! ## Intervals -/

/-- Intervals that ask for pictures which are not empty, and for a share of them to be covered. -/
structure Intervals.Sound (intervals : Intervals) : Prop where
  width_pos : 0 < intervals.normalizedWidth
  share : Picture.IsShare intervals.statusBarShare

theorem Json.isShare_of_checkShare {value : Json} {x : Binary64} (h : checkShare value = .valid x) :
    Picture.IsShare x := by
  rw [checkShare, Checked.andThen.eq_def] at h
  split at h
  next read _ =>
    split at h
    · cases h
    next hone =>
      split at h
      · cases h
      next hzero =>
        obtain rfl := Checked.valid.inj h
        exact ⟨by simpa using hzero, by simpa using hone⟩
  · cases h

theorem Json.lt_of_checkIntAbove {bound : Int} {value : Json} {n : Int}
    (h : checkIntAbove bound value = .valid n) : bound < n := by
  rw [checkIntAbove, Checked.andThen.eq_def] at h
  split at h
  · split at h
    next hbound =>
      obtain rfl := Checked.valid.inj h
      exact hbound
    · cases h
  · cases h

/-- What is validated: a width above zero, and a share from zero to one. -/
theorem Intervals.sound_of_ofMembersWith {check : Json → Checked Binary64} {members : List (Text × Json)}
    {intervals : Intervals} (hcheck : ∀ value x, check value = .valid x → Picture.IsShare x)
    (h : ofMembersWith check members = .valid intervals) : intervals.Sound := by
  have hdefault : Picture.IsShare (.ofDecimal false 4 (-2)) := ⟨by decide +kernel, by decide +kernel⟩
  simp only [ofMembersWith, Checked.seq_eq_valid_iff] at h
  obtain ⟨_, _, ⟨_, width, ⟨_, share, ⟨_, _, ⟨_, _, ⟨_, _, ⟨_, _, hdelay, -, rfl⟩, -, rfl⟩, -, rfl⟩, -, rfl⟩,
    hshare, rfl⟩, hwidth, rfl⟩, -, rfl⟩ := h
  obtain ⟨_, rfl⟩ := Checked.exists_of_map hdelay
  constructor
  · rcases Json.exists_of_field hwidth with rfl | ⟨member, -, hmember⟩
    · exact (by decide : (0 : Int) < 768)
    · exact Json.lt_of_checkIntAbove hmember
  · rcases Json.exists_of_field hshare with rfl | ⟨member, -, hmember⟩
    · exact hdefault
    · exact hcheck _ _ hmember

theorem Intervals.sound_of_ofGiven {members : List (Text × Json)} {intervals : Intervals}
    (h : ofGiven members = .valid intervals) : intervals.Sound := by
  refine sound_of_ofMembersWith (fun value x hvalue => ?_) h
  rw [checkGivenShare.eq_def] at hvalue
  split at hvalue
  · split at hvalue
    · cases hvalue
    · exact Json.isShare_of_checkShare hvalue
  · exact Json.isShare_of_checkShare hvalue

end ScreenScript
