import ScreenScript.Routine

/-!
# What a routine yields

The messages of a routine have no influence on anything. Without them, an outcome with a result is a
result, a state that is left, and the events in between, and each way to build a routine has one law that
says when it yields what.

* `Routine.Yields` — a routine has a result, leaves a state and does some events
* `Routine.yields_bind` — one routine behind another
* `Routine.yields_within`, `Routine.yields_attempt` — a part of the state, and faults that are results
* `Routine.Silent`, `Routine.effect_behind` — what a routine leaves and does even if it breaks off
* `Routine.Returns` — a routine that never breaks off
* `Routine.Emits` — everything that a routine does is of some kind, even if it breaks off
* `Routine.Quiet` — a routine does nothing outside, but may change the state
* `Routine.Agrees` — two routines that differ in their messages at most
-/

namespace ScreenScript

namespace Routine

variable {σ τ α β ε : Type} {s s' : σ} {a b : α} {events : List Event}

/-- From a state, the routine has a result, leaves another state, and does some events on the way. -/
structure Yields (m : Routine σ α) (s : σ) (a : α) (s' : σ) (events : List Event) : Prop where
  result : (m s).result = .ok a
  state : (m s).state = s'
  trace : (m s).trace = events

theorem yields_of_result {m : Routine σ α} (h : (m s).result = .ok a) :
    m.Yields s a (m s).state (m s).trace :=
  ⟨h, rfl, rfl⟩

theorem result_of_toOption {r : Except Fault α} (h : r.toOption = some a) : r = .ok a := by
  cases r with
  | ok b => exact congrArg Except.ok (Option.some.inj h)
  | error fault => cases h

theorem result_of_isSome {r : Except Fault (Option α)} {b : α} (h : r.toOption.join.isSome = true) :
    r = .ok (some (r.toOption.join.getD b)) := by
  cases r with
  | error fault => cases h
  | ok a? =>
    cases a? with
    | none => cases h
    | some a => rfl

/-- Where a routine breaks off, it yields nothing. -/
theorem Yields.not_error {m : Routine σ α} (h : m.Yields s a s' events) (fault : Fault) :
    (m s).result ≠ .error fault := by
  rw [h.result]
  exact fun heq => by cases heq

/-- A routine yields one thing only. -/
theorem Yields.unique {m : Routine σ α} {s₁ s₂ : σ} {earlier later : List Event}
    (h : m.Yields s a s₁ earlier) (h' : m.Yields s b s₂ later) : a = b ∧ s₁ = s₂ ∧ earlier = later :=
  ⟨Except.ok.inj (h.result.symm.trans h'.result), h.state.symm.trans h'.state,
    h.trace.symm.trans h'.trace⟩

/-- What a routine yields whose outcome is known. -/
theorem yields_of_apply {m : Routine σ α} {s₁ : σ} {trace : List Event} {log : List Entry}
    (h : m s = ⟨.ok b, s₁, trace, log⟩) :
    m.Yields s a s' events ↔ a = b ∧ s' = s₁ ∧ events = trace := by
  constructor
  · rintro ⟨hr, hs, ht⟩
    rw [h] at hr hs ht
    exact ⟨(Except.ok.inj hr).symm, hs.symm, ht.symm⟩
  · rintro ⟨rfl, rfl, rfl⟩
    exact ⟨congrArg Outcome.result h, congrArg Outcome.state h, congrArg Outcome.trace h⟩

theorem yields_of_apply_unit {m : Routine σ Unit} {u : Unit} {s₁ : σ} {trace : List Event}
    {log : List Entry} (h : m s = ⟨.ok (), s₁, trace, log⟩) :
    m.Yields s u s' events ↔ s' = s₁ ∧ events = trace := by
  simp [yields_of_apply h]

@[simp] theorem yields_pure :
    (pure a : Routine σ α).Yields s b s' events ↔ b = a ∧ s' = s ∧ events = [] :=
  yields_of_apply rfl

/-- One routine behind another yields something if both do. -/
theorem yields_bind {m : Routine σ β} {f : β → Routine σ α} :
    (m >>= f).Yields s a s' events ↔
      ∃ b s₁ earlier later, m.Yields s b s₁ earlier ∧ (f b).Yields s₁ a s' later ∧
        events = earlier ++ later := by
  constructor
  · rintro ⟨hr, rfl, rfl⟩
    obtain ⟨b, hm, hf, heq⟩ := bind_ok hr
    rw [heq]
    exact ⟨b, _, _, _, yields_of_result hm, yields_of_result hf, rfl⟩
  · rintro ⟨b, s₁, earlier, later, hm, hf, rfl⟩
    have hbind := bind_of_ok (f := f) hm.result
    rw [hm.state] at hbind
    refine ⟨?_, ?_, ?_⟩
    · rw [hbind]
      exact hf.result
    · rw [hbind]
      exact hf.state
    · rw [hbind, Outcome.behind, hm.trace, hf.trace]

/-- Behind a routine that has a result and changes nothing, the next one yields what it does. -/
theorem Yields.bind_same {m : Routine σ β} {f : β → Routine σ α} {b : β} (hm : m.Yields s b s [])
    (hf : (f b).Yields s a s' events) : (m >>= f).Yields s a s' events :=
  yields_bind.2 ⟨b, s, [], events, hm, hf, rfl⟩

/-- Behind a result, what comes of the whole is what comes of the next routine. -/
theorem Yields.result_bind {m : Routine σ β} {f : β → Routine σ α} {b : β} {s₁ : σ}
    (h : m.Yields s b s₁ events) : ((m >>= f) s).result = (f b s₁).result := by
  rw [bind_of_ok h.result, Outcome.behind, h.state]

/-- Behind a result, what the whole leaves is what the next routine leaves. -/
theorem Yields.state_bind {m : Routine σ β} {f : β → Routine σ α} {b : β} {s₁ : σ}
    (h : m.Yields s b s₁ events) : ((m >>= f) s).state = (f b s₁).state := by
  rw [bind_of_ok h.result, Outcome.behind, h.state]

/-- Behind a result, what is done is what was done before and what the next routine does. -/
theorem Yields.trace_bind {m : Routine σ β} {f : β → Routine σ α} {b : β} {s₁ : σ}
    (h : m.Yields s b s₁ events) : ((m >>= f) s).trace = events ++ (f b s₁).trace := by
  rw [bind_of_ok h.result, Outcome.behind, h.state, h.trace]

/-- Behind a routine that has a result and does nothing, the next one yields what both do. -/
theorem yields_bind_of_apply {m : Routine σ β} {f : β → Routine σ α} {b : β} {s₁ : σ} {log : List Entry}
    (h : m s = ⟨.ok b, s₁, [], log⟩) :
    (m >>= f).Yields s a s' events ↔ (f b).Yields s₁ a s' events := by
  rw [yields_bind]
  constructor
  · rintro ⟨b', s₂, earlier, later, hm, hf, rfl⟩
    obtain ⟨rfl, rfl, rfl⟩ := (yields_of_apply h).1 hm
    exact hf
  · intro hf
    exact ⟨b, s₁, [], events, (yields_of_apply h).2 ⟨rfl, rfl, rfl⟩, hf, rfl⟩

@[simp] theorem yields_fail {fault : Fault} : ¬ (fail fault : Routine σ α).Yields s a s' events :=
  fun h => h.not_error fault rfl

@[simp] theorem yields_get {s₁ : σ} : get.Yields s s₁ s' events ↔ s₁ = s ∧ s' = s ∧ events = [] :=
  yields_of_apply rfl

/-- What stands behind a look at the state. -/
theorem yields_get_bind {f : σ → Routine σ α} :
    (get >>= f).Yields s a s' events ↔ (f s).Yields s a s' events :=
  yields_bind_of_apply rfl

@[simp] theorem yields_set {s₁ : σ} {u : Unit} :
    (set s₁).Yields s u s' events ↔ s' = s₁ ∧ events = [] :=
  yields_of_apply_unit rfl

/-- What stands behind a change of the state. -/
theorem yields_set_bind {s₁ : σ} {f : Unit → Routine σ α} :
    (set s₁ >>= f).Yields s a s' events ↔ (f ()).Yields s₁ a s' events :=
  yields_bind_of_apply rfl

@[simp] theorem yields_modify {f : σ → σ} {u : Unit} :
    (modify f).Yields s u s' events ↔ s' = f s ∧ events = [] :=
  yields_of_apply_unit rfl

@[simp] theorem yields_emit {event : Event} {u : Unit} :
    (emit event).Yields s u s' events ↔ s' = s ∧ events = [event] :=
  yields_of_apply_unit rfl

@[simp] theorem yields_say {level : Level} {message : Text} {u : Unit} :
    (say level message).Yields s u s' events ↔ s' = s ∧ events = [] :=
  yields_of_apply_unit rfl

@[simp] theorem yields_ofExcept {fault : ε → Fault} {e : Except ε α} :
    (ofExcept fault e : Routine σ α).Yields s a s' events ↔ e = .ok a ∧ s' = s ∧ events = [] := by
  cases e with
  | ok b =>
    rw [ofExcept, yields_pure, Except.ok.injEq, eq_comm]
  | error e =>
    constructor
    · exact fun h => absurd h yields_fail
    · rintro ⟨h, -⟩
      cases h

/-- A routine on a part of the state. -/
theorem yields_within {part : σ → τ} {replace : σ → τ → σ} {m : Routine τ α} :
    (m.within part replace).Yields s a s' events ↔
      ∃ p, m.Yields (part s) a p events ∧ s' = replace s p := by
  constructor
  · rintro ⟨hr, rfl, rfl⟩
    exact ⟨_, yields_of_result hr, rfl⟩
  · rintro ⟨p, h, rfl⟩
    exact ⟨h.result, congrArg (replace s) h.state, h.trace⟩

/-- A routine whose faults are results: it yields its own result, or a fault that is caught. -/
theorem yields_attempt {m : Routine σ α} {caught : Fault → Option β} {r : Except β α} :
    (m.attempt caught).Yields s r s' events ↔
      (∃ a, r = .ok a ∧ m.Yields s a s' events) ∨
      (∃ fault b, r = .error b ∧ (m s).result = .error fault ∧ caught fault = some b ∧
        (m s).state = s' ∧ (m s).trace = events) := by
  constructor
  · rintro ⟨hr, hs, ht⟩
    rw [attempt] at hr hs ht
    cases hm : (m s).result with
    | ok a =>
      simp only [hm] at hr hs ht
      exact .inl ⟨a, (Except.ok.inj hr).symm, hm, hs, ht⟩
    | error fault =>
      simp only [hm] at hr hs ht
      cases hc : caught fault with
      | some b =>
        simp only [hc] at hr hs ht
        exact .inr ⟨fault, b, (Except.ok.inj hr).symm, rfl, hc, hs, ht⟩
      | none =>
        simp only [hc] at hr
        cases hr
  · rintro (⟨a, rfl, h⟩ | ⟨fault, b, rfl, hm, hc, hs, ht⟩)
    · refine ⟨?_, ?_, ?_⟩ <;> simp only [attempt, h.result, h.state, h.trace]
    · refine ⟨?_, ?_, ?_⟩ <;> simp only [attempt, hm, hc, hs, ht]

theorem result_attempt_of_ok {m : Routine σ α} {caught : Fault → Option β} (h : (m s).result = .ok a) :
    (m.attempt caught s).result = .ok (.ok a) := by
  simp only [attempt, h]

theorem result_attempt_of_caught {m : Routine σ α} {caught : Fault → Option β} {fault : Fault} {b : β}
    (h : (m s).result = .error fault) (hcaught : caught fault = some b) :
    (m.attempt caught s).result = .ok (.error b) := by
  simp only [attempt, h, hcaught]

theorem result_attempt_of_uncaught {m : Routine σ α} {caught : Fault → Option β} {fault : Fault}
    (h : (m s).result = .error fault) (hcaught : caught fault = none) :
    (m.attempt caught s).result = .error fault := by
  simp only [attempt, h, hcaught]

/-! ## Silence -/

/-- The routine leaves the state alone and does nothing, whether it has a result or breaks off. -/
def Silent (m : Routine σ α) : Prop := ∀ s, (m s).state = s ∧ (m s).trace = []

theorem Silent.of_yields {m : Routine σ α} (hm : m.Silent) (h : m.Yields s a s' events) :
    s' = s ∧ events = [] :=
  ⟨h.state.symm.trans (hm s).1, h.trace.symm.trans (hm s).2⟩

/-- What stands behind silence yields what the whole does. -/
theorem Silent.of_bind {m : Routine σ β} {f : β → Routine σ α} (hm : m.Silent)
    (h : (m >>= f).Yields s a s' events) : ∃ b, (f b).Yields s a s' events := by
  obtain ⟨b, s₁, earlier, later, hfirst, hf, rfl⟩ := yields_bind.1 h
  obtain ⟨rfl, rfl⟩ := hm.of_yields hfirst
  exact ⟨b, hf⟩

theorem silent_pure : (pure a : Routine σ α).Silent := fun _ => ⟨rfl, rfl⟩

theorem silent_fail {fault : Fault} : (fail fault : Routine σ α).Silent := fun _ => ⟨rfl, rfl⟩

/-- Nothing stands behind a fault. -/
theorem fail_bind {fault : Fault} (f : β → Routine σ α) :
    (fail fault : Routine σ β) >>= f = fail fault := rfl

theorem silent_get : (get : Routine σ σ).Silent := fun _ => ⟨rfl, rfl⟩

theorem silent_say {level : Level} {message : Text} : (say level message : Routine σ Unit).Silent :=
  fun _ => ⟨rfl, rfl⟩

theorem silent_ofExcept {fault : ε → Fault} {e : Except ε α} :
    (ofExcept fault e : Routine σ α).Silent := by
  cases e with
  | ok a => exact silent_pure
  | error e => exact silent_fail

theorem result_ofExcept (fault : ε → Fault) (e : Except ε α) (s : σ) :
    (ofExcept fault e s).result = e.mapError fault := by
  cases e <;> rfl

theorem result_ofExcept_iff {fault : ε → Fault} {e : Except ε α} :
    (ofExcept fault e s).result = .ok a ↔ e = .ok a := by
  cases e with
  | ok b => exact ⟨fun h => congrArg Except.ok (Except.ok.inj h), fun h => congrArg Except.ok (Except.ok.inj h)⟩
  | error e => exact ⟨nofun, nofun⟩

/-- Behind a routine, silence adds nothing to what it leaves and does. -/
theorem effect_bind {m : Routine σ β} {f : β → Routine σ α}
    (hm : (m s).state = s' ∧ (m s).trace = events) (hf : ∀ b, (f b).Silent) :
    ((m >>= f) s).state = s' ∧ ((m >>= f) s).trace = events := by
  cases hr : (m s).result with
  | error fault =>
    rw [bind_of_error hr]
    exact hm
  | ok b =>
    obtain ⟨hs, ht⟩ := hf b (m s).state
    rw [bind_of_ok hr, Outcome.behind]
    exact ⟨hs.trans hm.1, by rw [ht, List.append_nil, hm.2]⟩

/-- Behind a result, what a routine leaves and does is added to what was done before. -/
theorem effect_behind {m : Routine σ β} {f : β → Routine σ α} {b : β} {s₁ : σ}
    {earlier later : List Event} (hm : m.Yields s b s₁ earlier)
    (hf : (f b s₁).state = s' ∧ (f b s₁).trace = later) :
    ((m >>= f) s).state = s' ∧ ((m >>= f) s).trace = earlier ++ later := by
  rw [bind_of_ok hm.result, Outcome.behind, hm.state, hm.trace]
  exact ⟨hf.1, congrArg (earlier ++ ·) hf.2⟩

theorem silent_bind {m : Routine σ β} {f : β → Routine σ α} (hm : m.Silent) (hf : ∀ b, (f b).Silent) :
    (m >>= f).Silent :=
  fun s => effect_bind (hm s) hf

/-- What a silent routine yields is its result. -/
theorem Silent.yields_iff {m : Routine σ α} (hm : m.Silent) :
    m.Yields s a s' events ↔ (m s).result = .ok a ∧ s' = s ∧ events = [] := by
  obtain ⟨hs, ht⟩ := hm s
  constructor
  · exact fun h => ⟨h.result, hm.of_yields h⟩
  · rintro ⟨hr, rfl, rfl⟩
    exact ⟨hr, hs, ht⟩

/-- Behind silence, a routine has a result where it has one from the same state. -/
theorem Silent.result_bind_iff {m : Routine σ β} {f : β → Routine σ α} (hm : m.Silent) :
    ((m >>= f) s).result = .ok a ↔ ∃ b, (m s).result = .ok b ∧ (f b s).result = .ok a := by
  constructor
  · intro h
    obtain ⟨b, hb, hf, -⟩ := bind_ok h
    rw [(hm s).1] at hf
    exact ⟨b, hb, hf⟩
  · rintro ⟨b, hb, hf⟩
    rw [bind_of_ok hb, Outcome.behind, (hm s).1]
    exact hf

/-- What comes of a routine behind silence is what comes of it in the same state. -/
theorem Silent.result_bind {m : Routine σ β} {f : β → Routine σ α} (hm : m.Silent) (s : σ) :
    ((m >>= f) s).result = (m s).result.bind fun b => (f b s).result := by
  cases hr : (m s).result with
  | error fault => rw [bind_of_error hr]; rfl
  | ok b => rw [bind_of_ok hr, Outcome.behind, (hm s).1]; rfl

theorem Silent.result_bind_of_ok {m : Routine σ β} {f : β → Routine σ α} {b : β} (hm : m.Silent)
    (h : (m s).result = .ok b) : ((m >>= f) s).result = (f b s).result := by
  rw [hm.result_bind, h]
  rfl

/-! ## Routines that do not break off -/

/-- The routine has a result, whatever the state. -/
def Returns (m : Routine σ α) : Prop := ∀ s, ∃ a, (m s).result = .ok a

theorem returns_pure : (pure a : Routine σ α).Returns := fun _ => ⟨a, rfl⟩

theorem returns_say {level : Level} {message : Text} : (say level message : Routine σ Unit).Returns :=
  fun _ => ⟨(), rfl⟩

theorem returns_bind {m : Routine σ β} {f : β → Routine σ α} (hm : m.Returns)
    (hf : ∀ b, (f b).Returns) : (m >>= f).Returns := by
  intro s
  obtain ⟨b, hb⟩ := hm s
  rw [bind_of_ok hb]
  exact hf b (m s).state

/-! ## What a routine does at most -/

/-- Everything that the routine does is of this kind, whether it has a result or breaks off. -/
def Emits (kind : Event → Prop) (m : Routine σ α) : Prop := ∀ s, ∀ event ∈ (m s).trace, kind event

variable {kind : Event → Prop}

theorem Silent.emits {m : Routine σ α} (h : m.Silent) : m.Emits kind := by
  intro s event hevent
  rw [(h s).2] at hevent
  cases hevent

theorem emits_bind {m : Routine σ β} {f : β → Routine σ α} (hm : m.Emits kind)
    (hf : ∀ b, (f b).Emits kind) : (m >>= f).Emits kind := by
  intro s event hevent
  cases hr : (m s).result with
  | error fault =>
    rw [bind_of_error hr] at hevent
    exact hm s event hevent
  | ok b =>
    rw [bind_of_ok hr] at hevent
    rcases List.mem_append.1 hevent with hevent | hevent
    · exact hm s event hevent
    · exact hf b (m s).state event hevent

theorem emits_within {part : σ → τ} {replace : σ → τ → σ} {m : Routine τ α} (h : m.Emits kind) :
    (m.within part replace).Emits kind :=
  fun s => h (part s)

theorem trace_attempt (m : Routine σ α) (caught : Fault → Option β) (s : σ) :
    (m.attempt caught s).trace = (m s).trace := by
  rw [attempt]
  split
  · rfl
  · split <;> rfl

theorem state_attempt (m : Routine σ α) (caught : Fault → Option β) (s : σ) :
    (m.attempt caught s).state = (m s).state := by
  rw [attempt]
  split
  · rfl
  · split <;> rfl

theorem Silent.attempt {m : Routine σ α} (h : m.Silent) (caught : Fault → Option β) :
    (m.attempt caught).Silent :=
  fun s => ⟨(state_attempt m caught s).trans (h s).1, (trace_attempt m caught s).trans (h s).2⟩

theorem emits_set : (set s : Routine σ Unit).Emits kind := nofun

theorem emits_attempt {m : Routine σ α} {caught : Fault → Option β} (h : m.Emits kind) :
    (m.attempt caught).Emits kind := by
  intro s event hevent
  rw [trace_attempt] at hevent
  exact h s event hevent

/-- The routine does nothing outside, whether it has a result or breaks off. -/
abbrev Quiet (m : Routine σ α) : Prop := m.Emits fun _ => False

theorem Quiet.trace_eq {m : Routine σ α} (h : m.Quiet) (s : σ) : (m s).trace = [] :=
  List.eq_nil_iff_forall_not_mem.2 (h s)

theorem Quiet.emits {m : Routine σ α} (h : m.Quiet) : m.Emits kind :=
  fun s event hevent => (h s event hevent).elim

/-- What a quiet routine yields comes without events. -/
theorem Quiet.yields_nil {m : Routine σ α} (hm : m.Quiet) (h : m.Yields s a s' events) :
    m.Yields s a s' [] :=
  ⟨h.result, h.state, hm.trace_eq s⟩

/-- Behind what is quiet, nothing happens if nothing happens behind its results. -/
theorem Quiet.trace_bind {m : Routine σ β} {f : β → Routine σ α} (hm : m.Quiet)
    (hf : ∀ b s₁, m.Yields s b s₁ [] → (f b s₁).trace = []) : ((m >>= f) s).trace = [] := by
  cases hr : (m s).result with
  | error fault =>
    rw [bind_of_error hr]
    exact hm.trace_eq s
  | ok b =>
    have hb := hm.yields_nil (yields_of_result hr)
    rw [hb.trace_bind, hf b _ hb]
    rfl

/-! ## Agreement -/

/-- The routines have the same results and faults, leave the same states and do the same. -/
def Agrees (m n : Routine σ α) : Prop :=
  ∀ s, (m s).result = (n s).result ∧ (m s).state = (n s).state ∧ (m s).trace = (n s).trace

@[refl] theorem Agrees.refl (m : Routine σ α) : m.Agrees m := fun _ => ⟨rfl, rfl, rfl⟩

theorem Agrees.trans {m n k : Routine σ α} (h : m.Agrees n) (h' : n.Agrees k) : m.Agrees k := by
  intro s
  obtain ⟨hr, hs, ht⟩ := h s
  obtain ⟨hr', hs', ht'⟩ := h' s
  exact ⟨hr.trans hr', hs.trans hs', ht.trans ht'⟩

theorem Agrees.yields_iff {m n : Routine σ α} (h : m.Agrees n) :
    m.Yields s a s' events ↔ n.Yields s a s' events := by
  obtain ⟨hr, hs, ht⟩ := h s
  constructor
  · exact fun hm => ⟨hr.symm.trans hm.result, hs.symm.trans hm.state, ht.symm.trans hm.trace⟩
  · exact fun hn => ⟨hr.trans hn.result, hs.trans hn.state, ht.trans hn.trace⟩

/-- A routine that only has a result need not be there. -/
theorem agrees_of_yields {m : Routine σ β} {b : β} (h : ∀ s, m.Yields s b s []) (f : β → Routine σ α) :
    (m >>= f).Agrees (f b) := by
  intro s
  rw [bind_of_ok (h s).result, Outcome.behind, (h s).state, (h s).trace]
  exact ⟨rfl, rfl, rfl⟩

theorem agrees_say {level : Level} {message message' : Text} :
    (say level message : Routine σ Unit).Agrees (say level message') :=
  fun _ => ⟨rfl, rfl, rfl⟩

theorem Agrees.bind {m n : Routine σ β} {f g : β → Routine σ α} (h : m.Agrees n)
    (hf : ∀ b, (f b).Agrees (g b)) : (m >>= f).Agrees (n >>= g) := by
  intro s
  obtain ⟨hr, hs, ht⟩ := h s
  cases hm : (m s).result with
  | error fault =>
    rw [bind_of_error hm, bind_of_error (hr ▸ hm)]
    exact ⟨rfl, hs, ht⟩
  | ok b =>
    obtain ⟨hr', hs', ht'⟩ := hf b (m s).state
    rw [bind_of_ok hm, bind_of_ok (hr ▸ hm), Outcome.behind, Outcome.behind, ← hs, ← ht]
    exact ⟨hr', hs', by rw [ht']⟩

end Routine

end ScreenScript
