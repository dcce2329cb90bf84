import ScreenScript.Event
import ScreenScript.Fault

/-!
# Routines

A routine is a computation on a state that has a result or breaks off, does something to the world
outside and leaves messages. One routine behind another acts on the state that the first one left,
unless the first one broke off; their events and messages stand one behind the other.

* `Routine.bind` — one routine behind another; the monad laws hold
* `Routine.within` — a routine on a part of a larger state
* `Routine.attempt` — a routine whose faults are results
-/

namespace ScreenScript

/-- What came of a routine. -/
structure Outcome (σ α : Type) where
  /-- the result, or why there is none -/
  result : Except Fault α
  /-- the state it left -/
  state : σ
  /-- what it did outside, in order -/
  trace : List Event := []
  /-- the messages it left, in order -/
  log : List Entry := []

/-- A computation on states of type `σ`. -/
def Routine (σ α : Type) : Type := σ → Outcome σ α

namespace Outcome

variable {σ τ α β : Type}

@[ext] theorem ext {x y : Outcome σ α} (hr : x.result = y.result) (hs : x.state = y.state)
    (ht : x.trace = y.trace) (hl : x.log = y.log) : x = y := by
  cases x; cases y; simp_all

/-- The outcome behind another one. -/
def behind (earlier : Outcome τ β) (later : Outcome σ α) : Outcome σ α :=
  { later with trace := earlier.trace ++ later.trace, log := earlier.log ++ later.log }

/-- The outcome with `f` for the state. -/
def onState (f : σ → τ) (outcome : Outcome σ α) : Outcome τ α :=
  ⟨outcome.result, f outcome.state, outcome.trace, outcome.log⟩

end Outcome

namespace Routine

variable {σ τ α β γ : Type}

/-- Nothing but a result. -/
protected def pure (a : α) : Routine σ α := fun s => ⟨.ok a, s, [], []⟩

/-- One routine, and then another one that depends on its result. -/
protected def bind (m : Routine σ α) (f : α → Routine σ β) : Routine σ β := fun s =>
  match (m s).result with
  | .ok a => (m s).behind (f a (m s).state)
  | .error fault => ⟨.error fault, (m s).state, (m s).trace, (m s).log⟩

instance : Monad (Routine σ) where
  pure := Routine.pure
  bind := Routine.bind

/-- Breaks off. -/
def fail (fault : Fault) : Routine σ α := fun s => ⟨.error fault, s, [], []⟩

/-- The state. -/
def get : Routine σ σ := fun s => ⟨.ok s, s, [], []⟩

/-- Another state. -/
def set (s : σ) : Routine σ Unit := fun _ => ⟨.ok (), s, [], []⟩

/-- A change of the state. -/
def modify (f : σ → σ) : Routine σ Unit := fun s => ⟨.ok (), f s, [], []⟩

/-- Something happens outside. -/
def emit (event : Event) : Routine σ Unit := fun s => ⟨.ok (), s, [event], []⟩

/-- Leaves a message. -/
def say (level : Level) (message : Text) : Routine σ Unit := fun s => ⟨.ok (), s, [], [⟨level, message⟩]⟩

/-- A result that is there or not. -/
def ofExcept {ε : Type} (fault : ε → Fault) : Except ε α → Routine σ α
  | .ok a => pure a
  | .error e => fail (fault e)

/-- A routine whose faults, if `caught` knows what to make of them, are results. -/
def attempt (m : Routine σ α) (caught : Fault → Option β) : Routine σ (Except β α) := fun s =>
  match (m s).result with
  | .ok a => ⟨.ok (.ok a), (m s).state, (m s).trace, (m s).log⟩
  | .error fault =>
    match caught fault with
    | some b => ⟨.ok (.error b), (m s).state, (m s).trace, (m s).log⟩
    | none => ⟨.error fault, (m s).state, (m s).trace, (m s).log⟩

/-- A routine on a part of the state. -/
def within (part : σ → τ) (replace : σ → τ → σ) (m : Routine τ α) : Routine σ α := fun s =>
  (m (part s)).onState (replace s)

/-! ## Laws -/

theorem pure_apply (a : α) (s : σ) : (pure a : Routine σ α) s = ⟨.ok a, s, [], []⟩ := rfl

theorem bind_eq (m : Routine σ α) (f : α → Routine σ β) : m >>= f = Routine.bind m f := rfl

/-- Introduction for `bind`, behind a result. -/
theorem bind_of_ok {m : Routine σ α} {f : α → Routine σ β} {s : σ} {a : α}
    (h : (m s).result = .ok a) : (m >>= f) s = (m s).behind (f a (m s).state) := by
  simp only [bind_eq, Routine.bind, h]

/-- Introduction for `bind`, where the first routine breaks off. -/
theorem bind_of_error {m : Routine σ α} {f : α → Routine σ β} {s : σ} {fault : Fault}
    (h : (m s).result = .error fault) :
    (m >>= f) s = ⟨.error fault, (m s).state, (m s).trace, (m s).log⟩ := by
  simp only [bind_eq, Routine.bind, h]

/-- Inversion for `bind`: if it has a result, so have both parts. -/
theorem bind_ok {m : Routine σ α} {f : α → Routine σ β} {s : σ} {b : β}
    (h : ((m >>= f) s).result = .ok b) :
    ∃ a, (m s).result = .ok a ∧ (f a (m s).state).result = .ok b ∧
      (m >>= f) s = (m s).behind (f a (m s).state) := by
  cases hm : (m s).result with
  | error fault => rw [bind_of_error hm] at h; cases h
  | ok a => rw [bind_of_ok hm] at h ⊢; exact ⟨a, rfl, h, rfl⟩

@[simp] theorem pure_bind (a : α) (f : α → Routine σ β) : (pure a : Routine σ α) >>= f = f a := by
  funext s
  rw [bind_of_ok (by rfl)]
  rfl

@[simp] theorem bind_pure (m : Routine σ α) : m >>= pure = m := by
  funext s
  cases h : (m s).result with
  | ok a => rw [bind_of_ok h]; ext <;> simp [Outcome.behind, pure_apply, h]
  | error fault => rw [bind_of_error h]; ext <;> simp [h]

theorem bind_assoc (m : Routine σ α) (f : α → Routine σ β) (g : β → Routine σ γ) :
    m >>= f >>= g = m >>= fun a => f a >>= g := by
  funext s
  cases h : (m s).result with
  | error fault =>
    have hf := bind_of_error (f := f) h
    have hb : ((m >>= f) s).result = .error fault := by rw [hf]
    rw [bind_of_error hb, hf, bind_of_error h]
  | ok a =>
    have hf := bind_of_ok (f := f) h
    rw [bind_of_ok (m := m) h]
    cases hg : (f a (m s).state).result with
    | error fault =>
      have hb : ((m >>= f) s).result = .error fault := by rw [hf]; exact hg
      rw [bind_of_error hb, hf, bind_of_error hg]
      rfl
    | ok b =>
      rw [bind_of_ok (a := b) (by rw [hf]; exact hg), hf, bind_of_ok hg]
      ext <;> simp [Outcome.behind]

instance : LawfulMonad (Routine σ) := LawfulMonad.mk'
  (Routine σ) (fun m => bind_pure m) (fun a f => pure_bind a f) (fun m f g => bind_assoc m f g)

end Routine

end ScreenScript
