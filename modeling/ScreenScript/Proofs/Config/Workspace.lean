import Mathlib.Logic.Function.Basic
import ScreenScript.Config.Store
import ScreenScript.Proofs.Disk.Ways

/-!
# Workspaces

A workspace has seven slots: three folders and four files. What routines on its files do depends on
nothing but what is in these slots, and it is told by what is in them afterwards.

* `Workspace.Slot` — the slots, with their paths and locations
* `Workspace.Shows` — what is in the slots of a workspace
* `Workspace.Brings` — what comes of a routine, and what is in the slots then
* `Workspace.brings_readText`, `Workspace.brings_writeText`, … — the operations on files
-/

namespace ScreenScript.Workspace

/-! ## Slots -/

/-- A slot of a workspace. -/
inductive Slot
  /-- the folder for screenshots -/
  | images
  /-- the folder for messages -/
  | logs
  /-- the folder for configuration files -/
  | config
  /-- the credentials -/
  | credentials
  /-- the intervals -/
  | intervals
  /-- the script -/
  | script
  /-- the macros -/
  | macros
  deriving DecidableEq, Repr

namespace Slot

/-- The name of what is in a slot. -/
def name : Slot → Text
  | images => imagesFolder
  | logs => logsFolder
  | config => configFolder
  | credentials => "credentials.json".toList
  | intervals => "intervals.json".toList
  | script => "script.txt".toList
  | macros => "macros.txt".toList

/-- Whether a slot is in the folder for configuration files. -/
def isInner : Slot → Bool
  | credentials | intervals => true
  | _ => false

/-- The path of a slot. -/
def path (folder : Path) (slot : Slot) : Path :=
  (if slot.isInner then folder.child configFolder else folder).child slot.name

/-- The location of a slot. -/
def location (root : Location) (slot : Slot) : Location :=
  slot.name :: if slot.isInner then configFolder :: root else root

theorem isName (slot : Slot) : Path.IsName slot.name := by
  cases slot <;> exact ⟨by decide, by decide, by decide, by decide⟩

theorem location_injective (root : Location) : Function.Injective (location root) := by
  intro slot other h
  have hname : slot.name = other.name := (List.cons.inj h).1
  cases slot <;> cases other <;> first | rfl | exact absurd hname (by decide)

/-- The path of a slot outside the folder for configuration files. -/
theorem path_eq {slot : Slot} (h : slot.isInner = false) (folder : Path) :
    slot.path folder = folder.child slot.name := by
  rw [path, h]
  rfl

theorem parent_path {slot : Slot} (h : slot.isInner = true) (folder : Path) :
    (slot.path folder).parent = config.path folder := by
  rw [path, h, Path.parent_child slot.isName]
  rfl

theorem path_credentials (folder : Path) : credentials.path folder = credentialsFile folder := rfl

theorem path_intervals (folder : Path) : intervals.path folder = intervalsFile folder := rfl

theorem path_script (folder : Path) : script.path folder = scriptFile folder := rfl

end Slot

/-! ## What is in the slots -/

/-- What is in each slot. -/
abbrev Stock := Slot → Option Node

/-- The most octets of the text that leads to a slot from the folder of a workspace. -/
def room : Nat := 24

/-- On this disk, the folder of a workspace is at a location, with this in its slots, and the paths to
them are not too long. -/
structure Shows (folder : Path) (root : Location) (disk : Disk) (stock : Stock) : Prop where
  located : disk.locate folder = .ok root
  there : disk.node? root = some .folder
  short : (Utf8.encode folder.toText).length + room ≤ Disk.maxPath
  node : ∀ slot, disk.node? (slot.location root) = stock slot

variable {folder : Path} {root : Location} {disk : Disk} {stock stock' stock₁ : Stock} {slot : Slot}

/-- A slot can be reached: if it is in the folder for configuration files, there is one. -/
def Reaches (stock : Stock) (slot : Slot) : Prop :=
  slot.isInner = true → stock .config = some .folder

theorem Shows.locate (h : Shows folder root disk stock) (hreach : Reaches stock slot) :
    disk.locate (slot.path folder) = .ok (slot.location root) := by
  have hshort := h.short
  rw [room] at hshort
  have hname : (Utf8.encode slot.name).length ≤ 16 := by cases slot <;> decide
  cases hinner : slot.isInner with
  | false =>
    rw [Slot.path_eq hinner, Slot.location, hinner]
    exact Disk.locate_child slot.isName h.located h.there (by omega)
  | true =>
    have hconfig : (Utf8.encode configFolder).length = 6 := by decide
    have hlength : (Utf8.encode (folder.child configFolder).toText).length ≤
        (Utf8.encode folder.toText).length + 1 + (Utf8.encode configFolder).length :=
      Path.length_encode_child folder Slot.config.isName
    have hlocated : disk.locate (folder.child configFolder) = .ok (configFolder :: root) :=
      Disk.locate_child Slot.config.isName h.located h.there (by omega)
    rw [Slot.path, Slot.location, hinner]
    refine Disk.locate_child slot.isName hlocated ((h.node .config).trans (hreach hinner)) ?_
    rw [if_pos rfl]
    omega

theorem Shows.put (h : Shows folder root disk stock) (node : Node) (hnode : stock slot ≠ some .folder) :
    Shows folder root (disk.put (slot.location root) node)
      (Function.update stock slot (some node)) := by
  rw [← h.node slot] at hnode
  have hkeeps := Disk.keepsFolders_put node hnode
  refine ⟨hkeeps.locate h.located, hkeeps.folder root h.there, h.short, fun other => ?_⟩
  have hroot : slot.location root ≠ [] := List.cons_ne_nil _ _
  rw [Disk.node?_put disk _ node hroot]
  by_cases hother : other = slot
  · rw [hother, if_pos rfl, Function.update_self]
  · rw [if_neg fun heq => hother (Slot.location_injective root heq), Function.update_of_ne hother,
      h.node other]

/-! ## What comes of routines -/

section

variable {α β : Type} {m : Routine Disk α} {f : α → Routine Disk β} {a : α} {fault : Fault}

/-- On a workspace with this in its slots, the routine comes to a result or breaks off with a fault, and
leaves that in the slots. -/
def Brings (folder : Path) (root : Location) (m : Routine Disk α) (stock : Stock) (r : Except Fault α)
    (stock' : Stock) : Prop :=
  ∀ disk, Shows folder root disk stock → (m disk).result = r ∧ Shows folder root (m disk).state stock'

variable {r : Except Fault β} {s : Except Fault α}

theorem Brings.bind (hm : Brings folder root m stock (.ok a) stock₁)
    (hf : Brings folder root (f a) stock₁ r stock') : Brings folder root (m >>= f) stock r stock' := by
  intro disk hshows
  obtain ⟨hresult, hstate⟩ := hm disk hshows
  rw [Routine.bind_of_ok hresult]
  exact hf _ hstate

theorem Brings.bind_error (hm : Brings folder root m stock (.error fault) stock') :
    Brings folder root (m >>= f) stock (.error fault) stock' := by
  intro disk hshows
  obtain ⟨hresult, hstate⟩ := hm disk hshows
  rw [Routine.bind_of_error hresult]
  exact ⟨rfl, hstate⟩

/-- Behind a routine that may break off, one that leaves everything as it is. -/
theorem Brings.bind_result {g : α → Except Fault β} (hm : Brings folder root m stock s stock')
    (hf : ∀ a, s = .ok a → Brings folder root (f a) stock' (g a) stock') :
    Brings folder root (m >>= f) stock (s >>= g) stock' := by
  cases s with
  | ok a => exact hm.bind (hf a rfl)
  | error fault => exact hm.bind_error

/-- Behind a routine that may break off, one that hands its result on. -/
theorem Brings.bind_same {f : α → Routine Disk α} (hm : Brings folder root m stock s stock')
    (hf : ∀ a, Brings folder root (f a) stock' (.ok a) stock') :
    Brings folder root (m >>= f) stock s stock' := by
  cases s with
  | ok a => exact hm.bind (hf a)
  | error fault => exact hm.bind_error

theorem Brings.attempt_of_ok {ε : Type} {caught : Fault → Option ε}
    (hm : Brings folder root m stock (.ok a) stock') :
    Brings folder root (m.attempt caught) stock (.ok (.ok a)) stock' := by
  intro disk hshows
  obtain ⟨hresult, hstate⟩ := hm disk hshows
  rw [Routine.state_attempt]
  exact ⟨Routine.result_attempt_of_ok hresult, hstate⟩

theorem Brings.attempt_of_caught {ε : Type} {caught : Fault → Option ε} {b : ε}
    (hm : Brings folder root m stock (.error fault) stock') (hcaught : caught fault = some b) :
    Brings folder root (m.attempt caught) stock (.ok (.error b)) stock' := by
  intro disk hshows
  obtain ⟨hresult, hstate⟩ := hm disk hshows
  rw [Routine.state_attempt]
  exact ⟨Routine.result_attempt_of_caught hresult hcaught, hstate⟩

theorem Brings.attempt_of_uncaught {ε : Type} {caught : Fault → Option ε}
    (hm : Brings folder root m stock (.error fault) stock') (hcaught : caught fault = none) :
    Brings folder root (m.attempt caught) stock (.error fault) stock' := by
  intro disk hshows
  obtain ⟨hresult, hstate⟩ := hm disk hshows
  rw [Routine.state_attempt]
  exact ⟨Routine.result_attempt_of_uncaught hresult hcaught, hstate⟩

theorem brings_pure : Brings folder root (pure a) stock (.ok a) stock := fun _ hshows => ⟨rfl, hshows⟩

theorem brings_fail : Brings folder root (Routine.fail fault : Routine Disk α) stock (.error fault) stock :=
  fun _ hshows => ⟨rfl, hshows⟩

theorem brings_say {level : Level} {message : Text} :
    Brings folder root (Routine.say level message) stock (.ok ()) stock :=
  fun _ hshows => ⟨rfl, hshows⟩

theorem brings_ofExcept {ε : Type} {wrap : ε → Fault} {e : Except ε α} :
    Brings folder root (Routine.ofExcept wrap e) stock (e.mapError wrap) stock := by
  cases e with
  | ok a => exact brings_pure
  | error e => exact brings_fail

end

/-! ## Operations on files -/

theorem brings_checkExists (folder : Path) (root : Location) (hreach : Reaches stock slot) :
    Brings folder root (Disk.checkExists (slot.path folder)) stock (.ok (stock slot).isSome) stock := by
  intro disk hshows
  have hexists : disk.exists? (slot.path folder) = .ok (stock slot).isSome := by
    rw [Disk.exists?, hshows.locate hreach]
    dsimp only
    rw [hshows.node slot]
  have happly : Disk.checkExists (slot.path folder) disk =
      Disk.toRoutine (disk.exists? (slot.path folder)) disk := rfl
  rw [happly, hexists]
  exact ⟨rfl, hshows⟩

/-- The text of a file with this content, or the fault of reading it. -/
def textResult (path : Path) (content : Content) : Except Fault Text :=
  match Disk.textOf? content with
  | some text => .ok text
  | none => .error (.undecodable path)

theorem textResult_eq_error {path : Path} {content : Content} {fault : Fault} :
    textResult path content = .error fault ↔
      Disk.textOf? content = none ∧ fault = .undecodable path := by
  rw [textResult]
  cases Disk.textOf? content with
  | some text => exact ⟨nofun, nofun⟩
  | none => exact ⟨fun h => ⟨rfl, (Except.error.inj h).symm⟩, fun ⟨_, h⟩ => by rw [h]⟩

theorem textResult_eq_ok {path : Path} {content : Content} {text : Text} :
    textResult path content = .ok text ↔ Disk.textOf? content = some text := by
  rw [textResult]
  cases Disk.textOf? content with
  | some text' => exact ⟨fun h => by rw [Except.ok.inj h], fun h => by rw [Option.some.inj h]⟩
  | none => exact ⟨nofun, nofun⟩

/-- What comes of reading the text of a file. -/
theorem result_readText (path : Path) (disk : Disk) :
    (Disk.readText path disk).result = ((disk.read path).mapError .file).bind (textResult path) := by
  have hread : (Disk.readContent path disk).result = (disk.read path).mapError .file := by
    rw [Disk.readContent, Routine.silent_get.result_bind_of_ok rfl]
    exact Routine.result_ofExcept .file (disk.read path) disk
  rw [Disk.readText, (Disk.silent_readContent path).result_bind, hread]
  cases disk.read path with
  | error error => rfl
  | ok content =>
    dsimp only [Except.mapError, Except.bind]
    rw [textResult]
    cases Disk.textOf? content <;> rfl

theorem brings_readContent (folder : Path) (root : Location) {content : Content}
    (hreach : Reaches stock slot) (hfile : stock slot = some (.file content)) :
    Brings folder root (Disk.readContent (slot.path folder)) stock (.ok content) stock := by
  intro disk hshows
  have hread : disk.read (slot.path folder) = .ok content := by
    rw [Disk.read, hshows.locate hreach]
    dsimp only
    rw [hshows.node slot, hfile]
  have hyields : (Disk.readContent (slot.path folder)).Yields disk content disk [] :=
    Disk.yields_readContent.2 ⟨hread, rfl, rfl⟩
  rw [hyields.result, hyields.state]
  exact ⟨rfl, hshows⟩

theorem brings_readText (folder : Path) (root : Location) {content : Content}
    (hreach : Reaches stock slot) (hfile : stock slot = some (.file content)) :
    Brings folder root (Disk.readText (slot.path folder)) stock
      (textResult (slot.path folder) content) stock := by
  refine (brings_readContent folder root hreach hfile).bind ?_
  rw [textResult]
  cases Disk.textOf? content with
  | some text => exact brings_pure
  | none => exact brings_fail

theorem brings_writeText (folder : Path) (root : Location) {t : Text} (hreach : Reaches stock slot)
    (hfile : stock slot ≠ some .folder) :
    Brings folder root (Disk.writeText (slot.path folder) t) stock (.ok ())
      (Function.update stock slot (some (.file (.octets (Utf8.encode t))))) := by
  intro disk hshows
  have hwrite : disk.write (slot.path folder) (.octets (Utf8.encode t)) =
      .ok (disk.put (slot.location root) (.file (.octets (Utf8.encode t)))) := by
    rw [Disk.write, hshows.locate hreach]
    dsimp only
    rw [hshows.node slot]
    split
    · next hfolder => exact absurd hfolder hfile
    · rfl
  have hyields := (Disk.yields_writeContent (u := ())).2 ⟨hwrite, rfl⟩
  rw [Disk.writeText, hyields.result, hyields.state]
  exact ⟨rfl, hshows.put _ hfile⟩

theorem brings_touchFile (folder : Path) (root : Location) (hreach : Reaches stock slot)
    (hnone : stock slot = none) :
    Brings folder root (Disk.touchFile (slot.path folder)) stock (.ok ())
      (Function.update stock slot (some (.file (.octets [])))) := by
  intro disk hshows
  have htouch : disk.touch (slot.path folder) =
      .ok (disk.put (slot.location root) (.file (.octets []))) := by
    rw [Disk.touch, hshows.locate hreach]
    dsimp only
    rw [hshows.node slot, hnone]
  have happly : Disk.touchFile (slot.path folder) disk =
      (Disk.toRoutine (disk.touch (slot.path folder)) >>= Routine.set) disk := rfl
  rw [happly, htouch]
  exact ⟨rfl, hshows.put _ (by simp [hnone])⟩

/-- A folder is made unless it is there. -/
theorem brings_ensureFolder (folder : Path) (root : Location) (hreach : Reaches stock slot)
    (hfolder : stock slot = none ∨ stock slot = some .folder) :
    Brings folder root (Disk.ensureFolder (slot.path folder)) stock (.ok ())
      (Function.update stock slot (some .folder)) := by
  intro disk hshows
  have hmake : ∃ next, disk.makeFolder (slot.path folder) = .ok next ∧
      Shows folder root next (Function.update stock slot (some .folder)) := by
    rw [Disk.makeFolder, hshows.locate hreach]
    dsimp only
    rw [hshows.node slot]
    rcases hfolder with hnone | hthere
    · rw [hnone]
      exact ⟨_, rfl, hshows.put _ (by simp [hnone])⟩
    · have hsame : Function.update stock slot (some .folder) = stock := by
        rw [← hthere, Function.update_eq_self]
      rw [hthere, hsame]
      exact ⟨_, rfl, hshows⟩
  obtain ⟨next, hnext, hshown⟩ := hmake
  have hyields := (Disk.yields_ensureFolder (u := ())).2 ⟨Disk.makeFolders_of_makeFolder hnext, rfl⟩
  rw [hyields.result, hyields.state]
  exact ⟨rfl, hshown⟩

end ScreenScript.Workspace
