import ScreenScript.Journal
import ScreenScript.Proofs.Disk.Ways

/-!
# The sinks of a journal

Whatever happens, there is at most one sink for the console and at most one for a session. A session ends the one
before it, and only then its file is opened. If the file cannot be opened, the journal still remembers the sink
that it has removed, and no session begins any more until the sinks are set up again.

* `Journal.Sound` — what holds of the sinks at every moment
* `Journal.Knows` — the journal remembers a sink that is there, or none
* `Journal.Opens` — the disk lets a session begin
* `Desk.Lost` — a session has ended for another one that has not begun
* `Journal.sessions_begin_unless_lost` — a session begins if the disk lets it and none has been lost
-/

namespace ScreenScript

/-! ## Sinks -/

/-- Whether a sink leads to the console. -/
def SinkTarget.isConsole : SinkTarget → Bool
  | console _ => true
  | session _ => false

namespace Journal

variable {journal : Journal}

/-- The sinks that lead to the console. -/
def consoleSinks (journal : Journal) : List Sink := journal.sinks.filter fun sink => sink.target.isConsole

/-- The sinks that lead to the file of a session. -/
def sessionSinks (journal : Journal) : List Sink := journal.sinks.filter fun sink => !sink.target.isConsole

/-- There is no session: the journal remembers none, and there is no sink but one for the console. -/
structure Unused (journal : Journal) : Prop where
  session : journal.session = none
  sinks : journal.sinks = [] ∨
    ∃ sink, journal.sinks = [sink] ∧ sink.target.isConsole = true ∧ sink.number < journal.next

/-- What holds of the sinks at every moment. The journal may remember a sink that is not there. -/
structure Sound (journal : Journal) : Prop where
  consoles : journal.consoleSinks.length ≤ 1
  sessions : journal.sessionSinks.length ≤ 1
  numbers : ∀ sink ∈ journal.sinks, sink.number < journal.next
  session : ∀ sink ∈ journal.sinks, journal.session = some sink.number ↔ sink.target.isConsole = false

/-- The journal remembers the sink of a session, and this sink is there, or it remembers none. -/
def Knows (journal : Journal) : Prop :=
  journal.session = none ∨ ∃ sink ∈ journal.sessionSinks, journal.session = some sink.number

instance : Decidable journal.Knows :=
  inferInstanceAs (Decidable (_ ∨ ∃ sink ∈ journal.sessionSinks, journal.session = some sink.number))

theorem mem_sessionSinks {sink : Sink} :
    sink ∈ journal.sessionSinks ↔ sink ∈ journal.sinks ∧ sink.target.isConsole = false := by
  rw [sessionSinks, List.mem_filter, Bool.not_eq_true']

theorem Unused.sound (h : journal.Unused) : journal.Sound := by
  rcases h.sinks with hnil | ⟨sink, hsink, hconsole, hnumber⟩
  · constructor <;> simp [consoleSinks, sessionSinks, hnil]
  · constructor <;> simp [consoleSinks, sessionSinks, hsink, hconsole, hnumber, h.session]

theorem Unused.knows (h : journal.Unused) : journal.Knows := .inl h.session

/-- Every sink of a session is the one that the journal remembers. -/
theorem Sound.session_of_mem (h : journal.Sound) {sink : Sink} (hsink : sink ∈ journal.sessionSinks) :
    journal.session = some sink.number := by
  obtain ⟨hmem, htarget⟩ := mem_sessionSinks.1 hsink
  exact (h.session sink hmem).2 htarget

/-! ## Ending a session and beginning another one -/

/-- The journal without the sink that it remembers. It still remembers it. -/
def ended (journal : Journal) : Journal :=
  { journal with sinks := journal.sinks.filter fun sink => journal.session ≠ some sink.number }

/-- The journal with a session whose file is at a path, in place of the one before. -/
def begun (journal : Journal) (path : Path) : Journal :=
  { journal.ended.add (.session path) .debug with session := some journal.next }

/-- What is left behind a session is the console. -/
theorem Sound.sinks_ended (h : journal.Sound) : journal.ended.sinks = journal.consoleSinks := by
  refine List.filter_congr fun sink hsink => ?_
  have hsession := h.session sink hsink
  cases hconsole : sink.target.isConsole with
  | true => simpa [hconsole] using hsession
  | false => simpa [hconsole] using hsession

theorem Sound.sessionSinks_ended (h : journal.Sound) : journal.ended.sessionSinks = [] := by
  rw [sessionSinks, h.sinks_ended, consoleSinks, List.filter_filter]
  exact List.filter_eq_nil_iff.2 fun sink _ => by cases sink.target.isConsole <;> decide

theorem Sound.consoleSinks_ended (h : journal.Sound) : journal.ended.consoleSinks = journal.consoleSinks := by
  rw [consoleSinks, h.sinks_ended, consoleSinks, List.filter_filter]
  exact List.filter_congr fun sink _ => Bool.and_self _

theorem Sound.ended (h : journal.Sound) : journal.ended.Sound where
  consoles := h.consoleSinks_ended ▸ h.consoles
  sessions := h.sessionSinks_ended ▸ Nat.zero_le 1
  numbers sink hsink := h.numbers sink (List.mem_filter.1 hsink).1
  session sink hsink := h.session sink (List.mem_filter.1 hsink).1

/-- Behind the end of a session, the journal remembers a sink that is gone, if there was a session. -/
theorem Sound.knows_ended_iff (h : journal.Sound) (hknows : journal.Knows) :
    journal.ended.Knows ↔ journal.sessionSinks = [] := by
  rw [Knows, h.sessionSinks_ended]
  constructor
  · rintro (hnone | ⟨_, hmem, -⟩)
    · refine List.eq_nil_iff_forall_not_mem.2 fun sink hsink => ?_
      have hsome := h.session_of_mem hsink
      rw [show journal.session = none from hnone] at hsome
      cases hsome
    · cases hmem
  · intro hnil
    rcases hknows with hnone | ⟨_, hmem, -⟩
    · exact .inl hnone
    · rw [hnil] at hmem
      cases hmem

theorem Sound.sinks_begun (h : journal.Sound) (path : Path) :
    (journal.begun path).sinks = journal.consoleSinks ++ [⟨journal.next, .session path, .debug⟩] := by
  rw [← h.sinks_ended]
  rfl

theorem Sound.sessionSinks_begun (h : journal.Sound) (path : Path) :
    (journal.begun path).sessionSinks = [⟨journal.next, .session path, .debug⟩] := by
  have hended := h.sessionSinks_ended
  rw [sessionSinks, h.sinks_ended] at hended
  rw [sessionSinks, h.sinks_begun, List.filter_append, hended]
  rfl

theorem Sound.consoleSinks_begun (h : journal.Sound) (path : Path) :
    (journal.begun path).consoleSinks = journal.consoleSinks := by
  have hended := h.consoleSinks_ended
  rw [consoleSinks, h.sinks_ended] at hended
  rw [consoleSinks, h.sinks_begun, List.filter_append, hended]
  exact List.append_nil _

theorem Sound.begun (h : journal.Sound) (path : Path) : (journal.begun path).Sound where
  consoles := h.consoleSinks_begun path ▸ h.consoles
  sessions := h.sessionSinks_begun path ▸ Nat.le_refl 1
  numbers sink hsink := by
    rw [h.sinks_begun, List.mem_append, List.mem_singleton] at hsink
    rcases hsink with hold | rfl
    · exact Nat.lt_succ_of_lt (h.numbers sink (List.mem_filter.1 hold).1)
    · exact Nat.lt_succ_self _
  session sink hsink := by
    rw [h.sinks_begun, List.mem_append, List.mem_singleton] at hsink
    rcases hsink with hold | rfl
    · -- the number of the new session is greater than those of the sinks before it
      obtain ⟨hmem, hconsole⟩ := List.mem_filter.1 hold
      have hnumber := h.numbers sink hmem
      simp only [Journal.begun, hconsole, Option.some.injEq, Bool.true_eq_false, iff_false]
      omega
    · exact ⟨fun _ => rfl, fun _ => rfl⟩

theorem Sound.knows_begun (h : journal.Sound) (path : Path) : (journal.begun path).Knows := by
  refine .inr ⟨⟨journal.next, .session path, .debug⟩, ?_, rfl⟩
  rw [h.sessionSinks_begun]
  exact List.mem_singleton_self _

/-! ## Where a routine on the files and the journal breaks off -/

/-- The routine breaks off and leaves this journal. -/
structure Breaks {α : Type} (m : Routine Desk α) (desk : Desk) (journal : Journal) : Prop where
  result : ∀ a, (m desk).result ≠ .ok a
  journal : (m desk).state.journal = journal

section Routines

variable {α β : Type} {desk desk' : Desk} {m : Routine Desk β} {f : β → Routine Desk α}

/-- Nothing comes behind a routine that breaks off. -/
theorem Breaks.bind (h : Breaks m desk journal) (f : β → Routine Desk α) : Breaks (m >>= f) desk journal := by
  cases hm : (m desk).result with
  | ok b => exact absurd hm (h.result b)
  | error fault =>
    constructor
    · rw [Routine.bind_of_error hm]
      nofun
    · rw [Routine.bind_of_error hm]
      exact h.journal

/-- Behind a result, the whole breaks off where the next routine does. -/
theorem Breaks.behind {b : β} {events : List Event} (h : Breaks (f b) desk' journal)
    (hm : m.Yields desk b desk' events) : Breaks (m >>= f) desk journal := by
  constructor
  · rw [hm.result_bind]
    exact h.result
  · rw [hm.state_bind]
    exact h.journal

theorem yields_get_desk (desk : Desk) : Routine.get.Yields desk desk desk [] :=
  Routine.yields_get.2 ⟨rfl, rfl, rfl⟩

theorem breaks_onDisk {m : Routine Disk α} (h : ∀ a, (m desk.disk).result ≠ .ok a) :
    Breaks (onDisk m) desk desk.journal :=
  ⟨h, rfl⟩

theorem yields_onDisk {m : Routine Disk α} {a : α} {disk : Disk} {events : List Event}
    (h : m.Yields desk.disk a disk events) : (onDisk m).Yields desk a { desk with disk } events :=
  Routine.yields_within.2 ⟨disk, h, rfl⟩

end Routines

/-! ## The files of a session -/

/-- The folder can be made. -/
def FolderMade (folder : Path) (disk : Disk) : Prop := ∃ made, disk.makeFolders folder = (.ok (), made)

/-- The disk lets a session begin: its folder can be made, the path of its file is a template of a path, and the
file can be opened there. -/
def Opens (folder : Path) (stamp : Stamp) (disk disk' : Disk) : Prop :=
  ∃ made file around, disk.makeFolders folder = (.ok (), made) ∧
    sinkFile stamp made.hereNames (sessionFile folder stamp.name) = .ok file ∧
    made.makeFolders file.parent = (.ok (), around) ∧ around.openFile file = .ok disk'

/-- The folder can be used: it can be made, and the file of the session can be opened in it. -/
def Usable (folder : Path) (stamp : Stamp) (disk disk' : Disk) : Prop :=
  ∃ made, disk.makeFolders folder = (.ok (), made) ∧
    made.openFile (sessionFile folder stamp.name) = .ok disk'

/-- The path of the file of a session stands for itself: it has no braces, which the library takes as it is
documented, and goes down from the root. -/
structure Literal (folder : Path) (stamp : Stamp) : Prop where
  name : Path.IsName ("session-".toList ++ stamp.name ++ ".log".toList)
  start : folder.start ≠ .here
  down : "..".toList ∉ folder.names
  documented : stamp.Documented
  noBrace : (sessionFile folder stamp.name).toText.any Template.isBrace = false
  read : Path.ofText (sessionFile folder stamp.name).toText = sessionFile folder stamp.name

variable {folder path : Path} {stamp : Stamp} {disk disk' : Disk} {desk : Desk}

theorem Literal.sinkFile (h : Literal folder stamp) (here : List Text) :
    sinkFile stamp here (sessionFile folder stamp.name) = .ok (sessionFile folder stamp.name) := by
  have habsolute : (sessionFile folder stamp.name).absolute here = sessionFile folder stamp.name := by
    rw [sessionFile, Path.child_eq h.name]
    refine Path.absolute_of_down ?_ ?_ here
    · exact h.start
    · rw [List.mem_append, List.mem_singleton, not_or]
      exact ⟨h.down, h.name.noUp.symm⟩
  rw [Journal.sinkFile, h.documented _ h.noBrace, Except.map, h.read, habsolute]

/-- Where the path stands for itself, a session can begin in every folder that can be used. -/
theorem Literal.opens_iff (h : Literal folder stamp) :
    Opens folder stamp disk disk' ↔ Usable folder stamp disk disk' := by
  constructor
  · rintro ⟨made, file, around, hfolder, hfile, haround, hopen⟩
    obtain rfl := Except.ok.inj ((h.sinkFile _).symm.trans hfile)
    -- the folder around the file is the one that has been made
    rw [sessionFile, Path.parent_child h.name, (Disk.folderAt_of_makeFolders hfolder).makeFolders] at haround
    obtain ⟨-, rfl⟩ := Prod.mk.inj haround
    exact ⟨made, hfolder, hopen⟩
  · rintro ⟨made, hfolder, hopen⟩
    refine ⟨made, _, made, hfolder, h.sinkFile _, ?_, hopen⟩
    rw [sessionFile, Path.parent_child h.name]
    exact (Disk.folderAt_of_makeFolders hfolder).makeFolders

theorem yields_openSink {events : List Event} {u : Unit} :
    (openSink stamp path).Yields disk u disk' events ↔
      (∃ file around, sinkFile stamp disk.hereNames path = .ok file ∧
        disk.makeFolders file.parent = (.ok (), around) ∧ around.openFile file = .ok disk') ∧ events = [] := by
  rw [openSink, Routine.yields_get_bind, Routine.yields_bind]
  constructor
  · rintro ⟨file, _, _, _, hread, hrest, rfl⟩
    obtain ⟨hfile, rfl, rfl⟩ := Routine.yields_ofExcept.1 hread
    obtain ⟨_, around, _, _, hmake, hopen, rfl⟩ := Routine.yields_bind.1 hrest
    obtain ⟨haround, rfl⟩ := Disk.yields_ensureFolder.1 hmake
    obtain ⟨hdisk, rfl⟩ := Disk.yields_update.1 hopen
    exact ⟨⟨file, around, hfile, haround, hdisk⟩, rfl⟩
  · rintro ⟨⟨file, around, hfile, haround, hopen⟩, rfl⟩
    refine ⟨file, disk, [], [], Routine.yields_ofExcept.2 ⟨hfile, rfl, rfl⟩, ?_, rfl⟩
    exact Routine.yields_bind.2 ⟨(), around, [], [], Disk.yields_ensureFolder.2 ⟨haround, rfl⟩,
      Disk.yields_update.2 ⟨hopen, rfl⟩, rfl⟩

/-! ## How a session begins -/

/-- Where the journal remembers no sink, no session ends. -/
theorem ended_of_none (h : journal.session = none) : journal.ended = journal := by
  have hall : (journal.sinks.filter fun sink => journal.session ≠ some sink.number) = journal.sinks := by
    rw [List.filter_eq_self, h]
    exact fun _ _ => decide_eq_true nofun
  rw [ended, hall]

theorem remove?_of_mem {sink : Sink} (hsink : sink ∈ journal.sinks) (h : journal.session = some sink.number) :
    journal.remove? sink.number = some journal.ended := by
  have hany : (journal.sinks.any fun other => other.number = sink.number) = true :=
    List.any_eq_true.2 ⟨sink, hsink, decide_eq_true rfl⟩
  rw [remove?, if_pos hany, ended, h]
  simp only [ne_eq, Option.some.injEq, eq_comm]

theorem Sound.remove?_eq_none (h : journal.Sound) (hknows : ¬ journal.Knows) {number : Nat}
    (hnumber : journal.session = some number) : journal.remove? number = none := by
  rw [remove?, if_neg]
  rw [List.any_eq_true]
  rintro ⟨sink, hsink, hsame⟩
  rw [decide_eq_true_eq] at hsame
  -- a sink with the number that is remembered is that of a session
  have hsession : journal.session = some sink.number := hsame ▸ hnumber
  exact hknows (.inr ⟨sink, mem_sessionSinks.2 ⟨hsink, (h.session sink hsink).1 hsession⟩, hsession⟩)

theorem yields_endSession (h : desk.journal.Knows) :
    endSession.Yields desk () { desk with journal := desk.journal.ended } [] := by
  rw [endSession, Routine.yields_get_bind]
  rcases h with hnone | ⟨sink, hsink, hsome⟩
  · rw [ended_of_none hnone]
    simp only [hnone]
    exact Routine.yields_pure.2 ⟨rfl, rfl, rfl⟩
  · simp only [hsome, remove?_of_mem (mem_sessionSinks.1 hsink).1 hsome]
    exact Routine.yields_modify.2 ⟨rfl, rfl⟩

theorem breaks_endSession (hsound : desk.journal.Sound) (h : ¬ desk.journal.Knows) :
    Breaks endSession desk desk.journal := by
  obtain ⟨number, hnumber⟩ := Option.ne_none_iff_exists'.1 (not_or.1 h).1
  refine Breaks.behind ?_ (yields_get_desk desk)
  simp only [hnumber, hsound.remove?_eq_none h hnumber]
  exact ⟨nofun, rfl⟩

theorem yields_folder {made : Disk} (h : desk.disk.makeFolders folder = (.ok (), made)) :
    (onDisk (Disk.ensureFolder folder)).Yields desk () { desk with disk := made } [] :=
  yields_onDisk (Disk.yields_ensureFolder.2 ⟨h, rfl⟩)

/-- Without the folder, everything stays as it is. -/
theorem breaks_beginSession_of_folder (h : ¬ FolderMade folder desk.disk) :
    Breaks (beginSession folder stamp) desk desk.journal := by
  refine (breaks_onDisk fun _ hmade => h ?_).bind _
  exact ⟨_, (Disk.yields_ensureFolder.1 (Routine.yields_of_result hmade)).1⟩

/-- If the journal remembers a sink that is not there, the new session breaks off before its file is opened. -/
theorem breaks_beginSession_of_unknown (hsound : desk.journal.Sound) (h : ¬ desk.journal.Knows)
    (hfolder : FolderMade folder desk.disk) : Breaks (beginSession folder stamp) desk desk.journal := by
  obtain ⟨made, hmade⟩ := hfolder
  have hbreaks : Breaks endSession { desk with disk := made } desk.journal := breaks_endSession hsound h
  rw [beginSession]
  refine Breaks.behind ?_ (yields_folder hmade)
  exact hbreaks.bind _

/-- If the file cannot be opened, the session before has ended all the same. -/
theorem breaks_beginSession_of_file (h : desk.journal.Knows) (hfolder : FolderMade folder desk.disk)
    (hopens : ¬ ∃ disk', Opens folder stamp desk.disk disk') :
    Breaks (beginSession folder stamp) desk desk.journal.ended := by
  obtain ⟨made, hmade⟩ := hfolder
  have hopen : Breaks (onDisk (openSink stamp (sessionFile folder stamp.name)))
      ⟨made, desk.journal.ended⟩ desk.journal.ended := by
    refine breaks_onDisk fun _ hresult => hopens ?_
    obtain ⟨file, around, hfile, haround, hdisk⟩ := (yields_openSink.1 (Routine.yields_of_result hresult)).1
    exact ⟨_, made, file, around, hmade, hfile, haround, hdisk⟩
  have hend : endSession.Yields ⟨made, desk.journal⟩ () ⟨made, desk.journal.ended⟩ [] := yields_endSession h
  rw [beginSession]
  refine Breaks.behind ?_ (yields_folder hmade)
  refine Breaks.behind ?_ hend
  exact hopen.bind _

/-- Otherwise the session begins. -/
theorem yields_beginSession (h : desk.journal.Knows) (hopens : Opens folder stamp desk.disk disk') :
    (beginSession folder stamp).Yields desk (sessionFile folder stamp.name)
      ⟨disk', (desk.journal.begun (sessionFile folder stamp.name)).write
        ⟨.info, "详细日志: ".toList ++ (sessionFile folder stamp.name).toText⟩⟩ [] := by
  obtain ⟨made, file, around, hmade, hfile, haround, hdisk⟩ := hopens
  have hopen : (openSink stamp (sessionFile folder stamp.name)).Yields made () disk' [] :=
    yields_openSink.2 ⟨⟨file, around, hfile, haround, hdisk⟩, rfl⟩
  have hend : endSession.Yields ⟨made, desk.journal⟩ () ⟨made, desk.journal.ended⟩ [] := yields_endSession h
  refine Routine.yields_bind.2 ⟨(), _, [], [], yields_folder hmade, ?_, rfl⟩
  refine Routine.yields_bind.2 ⟨(), _, [], [], hend, ?_, rfl⟩
  refine Routine.yields_bind.2 ⟨(), _, [], [], yields_onDisk hopen, ?_, rfl⟩
  exact ⟨rfl, rfl, rfl⟩

/-! ## Setting the sinks up -/

theorem state_addConsole (desk : Desk) :
    (addConsole desk).state = desk ∨
      ∃ stream least, (addConsole desk).state = { desk with journal := desk.journal.add (.console stream) least } := by
  rw [addConsole, (yields_get_desk desk).state_bind]
  cases desk.journal.consoleEnabled with
  | false => exact .inl rfl
  | true =>
    cases desk.journal.stream? with
    | none => exact .inl rfl
    | some stream =>
      cases Level.ofName? desk.journal.consoleLevel with
      | none => exact .inl rfl
      | some least => exact .inr ⟨stream, least, rfl⟩

theorem setUp_of_configured {force : Bool} (h : (desk.journal.configured && !force) = true) :
    (setUp force desk).state = desk := by
  rw [setUp, (yields_get_desk desk).state_bind]
  simp only [if_pos h]
  rfl

/-- Setting the sinks up leaves no session, also if the name of the level of the console is unknown. -/
theorem unused_setUp {force : Bool} (h : (desk.journal.configured && !force) = false) :
    (setUp force desk).state.journal.Unused := by
  have hclear : (change clear).Yields desk () { desk with journal := desk.journal.clear } [] :=
    Routine.yields_modify.2 ⟨rfl, rfl⟩
  have hconsole : (addConsole { desk with journal := desk.journal.clear }).state.journal.Unused := by
    rcases state_addConsole { desk with journal := desk.journal.clear } with hsame | ⟨stream, least, hadd⟩
    · rw [hsame]
      exact ⟨rfl, .inl rfl⟩
    · rw [hadd]
      exact ⟨rfl, .inr ⟨_, rfl, rfl, Nat.lt_succ_self _⟩⟩
  rw [setUp, (yields_get_desk desk).state_bind]
  simp only [if_neg (Bool.eq_false_iff.1 h)]
  rw [hclear.state_bind]
  cases hresult : (addConsole { desk with journal := desk.journal.clear }).result with
  | error fault => rwa [Routine.bind_of_error hresult]
  | ok _ =>
    rw [Routine.bind_of_ok hresult]
    exact ⟨hconsole.session, hconsole.sinks⟩

end Journal

/-! ## Whatever happens -/

/-- Something that happens to the files and the journal. -/
inductive Happening
  /-- the sinks are set up -/
  | setUp (force : Bool)
  /-- a session begins in a folder, or breaks off -/
  | session (folder : Path) (stamp : Stamp)
  /-- a message -/
  | message (level : Level) (message : Text)
  /-- the files and the settings of the console are changed by others -/
  | change (disk : Disk) (consoleLevel : Text) (consoleEnabled : Bool) (streams : List ConsoleStream)

/-- The files and the journal behind it. -/
def Desk.next (desk : Desk) : Happening → Desk
  | .setUp force => (Journal.setUp force desk).state
  | .session folder stamp => (Journal.beginSession folder stamp desk).state
  | .message level message => (Journal.say level message desk).state
  | .change disk consoleLevel consoleEnabled streams =>
    { disk, journal := { desk.journal with consoleLevel, consoleEnabled, streams } }

/-- The files and the journal behind all that has happened, the latest first. -/
def Desk.after (desk : Desk) : List Happening → Desk
  | [] => desk
  | happening :: past => (desk.after past).next happening

/-- The sinks are set up anew. -/
def Happening.Resets (desk : Desk) : Happening → Prop
  | .setUp force => (desk.journal.configured && !force) = false
  | _ => False

/-- A session ends for another one whose file cannot be opened. -/
def Happening.Loses (desk : Desk) : Happening → Prop
  | .session folder stamp => desk.journal.sessionSinks ≠ [] ∧ Journal.FolderMade folder desk.disk ∧
      ¬ ∃ disk', Journal.Opens folder stamp desk.disk disk'
  | _ => False

/-- Since the sinks were set up for the last time, a session has ended for another one that has not begun. -/
def Desk.Lost (desk : Desk) : List Happening → Prop
  | [] => False
  | happening :: past => ¬ happening.Resets (desk.after past) ∧
      (happening.Loses (desk.after past) ∨ desk.Lost past)

namespace Journal

variable {desk : Desk} {folder path : Path} {stamp : Stamp}

/-- What the journal is behind a session that begins or breaks off, and whether it still knows its sink. -/
theorem sound_session (h : desk.journal.Sound) (folder : Path) (stamp : Stamp) :
    (desk.next (.session folder stamp)).journal.Sound ∧
      ((desk.next (.session folder stamp)).journal.Knows ↔
        desk.journal.Knows ∧ ¬ Happening.Loses desk (.session folder stamp)) := by
  rw [Desk.next, Happening.Loses]
  by_cases hfolder : FolderMade folder desk.disk
  · by_cases hknows : desk.journal.Knows
    · by_cases hopens : ∃ disk', Opens folder stamp desk.disk disk'
      · obtain ⟨disk', hdisk⟩ := hopens
        rw [(yields_beginSession hknows hdisk).state]
        have hbegun := h.begun (sessionFile folder stamp.name)
        refine ⟨⟨hbegun.consoles, hbegun.sessions, hbegun.numbers, hbegun.session⟩, ?_⟩
        exact iff_of_true (h.knows_begun _) ⟨hknows, fun hlost => hlost.2.2 ⟨disk', hdisk⟩⟩
      · rw [(breaks_beginSession_of_file hknows hfolder hopens).journal]
        refine ⟨h.ended, ?_⟩
        rw [h.knows_ended_iff hknows]
        simp [hknows, hfolder, hopens]
    · rw [(breaks_beginSession_of_unknown h hknows hfolder).journal]
      exact ⟨h, iff_of_false hknows fun hboth => hknows hboth.1⟩
  · rw [(breaks_beginSession_of_folder hfolder).journal]
    exact ⟨h, by simp [hfolder]⟩

/-- One step: the sinks stay as they have to be, and the journal knows its sink if it did before and has not lost
it now, or if the sinks are set up anew. -/
theorem sound_next (h : desk.journal.Sound) (happening : Happening) :
    (desk.next happening).journal.Sound ∧
      ((desk.next happening).journal.Knows ↔
        happening.Resets desk ∨ desk.journal.Knows ∧ ¬ happening.Loses desk) := by
  cases happening with
  | setUp force =>
    rw [Desk.next, Happening.Resets]
    cases hconfigured : desk.journal.configured && !force with
    | true =>
      rw [setUp_of_configured hconfigured]
      exact ⟨h, by simp [Happening.Loses]⟩
    | false =>
      have hunused := unused_setUp hconfigured
      exact ⟨hunused.sound, iff_of_true hunused.knows (.inl rfl)⟩
  | session folder stamp =>
    obtain ⟨hsound, hknows⟩ := sound_session h folder stamp
    exact ⟨hsound, by simp [hknows, Happening.Resets]⟩
  | message level message =>
    -- neither messages nor settings are sinks
    refine ⟨⟨h.consoles, h.sessions, h.numbers, h.session⟩, ?_⟩
    simp only [Happening.Resets, Happening.Loses, false_or, not_false_eq_true, and_true]
    exact Iff.rfl
  | change disk consoleLevel consoleEnabled streams =>
    refine ⟨⟨h.consoles, h.sessions, h.numbers, h.session⟩, ?_⟩
    simp only [Happening.Resets, Happening.Loses, false_or, not_false_eq_true, and_true]
    exact Iff.rfl

/-- A whole past: the sinks are as they have to be, and the journal knows its sink unless it has lost it. -/
theorem sound_after (h : desk.journal.Unused) (past : List Happening) :
    (desk.after past).journal.Sound ∧ ((desk.after past).journal.Knows ↔ ¬ desk.Lost past) := by
  induction past with
  | nil => exact ⟨h.sound, iff_of_true h.knows not_false⟩
  | cons happening past ih =>
    obtain ⟨hsound, hknows⟩ := sound_next ih.1 happening
    refine ⟨hsound, ?_⟩
    rw [Desk.after, hknows, ih.2, Desk.Lost, Classical.not_and_iff_not_or_not, Classical.not_not, not_or,
      and_comm]

/-- A session begins where the journal knows its sink and the disk lets it. -/
theorem result_beginSession_iff (h : desk.journal.Sound) :
    (beginSession folder stamp desk).result = .ok path ↔
      desk.journal.Knows ∧ path = sessionFile folder stamp.name ∧
        ∃ disk', Opens folder stamp desk.disk disk' := by
  constructor
  · intro hresult
    by_cases hfolder : FolderMade folder desk.disk
    · by_cases hknows : desk.journal.Knows
      · by_cases hopens : ∃ disk', Opens folder stamp desk.disk disk'
        · obtain ⟨disk', hdisk⟩ := hopens
          have hpath := (yields_beginSession hknows hdisk).result.symm.trans hresult
          exact ⟨hknows, (Except.ok.inj hpath).symm, disk', hdisk⟩
        · exact absurd hresult ((breaks_beginSession_of_file hknows hfolder hopens).result path)
      · exact absurd hresult ((breaks_beginSession_of_unknown h hknows hfolder).result path)
    · exact absurd hresult ((breaks_beginSession_of_folder hfolder).result path)
  · rintro ⟨hknows, rfl, disk', hdisk⟩
    exact (yields_beginSession hknows hdisk).result

/-- **The sinks of the sessions.** Since there was no session, whatever has happened: there is at most one sink for
the console and at most one for a session, and the latter is the one that the journal remembers. The journal
remembers no sink that is gone unless a session has been lost. Unless one has been lost, a session begins just if
the disk lets it, which is if the folder can be used where its path stands for itself, and then it has the only
sink for a session. -/
theorem sessions_begin_unless_lost (h : desk.journal.Unused) (past : List Happening) :
    (desk.after past).journal.consoleSinks.length ≤ 1 ∧
      (desk.after past).journal.sessionSinks.length ≤ 1 ∧
      (∀ sink ∈ (desk.after past).journal.sessionSinks, (desk.after past).journal.session = some sink.number) ∧
      ((desk.after past).journal.Knows ↔ ¬ desk.Lost past) ∧
      ∀ folder stamp path,
        ((beginSession folder stamp (desk.after past)).result = .ok path ↔
          ¬ desk.Lost past ∧ path = sessionFile folder stamp.name ∧
            ∃ disk', Opens folder stamp (desk.after past).disk disk') ∧
        (Literal folder stamp → ((beginSession folder stamp (desk.after past)).result = .ok path ↔
          ¬ desk.Lost past ∧ path = sessionFile folder stamp.name ∧
            ∃ disk', Usable folder stamp (desk.after past).disk disk')) ∧
        ((beginSession folder stamp (desk.after past)).result = .ok path →
          ∃ number, (desk.after (.session folder stamp :: past)).journal.session = some number ∧
            (desk.after (.session folder stamp :: past)).journal.sessionSinks =
              [⟨number, .session path, .debug⟩]) := by
  obtain ⟨hsound, hknows⟩ := sound_after h past
  refine ⟨hsound.consoles, hsound.sessions, fun sink => hsound.session_of_mem, hknows, fun folder stamp path => ?_⟩
  have hresult : (beginSession folder stamp (desk.after past)).result = .ok path ↔
      ¬ desk.Lost past ∧ path = sessionFile folder stamp.name ∧
        ∃ disk', Opens folder stamp (desk.after past).disk disk' := by
    rw [← hknows]
    exact result_beginSession_iff hsound
  refine ⟨hresult, fun hliteral => ?_, fun hbegins => ?_⟩
  · simp only [hresult, hliteral.opens_iff]
  · obtain ⟨hlost, rfl, disk', hopens⟩ := hresult.1 hbegins
    have hyields := yields_beginSession (hknows.2 hlost) hopens
    rw [Desk.after, Desk.next, hyields.state]
    exact ⟨_, rfl, hsound.sessionSinks_begun _⟩

/-- No session yet, and a folder `b` in which the name of the file is taken by a folder. -/
def obstructed : Desk where
  disk := { nodes := [(["b".toList], .folder), (["session-0.log".toList, "b".toList], .folder)] }
  journal := {}

/-- The time at which sessions begin there. -/
def noon : Stamp := { name := "0".toList }

/-- Behind a session in one folder, another one begins in the next folder, with the only sink. -/
theorem sessions_begin_unless_lost_of_two :
    obstructed.journal.Unused ∧
      (beginSession (Path.ofText "/c".toList) noon
          (obstructed.after [.session (Path.ofText "/a".toList) noon])).result =
        .ok (Path.ofText "/c/session-0.log".toList) ∧
      ∃ number, (obstructed.after [.session (Path.ofText "/c".toList) noon,
        .session (Path.ofText "/a".toList) noon]).journal.sessionSinks =
          [⟨number, .session (Path.ofText "/c/session-0.log".toList), .debug⟩] := by
  have hunused : obstructed.journal.Unused := ⟨rfl, .inl rfl⟩
  obtain ⟨-, -, -, hknows, hsessions⟩ :=
    sessions_begin_unless_lost hunused [.session (Path.ofText "/a".toList) noon]
  obtain ⟨-, hliteral, hsink⟩ :=
    hsessions (Path.ofText "/c".toList) noon (Path.ofText "/c/session-0.log".toList)
  have hname : Path.IsName ("session-".toList ++ noon.name ++ ".log".toList) := by
    constructor <;> decide +kernel
  have hbegins := (hliteral ⟨hname, by decide, by decide, documented_template _, by decide +kernel, by decide +kernel⟩).2
    ⟨hknows.1 (by decide +kernel), by decide +kernel, _, _, by rfl, by rfl⟩
  obtain ⟨number, -, hsinks⟩ := hsink hbegins
  exact ⟨hunused, hbegins, number, hsinks⟩

/-- A session that ends for one whose file cannot be opened is lost, and no other one begins, even where the
folder can be used. A brace in the path of a folder that can be used keeps a session from beginning as well. -/
theorem session_may_be_lost :
    obstructed.journal.Unused ∧
      (let lost := obstructed.after [.session (Path.ofText "/b".toList) noon, .session (Path.ofText "/a".toList) noon]
      ¬ lost.journal.Knows ∧
        (∃ disk', Usable (Path.ofText "/a".toList) noon lost.disk disk') ∧
        (beginSession (Path.ofText "/a".toList) noon lost).result = .error (.unknownSink 0)) ∧
      (∃ disk', Usable (Path.ofText "/a\x7db".toList) noon obstructed.disk disk') ∧
      (beginSession (Path.ofText "/a\x7db".toList) noon obstructed).result = .error (.template .strayBrace) := by
  refine ⟨⟨rfl, .inl rfl⟩, ⟨by decide +kernel, ⟨_, _, by rfl, by rfl⟩, by rfl⟩, ⟨_, _, by rfl, by rfl⟩, by rfl⟩

end Journal

end ScreenScript
