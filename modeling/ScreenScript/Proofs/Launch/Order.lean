import ScreenScript.Proofs.Device.Presence
import ScreenScript.Proofs.Launch.Readiness
import ScreenScript.Proofs.Run.Reach

/-!
# The order of a whole run

Nothing happens outside before the command line is understood, the configurations are loaded and the whole
script compiles. Then the device is asked for, and nothing else happens unless it is there. Only then the
first tasks of the script are carried out, and all of them if the program is to end with code zero.

* `Launch.events`, `Launch.returned` — what the whole program does, and the code that it ends with
* `Launch.Setup`, `Launch.Ready` — all that goes well before the device is asked for
* `Launch.launch_keeps_order` — the order, and when the code is zero
-/

namespace ScreenScript.Launch

variable {words : List Text} {surroundings : Surroundings} {host : Host} {settings : Settings}

/-! ## The whole program -/

/-- What the whole program does outside. -/
def events (words : List Text) (surroundings : Surroundings) (host : Host) : List Event :=
  match launch words surroundings with
  | .error _ => []
  | .ok routine => (routine host).trace

/-- The code that the whole program ends with. There is none if it breaks off, or if the command line asks
for no run. -/
def returned (words : List Text) (surroundings : Surroundings) (host : Host) : Option Int :=
  match launch words surroundings with
  | .error _ => none
  | .ok routine => (routine host).result.toOption

/-- What is there when the device is asked for: the settings, what the run needs, and the files. -/
structure Setup where
  /-- the settings that the command line has changed -/
  settings : Settings
  /-- what the run needs -/
  prepared : Prepared
  /-- the files and folders -/
  disk : Disk

namespace Setup

/-- The bridge to the device. -/
def bridge (setup : Setup) (surroundings : Surroundings) : Bridge where
  program := setup.settings.bridgeProgram
  serial := setup.settings.serial.filter fun serial => serial ≠ []
  folder := setup.settings.folder
  intervals := setup.prepared.intervals
  replies := surroundings.replies
  imaging := surroundings.imaging

/-- What carries out the script. -/
def engine (setup : Setup) (surroundings : Surroundings) : Engine Bridge.History :=
  Launch.engine setup.settings surroundings setup.prepared

/-- What the run acts on when the device is asked for. -/
def session (setup : Setup) (host : Host) : Session Bridge.History :=
  { site := ⟨setup.disk, host.history⟩, sent := host.sent }

/-- What the run acts on when the device has been asked for. -/
def asked (setup : Setup) (surroundings : Surroundings) (host : Host) : Session Bridge.History :=
  let bridge := setup.bridge surroundings
  { site := ⟨setup.disk, bridge.withDevice Bridge.question :: host.history⟩, sent := host.sent }

/-- The run of the script. -/
def run (setup : Setup) (surroundings : Surroundings) (host : Host) :
    Outcome (Session Bridge.History) Bool :=
  (setup.engine surroundings).run setup.prepared.tasks setup.prepared.script (setup.session host)

/-- The device is there. -/
def Lists (setup : Setup) (surroundings : Surroundings) (host : Host) : Prop :=
  (setup.bridge surroundings).Lists host.history

/-- Every task goes well, one after the other, and the summary does not break off. -/
def Completes (setup : Setup) (surroundings : Surroundings) (host : Host) : Prop :=
  ∃ s events, (setup.engine surroundings).Chain setup.prepared.tasks (setup.asked surroundings host) s events ∧
    ((setup.engine surroundings).summarize setup.prepared.script s).result = .ok ()

/-- The pause behind every task can be made. -/
def CanPause (setup : Setup) (surroundings : Surroundings) : Prop :=
  setup.prepared.tasks = [] ∨ (setup.engine surroundings).CanPause

end Setup

/-- All goes well before the device is asked for. -/
structure Ready (words : List Text) (surroundings : Surroundings) (host : Host) (setup : Setup) : Prop where
  /-- the command line is understood -/
  understood : ∃ line, CommandLine.read surroundings.release words = .ok line ∧
    setup.settings = line.override surroundings.settings
  /-- the folder of the workspace is a path -/
  located : ∃ folder, resolve setup.settings.folder host.disk = .ok folder
  /-- the file for messages is opened, the configurations are loaded, and the script compiles -/
  provided : ∃ opened, (openSession (setup.settings.folder.child Workspace.logsFolder)
      surroundings.stamp).Yields host.disk () opened [] ∧
    Provides setup.settings surroundings.digits opened setup.prepared setup.disk
  /-- the question for the device can be handed to the system -/
  askable : (setup.bridge surroundings).isRunnable Bridge.question = true

/-! ## Behind the command line -/

/-- The code that says whether all went well. -/
def code (ok : Bool) : Int := if ok then 0 else 1

/-- Behind the path of the workspace, the script decides what is done and what the code is. -/
theorem start_of_resolve (surroundings : Surroundings) {folder : Path}
    (h : resolve settings.folder host.disk = .ok folder) :
    (start settings surroundings host).result = (runScript settings surroundings host).result.map code ∧
      (start settings surroundings host).trace = (runScript settings surroundings host).trace := by
  have hget : (Routine.get : Routine Host Host).Yields host host host [] := ⟨rfl, rfl, rfl⟩
  have hfolder : (Routine.ofExcept .file (resolve settings.folder host.disk) : Routine Host Path).Yields host
      folder host [] := Routine.yields_ofExcept.2 ⟨h, rfl, rfl⟩
  have hsay : (Routine.say .info ("工作目录: ".toList ++ folder.toText) : Routine Host Unit).Yields host ()
      host [] := ⟨rfl, rfl, rfl⟩
  rw [start, hget.result_bind, hfolder.result_bind, hsay.result_bind, hget.trace_bind, hfolder.trace_bind,
    hsay.trace_bind]
  cases hscript : (runScript settings surroundings host).result with
  | error fault =>
    rw [Routine.bind_of_error hscript]
    exact ⟨rfl, rfl⟩
  | ok ok =>
    rw [Routine.bind_of_ok hscript]
    exact ⟨rfl, List.append_nil _⟩

/-- If the workspace has no path, nothing happens. -/
theorem start_of_not_resolve (surroundings : Surroundings) {error : FileError}
    (h : resolve settings.folder host.disk = .error error) :
    (start settings surroundings host).result = .error (.file error) ∧
      (start settings surroundings host).trace = [] := by
  have hget : (Routine.get : Routine Host Host).Yields host host host [] := ⟨rfl, rfl, rfl⟩
  have hfolder : (Routine.ofExcept .file (resolve settings.folder host.disk) : Routine Host Path) host =
      ⟨.error (.file error), host, [], []⟩ := by
    rw [h]
    rfl
  rw [start, hget.result_bind, hget.trace_bind,
    Routine.bind_of_error (congrArg Outcome.result hfolder), hfolder]
  exact ⟨rfl, rfl⟩

/-- If all goes well before, the script is run. -/
theorem runScript_of_provides (setup : Setup) {opened : Disk}
    (hopen : (openSession (setup.settings.folder.child Workspace.logsFolder) surroundings.stamp).Yields
      host.disk () opened [])
    (h : Provides setup.settings surroundings.digits opened setup.prepared setup.disk) :
    (runScript setup.settings surroundings host).result = (setup.run surroundings host).result ∧
      (runScript setup.settings surroundings host).trace = (setup.run surroundings host).trace := by
  have hopened : (onDisk (openSession (setup.settings.folder.child Workspace.logsFolder)
      surroundings.stamp)).Yields host () { host with disk := opened } [] :=
    Routine.yields_within.2 ⟨opened, hopen, rfl⟩
  have hprepared : (onDisk (prepare setup.settings surroundings.digits)).Yields { host with disk := opened }
      (some setup.prepared) { host with disk := setup.disk } [] :=
    Routine.yields_within.2 ⟨setup.disk, prepare_yields_iff.2 ⟨rfl, h⟩, rfl⟩
  rw [runScript, hopened.result_bind, hopened.trace_bind, hprepared.result_bind, hprepared.trace_bind]
  exact ⟨rfl, rfl⟩

/-- If not all goes well before, nothing happens, and the result is not that all has gone well. -/
theorem runScript_of_not_provides (h : ∀ opened prepared final,
      (openSession (settings.folder.child Workspace.logsFolder) surroundings.stamp).Yields host.disk () opened
        [] → ¬Provides settings surroundings.digits opened prepared final) :
    (runScript settings surroundings host).result ≠ .ok true ∧
      (runScript settings surroundings host).trace = [] := by
  have hopening : (onDisk (openSession (settings.folder.child Workspace.logsFolder)
      surroundings.stamp)).Quiet := Routine.emits_within (quiet_openSession _ _)
  have hpreparing : (onDisk (prepare settings surroundings.digits)).Quiet :=
    Routine.emits_within (quiet_prepare _ _)
  have hnone : ∀ u host₁ prepared host₂, (onDisk (openSession (settings.folder.child Workspace.logsFolder)
      surroundings.stamp)).Yields host u host₁ [] →
      (onDisk (prepare settings surroundings.digits)).Yields host₁ prepared host₂ [] → prepared = none := by
    intro u host₁ prepared host₂ hopen hprepare
    obtain ⟨opened, hopened, rfl⟩ := Routine.yields_within.1 hopen
    obtain ⟨final, hprepared, rfl⟩ := Routine.yields_within.1 hprepare
    cases prepared with
    | none => rfl
    | some prepared => exact absurd (prepare_yields_iff.1 hprepared).2 (h opened prepared final hopened)
  constructor
  · intro hresult
    obtain ⟨u, hopen, hrest, -⟩ := Routine.bind_ok hresult
    obtain ⟨prepared, hprepare, hrun, -⟩ := Routine.bind_ok hrest
    obtain rfl := hnone _ _ _ _ (hopening.yields_nil (Routine.yields_of_result hopen))
      (hpreparing.yields_nil (Routine.yields_of_result hprepare))
    cases hrun
  · refine hopening.trace_bind fun u host₁ hopen => hpreparing.trace_bind fun prepared host₂ hprepare => ?_
    obtain rfl := hnone _ _ _ _ hopen hprepare
    rfl

/-- If all goes well before the device is asked for, the program is the run of the script. -/
theorem of_ready {setup : Setup} (h : Ready words surroundings host setup) :
    returned words surroundings host = ((setup.run surroundings host).result.map code).toOption ∧
      events words surroundings host = (setup.run surroundings host).trace := by
  obtain ⟨line, hread, hsettings⟩ := h.understood
  obtain ⟨folder, hfolder⟩ := h.located
  obtain ⟨opened, hopened, hprovides⟩ := h.provided
  obtain ⟨hresult, htrace⟩ := start_of_resolve surroundings hfolder
  obtain ⟨hresult', htrace'⟩ := runScript_of_provides _ hopened hprovides
  rw [returned, events, launch, hread]
  dsimp only
  rw [← hsettings, hresult, htrace, hresult', htrace']
  exact ⟨rfl, rfl⟩

/-- If the question for the device cannot be handed to the system, the run breaks off there. -/
theorem Setup.run_of_unaskable {setup : Setup}
    (h : (setup.bridge surroundings).isRunnable Bridge.question = false) :
    (setup.run surroundings host).result.toOption = none ∧ (setup.run surroundings host).trace = [] := by
  have hasking : Session.onSite (setup.engine surroundings).device.isConnected (setup.session host) =
      ⟨.error (.unrunnable ((setup.bridge surroundings).fullCommand Bridge.question)), setup.session host, [],
        []⟩ := by
    have hdevice : (setup.engine surroundings).device.isConnected =
        Site.onDevice (setup.bridge surroundings).isConnected := rfl
    rw [hdevice, Bridge.isConnected_of_unrunnable h]
    rfl
  rw [Setup.run, Engine.run, Routine.bind_of_error (congrArg Outcome.result hasking), hasking]
  exact ⟨rfl, rfl⟩

/-- If not all goes well before the device is asked for, the script does nothing, and does not end well. -/
theorem runScript_of_not_ready {line : CommandLine} {folder : Path}
    (hread : CommandLine.read surroundings.release words = .ok line)
    (hsettings : settings = line.override surroundings.settings)
    (hfolder : resolve settings.folder host.disk = .ok folder)
    (h : ∀ setup, ¬Ready words surroundings host setup) :
    (runScript settings surroundings host).result ≠ .ok true ∧
      (runScript settings surroundings host).trace = [] := by
  by_cases hprovided : ∃ opened prepared final,
      (openSession (settings.folder.child Workspace.logsFolder) surroundings.stamp).Yields host.disk () opened
        [] ∧ Provides settings surroundings.digits opened prepared final
  · obtain ⟨opened, prepared, final, hopened, hprovides⟩ := hprovided
    let setup : Setup := ⟨settings, prepared, final⟩
    obtain ⟨hresult, htrace⟩ := runScript_of_provides setup hopened hprovides
    have hunaskable : (setup.bridge surroundings).isRunnable Bridge.question = false := by
      refine Bool.eq_false_iff.2 fun haskable => h setup ?_
      exact ⟨⟨line, hread, hsettings⟩, ⟨folder, hfolder⟩, ⟨opened, hopened, hprovides⟩, haskable⟩
    obtain ⟨hnone, hquiet⟩ : (setup.run surroundings host).result.toOption = none ∧
        (setup.run surroundings host).trace = [] := Setup.run_of_unaskable hunaskable
    refine ⟨fun hwell => ?_, htrace.trans hquiet⟩
    rw [← hresult, hwell] at hnone
    cases hnone
  · exact runScript_of_not_provides fun opened prepared final hopened hprovides =>
      hprovided ⟨opened, prepared, final, hopened, hprovides⟩

/-- If not all goes well before the device is asked for, nothing happens, and the code is not zero. -/
theorem of_not_ready (h : ∀ setup, ¬Ready words surroundings host setup) :
    (returned words surroundings host = none ∨ returned words surroundings host = some 1) ∧
      events words surroundings host = [] := by
  rw [returned, events, launch]
  cases hread : CommandLine.read surroundings.release words with
  | error exit => exact ⟨.inl rfl, rfl⟩
  | ok line =>
    dsimp only
    cases hfolder : resolve (line.override surroundings.settings).folder host.disk with
    | error error =>
      obtain ⟨hresult, htrace⟩ := start_of_not_resolve surroundings hfolder
      rw [hresult]
      exact ⟨.inl rfl, htrace⟩
    | ok folder =>
      obtain ⟨hresult, htrace⟩ := start_of_resolve surroundings hfolder
      obtain ⟨hresult', htrace'⟩ := runScript_of_not_ready hread rfl hfolder h
      rw [hresult]
      refine ⟨?_, htrace.trans htrace'⟩
      cases hscript : (runScript (line.override surroundings.settings) surroundings host).result with
      | error fault => exact .inl rfl
      | ok ok =>
        cases ok with
        | true => exact absurd hscript hresult'
        | false => exact .inr rfl

/-! ## The run -/

/-- What the run does at first: it asks for the device. -/
theorem Setup.asks {setup : Setup} (h : (setup.bridge surroundings).isRunnable Bridge.question = true)
    (host : Host) :
    ∃ ok later, (setup.engine surroundings).device.isConnected.Yields (setup.session host).site ok
        (setup.asked surroundings host).site ((setup.bridge surroundings).query :: later) ∧
      (ok = true ↔ setup.Lists surroundings host) ∧ (later = [] ∨ ok = false ∧ later = [.stopped]) := by
  obtain ⟨ok, later, hyields, hanswer⟩ := Bridge.isConnected_asks h host.history
  have hasking : (setup.engine surroundings).device.isConnected.Yields (setup.session host).site ok
      (setup.asked surroundings host).site ((setup.bridge surroundings).query :: later) :=
    Routine.yields_within.2 ⟨_, hyields, rfl⟩
  exact ⟨ok, later, hasking, hanswer⟩

/-- Nothing else happens if the device is not there. -/
theorem Setup.run_of_not_lists {setup : Setup}
    (haskable : (setup.bridge surroundings).isRunnable Bridge.question = true)
    (h : ¬setup.Lists surroundings host) :
    (setup.run surroundings host).result = .ok false ∧ ∃ later,
      (setup.run surroundings host).trace = (setup.bridge surroundings).query :: later ∧
        (later = [] ∨ later = [.stopped]) := by
  obtain ⟨ok, later, hasking, hlists, hlater⟩ := Setup.asks haskable host
  obtain rfl : ok = false := Bool.eq_false_iff.2 fun hok => h (hlists.1 hok)
  have hrun : ((setup.engine surroundings).run setup.prepared.tasks setup.prepared.script).Yields
      (setup.session host) false (setup.asked surroundings host)
      ((setup.bridge surroundings).query :: later) := Engine.run_absent hasking
  exact ⟨hrun.result, later, hrun.trace, hlater.imp_right And.right⟩

/-- If the device is there, the work of the run follows. -/
theorem Setup.run_of_lists {setup : Setup}
    (haskable : (setup.bridge surroundings).isRunnable Bridge.question = true)
    (h : setup.Lists surroundings host) :
    (setup.run surroundings host).result = ((setup.engine surroundings).work setup.prepared.tasks
        setup.prepared.script (setup.asked surroundings host)).result ∧
      (setup.run surroundings host).trace = (setup.bridge surroundings).query ::
        ((setup.engine surroundings).work setup.prepared.tasks setup.prepared.script
          (setup.asked surroundings host)).trace := by
  obtain ⟨ok, later, hasking, hlists, hlater⟩ := Setup.asks haskable host
  obtain rfl : ok = true := hlists.2 h
  obtain rfl : later = [] := hlater.resolve_right fun hstopped => Bool.noConfusion hstopped.1
  exact Engine.run_present hasking

/-- The run goes well if the device is there, every task goes well and has a pause behind it that can be
made, and the summary does not break off. -/
theorem Ready.run_well_iff {setup : Setup} (h : Ready words surroundings host setup) :
    (setup.run surroundings host).result = .ok true ↔ setup.Lists surroundings host ∧
      setup.Completes surroundings host ∧ setup.CanPause surroundings := by
  by_cases hlists : setup.Lists surroundings host
  · obtain ⟨opened, -, hprovides⟩ := h.provided
    rw [(Setup.run_of_lists h.askable hlists).1, Engine.work_well_iff]
    constructor
    · rintro ⟨s, events, hchain, -, hpause, hsummary⟩
      exact ⟨hlists, ⟨s, events, hchain, hsummary⟩, hpause⟩
    · rintro ⟨-, ⟨s, events, hchain, hsummary⟩, hpause⟩
      exact ⟨s, events, hchain, hprovides.announced, hpause, hsummary⟩
  · rw [(Setup.run_of_not_lists h.askable hlists).1]
    exact ⟨nofun, fun hwell => absurd hwell.1 hlists⟩

/-- The code is zero just if the run goes well. -/
theorem Ready.returned_eq_zero_iff {setup : Setup} (h : Ready words surroundings host setup) :
    returned words surroundings host = some 0 ↔ setup.Lists surroundings host ∧
      setup.Completes surroundings host ∧ setup.CanPause surroundings := by
  rw [(of_ready h).1, ← h.run_well_iff]
  cases (setup.run surroundings host).result with
  | error fault => exact ⟨nofun, nofun⟩
  | ok ok =>
    cases ok with
    | true => exact ⟨fun _ => rfl, fun _ => rfl⟩
    | false => exact ⟨fun hcode => absurd (Option.some.inj hcode) (by decide), nofun⟩

theorem Ready.returned_cases {setup : Setup} (h : Ready words surroundings host setup) :
    returned words surroundings host = none ∨ returned words surroundings host = some 0 ∨
      returned words surroundings host = some 1 := by
  rw [(of_ready h).1]
  cases (setup.run surroundings host).result with
  | error fault => exact .inl rfl
  | ok ok =>
    cases ok with
    | true => exact .inr (.inl rfl)
    | false => exact .inr (.inr rfl)

/-- What happens once the device has been asked for. If it is not there, nothing but that the command may be
stopped. If it is there, the first tasks are carried out, all but the last of these go well, and behind all
tasks the run may be summed up. -/
def Setup.Follows (setup : Setup) (surroundings : Surroundings) (host : Host) (later : List Event) : Prop :=
  (¬setup.Lists surroundings host ∧ (later = [] ∨ later = [.stopped])) ∨
    (setup.Lists surroundings host ∧ ∃ executed acting last, executed <+: setup.prepared.tasks ∧
      (setup.engine surroundings).Tried executed (setup.asked surroundings host) acting ∧
      later = acting ++ last ∧
      (last = [] ∨ executed = setup.prepared.tasks ∧ ∃ context,
        last = (setup.engine surroundings).service.exchange (.summary setup.prepared.script context)))

theorem Ready.events_eq {setup : Setup} (h : Ready words surroundings host setup) :
    ∃ later, events words surroundings host = (setup.bridge surroundings).query :: later ∧
      setup.Follows surroundings host later := by
  rw [(of_ready h).2]
  by_cases hlists : setup.Lists surroundings host
  · obtain ⟨executed, acting, last, hprefix, htried, htrace, hlast⟩ :=
      Engine.work_tries (setup.engine surroundings) setup.prepared.tasks setup.prepared.script
        (setup.asked surroundings host)
    exact ⟨_, (Setup.run_of_lists h.askable hlists).2,
      .inr ⟨hlists, executed, acting, last, hprefix, htried, htrace, hlast⟩⟩
  · obtain ⟨-, later, htrace, hlater⟩ := Setup.run_of_not_lists h.askable hlists
    exact ⟨later, htrace, .inl ⟨hlists, hlater⟩⟩

/-- **The order of a whole run.** If not all goes well before the device is asked for, nothing happens
outside. Otherwise the first thing that happens is that the device is asked for, and only if it is there,
the first tasks of the script are carried out. The code is zero just if all of this goes well, with every
task, every pause behind a task, and the summary; every other code is one. -/
theorem launch_keeps_order (words : List Text) (surroundings : Surroundings) (host : Host) :
    (((∀ setup, ¬Ready words surroundings host setup) ∧ events words surroundings host = []) ∨
      ∃ setup later, Ready words surroundings host setup ∧
        events words surroundings host = (setup.bridge surroundings).query :: later ∧
        setup.Follows surroundings host later) ∧
    (returned words surroundings host = some 0 ↔ ∃ setup, Ready words surroundings host setup ∧
      setup.Lists surroundings host ∧ setup.Completes surroundings host ∧ setup.CanPause surroundings) ∧
    (returned words surroundings host = none ∨ returned words surroundings host = some 0 ∨
      returned words surroundings host = some 1) := by
  by_cases hready : ∃ setup, Ready words surroundings host setup
  · obtain ⟨setup, hready⟩ := hready
    obtain ⟨later, hevents, hfollows⟩ := hready.events_eq
    refine ⟨.inr ⟨setup, later, hready, hevents, hfollows⟩, ⟨fun hzero => ?_, ?_⟩, hready.returned_cases⟩
    · exact ⟨setup, hready, hready.returned_eq_zero_iff.1 hzero⟩
    · rintro ⟨setup', hready', hwell⟩
      exact hready'.returned_eq_zero_iff.2 hwell
  · have hunready := not_exists.1 hready
    obtain ⟨hreturned, hevents⟩ := of_not_ready hunready
    refine ⟨.inl ⟨hunready, hevents⟩, ⟨fun hzero => ?_, ?_⟩, hreturned.imp_right .inr⟩
    · rw [hzero] at hreturned
      rcases hreturned with hnone | hone
      · cases hnone
      · exact absurd (Option.some.inj hone) (by decide)
    · rintro ⟨setup, hsetup, -⟩
      exact absurd hsetup (hunready setup)

/-! ## A script that goes home -/

/-- Surroundings with a device that takes every command, and a service that cannot be reached. -/
def attached : Surroundings where
  settings := {}
  replies
    | _, [_] => .ended 0 (.octets (Utf8.encode "emulator-5554\tdevice\n".toList))
    | _, _ => .ended 0 (.octets [])
  deliveries _ := .failed []
  digits _ := Fin.last 9
  stamp := { name := "0".toList }

/-- A workspace with a script that goes home and with pauses of a one with some zeros. -/
def homeward (zeros : Nat) : Host where
  disk :=
    { nodes :=
        [(["dist".toList], .folder), (["config".toList, "dist".toList], .folder),
          (["script.txt".toList, "dist".toList], .file (.octets (Utf8.encode "home\n".toList))),
          (["intervals.json".toList, "config".toList, "dist".toList], .file (.octets (Utf8.encode
            ("\x7b\"default_action_delay\": 1".toList ++ List.replicate zeros '0' ++ "\x7d".toList))))] }

/-- The files when the file for messages is opened. -/
def homewardOpened (zeros : Nat) : Disk :=
  (openSession (attached.settings.folder.child Workspace.logsFolder) attached.stamp (homeward zeros).disk).state

/-- What is there when the device is asked for. -/
def homewardSetup (zeros : Nat) : Setup where
  settings := attached.settings
  prepared :=
    { credentials := {}
      intervals := { actionDelay := 10 ^ zeros }
      tasks := [.home]
      script := "home\n".toList }
  disk := (prepare attached.settings attached.digits (homewardOpened zeros)).state

theorem ready_homeward {zeros : Nat}
    (hopen : (openSession (attached.settings.folder.child Workspace.logsFolder) attached.stamp
      (homeward zeros).disk).result.toOption = some ())
    (hprepare : (prepare attached.settings attached.digits (homewardOpened zeros)).result.toOption =
      some (some (homewardSetup zeros).prepared)) :
    Ready [] attached (homeward zeros) (homewardSetup zeros) := by
  have hopened := (quiet_openSession _ _).yields_nil
    (Routine.yields_of_result (Routine.result_of_toOption hopen))
  obtain ⟨-, hprovides⟩ := prepare_yields_iff.1
    (Routine.yields_of_result (Routine.result_of_toOption hprepare))
  refine ⟨⟨{}, rfl, rfl⟩, ⟨_, rfl⟩, ⟨homewardOpened zeros, hopened, ?_⟩, rfl⟩
  dsimp only [homewardSetup] at hprovides ⊢
  exact hprovides

theorem lists_homeward (zeros : Nat) : (homewardSetup zeros).Lists attached (homeward zeros) := by
  have hreply : ((homewardSetup zeros).bridge attached).replies (homeward zeros).history
      (((homewardSetup zeros).bridge attached).withDevice Bridge.question) =
        .ended 0 (.octets (Utf8.encode "emulator-5554\tdevice\n".toList)) := rfl
  exact ⟨_, hreply, by decide +kernel, "emulator-5554\tdevice".toList, by decide +kernel,
    "emulator-5554".toList, [], by decide +kernel, nofun⟩

theorem completes_homeward {zeros : Nat}
    (hhome : (((homewardSetup zeros).engine attached).execute .home
      ((homewardSetup zeros).asked attached (homeward zeros))).result.toOption = some true)
    (hsummary : (((homewardSetup zeros).engine attached).summarize "home\n".toList
      (((homewardSetup zeros).engine attached).execute .home
        ((homewardSetup zeros).asked attached (homeward zeros))).state).result.toOption = some ()) :
    (homewardSetup zeros).Completes attached (homeward zeros) :=
  ⟨_, _, .cons (Routine.yields_of_result (Routine.result_of_toOption hhome)) (.nil _),
    Routine.result_of_toOption hsummary⟩

/-- A script that goes home ends with code zero. -/
theorem launch_keeps_order_of_home : returned [] attached (homeward 3) = some 0 := by
  refine (launch_keeps_order [] attached (homeward 3)).2.1.2 ⟨homewardSetup 3, ?_, lists_homeward 3, ?_, ?_⟩
  · exact ready_homeward (by decide +kernel) (by decide +kernel)
  · exact completes_homeward (by decide +kernel) (by decide +kernel)
  · exact .inr ⟨_, rfl⟩

/-- That every task goes well is not enough: the pause behind it may be too long to be made. -/
theorem pause_may_break_launch :
    ¬∀ (words : List Text) (surroundings : Surroundings) (host : Host),
      returned words surroundings host = some 0 ↔ ∃ setup, Ready words surroundings host setup ∧
        setup.Lists surroundings host ∧ setup.Completes surroundings host := by
  intro h
  have hzero : returned [] attached (homeward 309) = some 0 := by
    refine (h [] attached (homeward 309)).2 ⟨homewardSetup 309, ?_, lists_homeward 309, ?_⟩
    · exact ready_homeward (by decide +kernel) (by decide +kernel)
    · exact completes_homeward (by decide +kernel) (by decide +kernel)
  have hnone : returned [] attached (homeward 309) = none := by decide +kernel
  rw [hnone] at hzero
  cases hzero

end ScreenScript.Launch
