import ScreenScript.Device.Rehearsed
import ScreenScript.Proofs.Device.Capture
import ScreenScript.Proofs.Run.Gestures

/-!
# Devices that do not use the network

Requests to the vision service are not the business of a device. A device behind the bridge sends none, nor
does a rehearsed one, so carrying out actions sends none either.

* `requestsOf` — the requests among events
* `Device.Offline` — nothing that a device is asked for sends a request
* `Bridge.offline_device`, `Rehearsal.offline_device` — the devices there are do not
* `Interpreter.Acting.requestsOf_eq_nil` — carrying out actions does not
-/

namespace ScreenScript

/-! ## Requests -/

/-- The request that an event sends. -/
def Event.request? : Event → Option VisionRequest
  | .posted _ _ _ request => some request
  | _ => none

/-- The requests that events send, in order. -/
def requestsOf (events : List Event) : List VisionRequest := events.filterMap Event.request?

@[simp] theorem requestsOf_nil : requestsOf [] = [] := rfl

@[simp] theorem requestsOf_append (xs ys : List Event) :
    requestsOf (xs ++ ys) = requestsOf xs ++ requestsOf ys :=
  List.filterMap_append

@[simp] theorem requestsOf_pauseEvents (milliseconds : Scalar) :
    requestsOf (Routine.pauseEvents milliseconds) = [] := by
  rw [Routine.pauseEvents]
  split <;> rfl

namespace Routine

variable {σ α : Type} {m : Routine σ α} {s s' : σ} {a : α} {events : List Event}

/-- Nothing that the routine does is a request. -/
abbrev Offline (m : Routine σ α) : Prop := m.Emits fun event => event.request? = none

theorem Offline.requestsOf_trace (h : m.Offline) (s : σ) : requestsOf (m s).trace = [] :=
  List.filterMap_eq_nil_iff.2 (h s)

theorem Offline.requestsOf_eq_nil (h : m.Offline) (hyields : m.Yields s a s' events) :
    requestsOf events = [] := by
  rw [← hyields.trace]
  exact h.requestsOf_trace s

theorem offline_emit {event : Event} (h : event.request? = none) :
    (emit event : Routine σ Unit).Offline := by
  intro s other hother
  rw [List.mem_singleton.1 hother]
  exact h

theorem offline_pause (milliseconds : Scalar) : (pause milliseconds : Routine σ Unit).Offline := by
  rw [pause]
  split
  · exact silent_fail.emits
  · exact silent_pure.emits
  · exact offline_emit rfl

end Routine

/-! ## Devices -/

/-- Nothing that the device is asked for sends a request. -/
structure Device.Offline {δ : Type} (device : Device δ) : Prop where
  isConnected : device.isConnected.Offline
  install : device.install.Offline
  uninstall : ∀ package, (device.uninstall package).Offline
  clearData : ∀ package, (device.clearData package).Offline
  openApp : ∀ package, (device.openApp package).Offline
  tap : ∀ x y, (device.tap x y).Offline
  swipe : ∀ x₁ y₁ x₂ y₂, (device.swipe x₁ y₁ x₂ y₂).Offline
  type : ∀ text, (device.type text).Offline
  back : device.back.Offline
  home : device.home.Offline
  recent : device.recent.Offline
  screenshot : ∀ step, (device.screenshot step).Offline

namespace Bridge

variable (bridge : Bridge)

theorem offline_execute (command : BridgeCommand) : (bridge.execute command).Offline := by
  cases hrunnable : bridge.isRunnable command with
  | false =>
    rw [execute_of_unrunnable hrunnable]
    exact Routine.silent_fail.emits
  | true =>
    intro history event hevent
    rw [execute_apply hrunnable] at hevent
    split at hevent <;> simp only [List.mem_cons, List.not_mem_nil, or_false] at hevent
    · rw [hevent]; rfl
    · rcases hevent with rfl | rfl <;> rfl
    · rw [hevent]; rfl

theorem offline_run (command : BridgeCommand) : (bridge.run command).Offline := by
  refine Routine.emits_bind (Routine.emits_attempt (bridge.offline_execute command)) fun reply => ?_
  rcases reply with fault | ⟨code, raw⟩
  · exact Routine.emits_bind Routine.silent_say.emits fun _ => Routine.silent_pure.emits
  · dsimp only
    split
    · exact Routine.emits_bind Routine.silent_say.emits fun _ => Routine.silent_pure.emits
    · exact Routine.silent_pure.emits

theorem offline_succeeds (command : BridgeCommand) : (bridge.succeeds command).Offline :=
  Routine.emits_bind (bridge.offline_run command) fun _ => Routine.silent_pure.emits

/-- A message, and a command behind it. -/
theorem offline_say_succeeds (level : Level) (message : Text) (command : BridgeCommand) :
    (do Routine.say level message; bridge.succeeds command).Offline :=
  Routine.emits_bind Routine.silent_say.emits fun _ => bridge.offline_succeeds command

theorem offline_typeEach (t : Text) : (bridge.typeEach t).Offline := by
  induction t with
  | nil => exact Routine.silent_pure.emits
  | cons c rest ih =>
    refine Routine.emits_bind (bridge.offline_succeeds _) fun typed => ?_
    split
    · exact Routine.emits_bind (Routine.offline_pause _) fun _ => ih
    · exact Routine.silent_pure.emits

theorem offline_install : bridge.install.Offline := by
  refine Routine.emits_bind Routine.silent_get.emits fun site => ?_
  split
  · exact Routine.emits_bind Routine.silent_say.emits fun _ => Routine.silent_pure.emits
  · refine Routine.emits_bind Routine.silent_say.emits fun _ => ?_
    exact Routine.emits_within (bridge.offline_succeeds _)

theorem quiet_prepare (imaging : Imaging) (intervals : Intervals) (path : Path) :
    (prepare imaging intervals path).Quiet := by
  refine Routine.emits_bind (Picture.quiet_scaleFile imaging path path _) fun factor => ?_
  split
  · exact Routine.emits_bind (Picture.quiet_coverFile imaging path _) fun _ => Routine.silent_pure.emits
  · exact Routine.silent_pure.emits

theorem offline_screenshot (step : Step) : (bridge.screenshot step).Offline := by
  refine Routine.emits_bind (Routine.emits_within (Disk.quiet_ensureFolder _).emits) fun _ => ?_
  refine Routine.emits_bind Routine.silent_say.emits fun _ => ?_
  refine Routine.emits_bind
    (Routine.emits_attempt (Routine.emits_within (bridge.offline_execute _))) fun reply => ?_
  rcases reply with fault | ⟨code, data⟩
  · exact Routine.emits_bind Routine.silent_say.emits fun _ => Routine.silent_pure.emits
  dsimp only
  split
  · exact Routine.emits_bind Routine.silent_say.emits fun _ => Routine.silent_pure.emits
  refine Routine.emits_bind (Routine.emits_within (Disk.quiet_writeContent _ data).emits) fun _ => ?_
  refine Routine.emits_bind
    (Routine.emits_attempt (Routine.emits_within (quiet_prepare _ _ _).emits)) fun factor => ?_
  cases factor <;> exact Routine.emits_bind Routine.silent_say.emits fun _ => Routine.silent_pure.emits

/-- The bridge uses no network, whatever it is asked for and whatever it replies. -/
theorem offline_device : bridge.device.Offline where
  isConnected := Routine.emits_within
    (Routine.emits_bind (bridge.offline_run _) fun _ => Routine.silent_pure.emits)
  install := bridge.offline_install
  uninstall _ := Routine.emits_within <| Routine.emits_bind Routine.silent_say.emits fun _ =>
    Routine.emits_bind (bridge.offline_succeeds _) fun _ => Routine.silent_pure.emits
  clearData _ := Routine.emits_within (bridge.offline_say_succeeds _ _ _)
  openApp _ := Routine.emits_within (bridge.offline_say_succeeds _ _ _)
  tap _ _ := Routine.emits_within (bridge.offline_say_succeeds _ _ _)
  swipe _ _ _ _ := Routine.emits_within (bridge.offline_say_succeeds _ _ _)
  type _ := Routine.emits_within
    (Routine.emits_bind Routine.silent_say.emits fun _ => bridge.offline_typeEach _)
  back := Routine.emits_within (bridge.offline_succeeds _)
  home := Routine.emits_within (bridge.offline_succeeds _)
  recent := Routine.emits_within (bridge.offline_succeeds _)
  screenshot step := bridge.offline_screenshot step

end Bridge

namespace Rehearsal

theorem offline_call (answers : Answers) (c : DeviceCall) : (call answers c).Offline := by
  refine Routine.emits_within (Routine.emits_bind (Routine.offline_emit rfl) fun _ => ?_)
  refine Routine.emits_bind Routine.silent_get.emits fun history => ?_
  exact Routine.emits_bind Routine.emits_set fun _ => Routine.silent_pure.emits

/-- A device that only records and answers calls uses no network. -/
theorem offline_device (answers : Answers) : (device answers).Offline where
  isConnected := offline_call answers _
  install := offline_call answers _
  uninstall _ := offline_call answers _
  clearData _ := offline_call answers _
  openApp _ := offline_call answers _
  tap _ _ := offline_call answers _
  swipe _ _ _ _ := offline_call answers _
  type _ := offline_call answers _
  back := offline_call answers _
  home := offline_call answers _
  recent := offline_call answers _
  screenshot step := by
    refine Routine.emits_bind (Routine.offline_emit rfl) fun _ => ?_
    refine Routine.emits_bind Routine.silent_get.emits fun site => ?_
    split <;> exact Routine.emits_bind Routine.emits_set fun _ => Routine.silent_pure.emits

end Rehearsal

/-! ## Actions -/

namespace Interpreter

variable {δ : Type} {interpreter : Interpreter δ} {site site' : Site δ} {events : List Event}

theorem Performing.requestsOf_eq_nil {action : Text} {error : Option SoftError}
    (hoffline : interpreter.device.Offline)
    (h : interpreter.Performing action site error site' events) : requestsOf events = [] := by
  cases h with
  | @key press ok site' events hkey hpress =>
    have hpressed : press.Offline := by
      unfold key? at hkey
      split at hkey
      · exact Option.some.inj hkey ▸ hoffline.home
      · exact Option.some.inj hkey ▸ hoffline.back
      · exact Option.some.inj hkey ▸ hoffline.recent
      · cases hkey
    exact hpressed.requestsOf_eq_nil hpress
  | tap _ _ _ htap => exact (hoffline.tap _ _).requestsOf_eq_nil htap
  | swipe _ _ _ _ _ hswipe => exact (hoffline.swipe _ _ _ _).requestsOf_eq_nil hswipe
  | input _ _ _ _ _ _ htap htype =>
    simp [(hoffline.tap _ _).requestsOf_eq_nil htap, (hoffline.type _).requestsOf_eq_nil htype]
  | nothing _ => rfl

/-- Carrying out actions sends no request. -/
theorem Acting.requestsOf_eq_nil {actions : List Text} {errors : List SoftError}
    (hoffline : interpreter.device.Offline) (h : interpreter.Acting actions site errors site' events) :
    requestsOf events = [] := by
  induction h with
  | nil site => rfl
  | cons hfirst _ ih => simp [hfirst.requestsOf_eq_nil hoffline, ih]

end Interpreter

end ScreenScript
