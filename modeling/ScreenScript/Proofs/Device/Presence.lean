import ScreenScript.Proofs.Device.Orders

/-!
# Whether a device is there

To find out whether the device is there, one command is run, and nothing else happens but that it is stopped
if it takes too long. The answer is found in its output, if it went well: a line that names the device and
says that it is ready.

* `Bridge.query` — the command that asks for the devices
* `Bridge.Lists` — an answer that lists the device
* `Bridge.isConnected_asks` — asking is running the command, and the answer decides
* `Bridge.isConnected_of_unrunnable` — unless the command cannot be run
-/

namespace ScreenScript.Bridge

variable {bridge : Bridge} {history : History}

/-- The question for the devices. -/
def question : BridgeCommand := ["devices".toList]

/-- The command that asks for the devices. -/
def query (bridge : Bridge) : Event := .ran (bridge.fullCommand question)

/-- What the answer says, as text. -/
def answerText (raw : Content) : Text := (Utf8.decodeDropping raw.toOctets).trim

/-- The question is answered without an error, and a line of the answer has `device` as its second word
and as its first word the serial number, if one is asked for. -/
def Lists (bridge : Bridge) (history : History) : Prop :=
  ∃ raw, bridge.replies history (bridge.withDevice question) = .ended 0 raw ∧
    looksFailed (answerText raw) = false ∧
    ∃ line ∈ (answerText raw).lines, ∃ first rest, line.words = first :: "device".toList :: rest ∧
      ∀ serial, bridge.serial = some serial → first = serial

theorem listsDevice_iff {serial : Option Text} {line : Text} :
    listsDevice serial line = true ↔ ∃ first rest, line.words = first :: "device".toList :: rest ∧
      ∀ t, serial = some t → first = t := by
  rw [listsDevice]
  split
  · next first second rest hwords =>
    rw [hwords, Bool.and_eq_true, decide_eq_true_eq]
    constructor
    · rintro ⟨rfl, hserial⟩
      refine ⟨first, rest, rfl, ?_⟩
      rintro t rfl
      exact of_decide_eq_true hserial
    · rintro ⟨_, _, heq, hserial⟩
      obtain ⟨rfl, hrest⟩ := List.cons.inj heq
      refine ⟨(List.cons.inj hrest).1, ?_⟩
      cases serial with
      | none => rfl
      | some t => exact decide_eq_true (hserial t rfl)
  · next hwords =>
    constructor
    · nofun
    · rintro ⟨first, rest, hfirst, -⟩
      exact absurd hfirst (hwords first _ rest)

/-- The device is not there if the question is not answered. -/
theorem isConnected_of_fault {fault : BridgeFault} {next : History} {asking : List Event} {log : List Entry}
    (h : bridge.execute question history = ⟨.error (.bridge fault), next, asking, log⟩) :
    bridge.isConnected.Yields history false next asking := by
  have hattempt : ((bridge.execute question).attempt ownFault).Yields history (.error fault) next asking :=
    Routine.yields_attempt.2 (.inr ⟨_, _, rfl, congrArg Outcome.result h, rfl, congrArg Outcome.state h,
      congrArg Outcome.trace h⟩)
  have hrun : (bridge.run question).Yields history (false, fault.message) next asking := by
    refine Routine.yields_bind.2 ⟨_, next, asking, [], hattempt, ?_, (List.append_nil _).symm⟩
    exact Routine.yields_bind.2 ⟨(), next, [], [], Routine.yields_say.2 ⟨rfl, rfl⟩,
      Routine.yields_pure.2 ⟨rfl, rfl, rfl⟩, rfl⟩
  exact Routine.yields_bind.2 ⟨_, next, asking, [], hrun, Routine.yields_pure.2 ⟨rfl, rfl, rfl⟩,
    (List.append_nil _).symm⟩

/-- If the question is answered, the device is there just if the answer says so. -/
theorem isConnected_of_answer {code : Int} {raw : Content} {next : History} {asking : List Event}
    {log : List Entry} (h : bridge.execute question history = ⟨.ok (code, raw), next, asking, log⟩) :
    bridge.isConnected.Yields history (decide (code = 0) && !looksFailed (answerText raw) &&
      (answerText raw).lines.any (listsDevice bridge.serial)) next asking := by
  have hattempt : ((bridge.execute question).attempt ownFault).Yields history (.ok (code, raw)) next asking :=
    Routine.yields_attempt.2 (.inl ⟨_, rfl, (Routine.yields_of_apply h).2 ⟨rfl, rfl, rfl⟩⟩)
  have hrun : (bridge.run question).Yields history
      (decide (code = 0) && !looksFailed (answerText raw), answerText raw) next asking := by
    refine Routine.yields_bind.2 ⟨_, next, asking, [], hattempt, ?_, (List.append_nil _).symm⟩
    dsimp only
    split
    · exact Routine.yields_bind.2 ⟨(), next, [], [], Routine.yields_say.2 ⟨rfl, rfl⟩,
        Routine.yields_pure.2 ⟨rfl, rfl, rfl⟩, rfl⟩
    · exact Routine.yields_pure.2 ⟨rfl, rfl, rfl⟩
  exact Routine.yields_bind.2 ⟨_, next, asking, [], hrun, Routine.yields_pure.2 ⟨rfl, rfl, rfl⟩,
    (List.append_nil _).symm⟩

/-- What a reply has to be if it lists the device. -/
theorem lists_iff {reply : BridgeReply} (h : bridge.replies history (bridge.withDevice question) = reply) :
    bridge.Lists history ↔ ∃ raw, reply = .ended 0 raw ∧ looksFailed (answerText raw) = false ∧
      (answerText raw).lines.any (listsDevice bridge.serial) = true := by
  simp only [Lists, h, List.any_eq_true, listsDevice_iff]

/-- To ask whether the device is there is to run one command. The device is there just if the answer lists
it, and the command is stopped if there is no answer. -/
theorem isConnected_asks (hrunnable : bridge.isRunnable question = true) (history : History) :
    ∃ ok later, bridge.isConnected.Yields history ok (bridge.withDevice question :: history)
        (bridge.query :: later) ∧
      (ok = true ↔ bridge.Lists history) ∧ (later = [] ∨ ok = false ∧ later = [.stopped]) := by
  have happly := execute_apply hrunnable history
  cases hreply : bridge.replies history (bridge.withDevice question) with
  | missing =>
    rw [hreply] at happly
    refine ⟨false, [], isConnected_of_fault happly, ?_, .inl rfl⟩
    simp only [lists_iff hreply, reduceCtorEq, false_and, exists_false]
  | silent =>
    rw [hreply] at happly
    refine ⟨false, [.stopped], isConnected_of_fault happly, ?_, .inr ⟨rfl, rfl⟩⟩
    simp only [lists_iff hreply, reduceCtorEq, false_and, exists_false]
  | ended code raw =>
    rw [hreply] at happly
    refine ⟨_, [], isConnected_of_answer happly, ?_, .inl rfl⟩
    rw [lists_iff hreply, Bool.and_eq_true, Bool.and_eq_true, decide_eq_true_eq, Bool.not_eq_true']
    constructor
    · rintro ⟨⟨rfl, hfailed⟩, hline⟩
      exact ⟨raw, rfl, hfailed, hline⟩
    · rintro ⟨raw', heq, hfailed, hline⟩
      obtain ⟨rfl, rfl⟩ := BridgeReply.ended.inj heq
      exact ⟨⟨rfl, hfailed⟩, hline⟩

/-- If the command cannot be run, asking breaks off, and nothing happens. -/
theorem isConnected_of_unrunnable (hunrunnable : bridge.isRunnable question = false) :
    bridge.isConnected = Routine.fail (.unrunnable (bridge.fullCommand question)) := by
  have hrun : bridge.run question = Routine.fail (.unrunnable (bridge.fullCommand question)) := by
    rw [run, execute_of_unrunnable hunrunnable]
    rfl
  rw [isConnected, ← question, hrun, Routine.fail_bind]

end ScreenScript.Bridge
