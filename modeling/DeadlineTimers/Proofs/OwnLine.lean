import DeadlineTimers.Proofs.Bookkeeping

/-!
# A device and the interrupt controller

The devices of a board share the interrupt controller. No operation on a device asks the controller
anything, so what it answers and what becomes of the device and its hardware timer is the same whatever
lines are pending or enabled; and the only marks that it changes are those of the device's own line.
-/

namespace DeadlineTimers

namespace Simulated.Nvic

variable (nvic : Nvic) (line : IrqLine) (change next : LineState → LineState)

@[simp] theorem modifyMarks_id : nvic.modifyMarks line id = nvic :=
  congrArg Nvic.mk (Vector.set_getElem_self _)

@[simp] theorem modifyMarks_modifyMarks :
    (nvic.modifyMarks line change).modifyMarks line next = nvic.modifyMarks line (next ∘ change) := by
  have marks : (nvic.modifyMarks line change).marks line = change (nvic.marks line) := by
    rw [marks_modifyMarks, if_pos rfl]
  rw [modifyMarks, marks]
  simp [modifyMarks]

/-- On a line that exists, installing and enabling change the marks of that line. -/
theorem install_enable {line : IrqLine} (inside : line < lineCount) (nvic : Nvic)
    (priority : UInt8) (id : DeviceId) :
    ∃ installed, InterruptController.install nvic line priority id = some installed ∧
      InterruptController.enable installed line = some (nvic.modifyMarks line fun state =>
        { state with enabled := true, priority, route := some id }) := by
  have here : slot line = ⟨line, inside⟩ := Fin.ext (Nat.mod_eq_of_lt inside)
  let routed : LineState → LineState := fun state => { state with priority, route := some id }
  have install : InterruptController.install nvic line priority id =
      some (nvic.modifyMarks line routed) := by
    simp only [InterruptController.install, dif_pos inside, modifyMarks, marks, here]
    rfl
  refine ⟨_, install, ?_⟩
  change some ((nvic.modifyMarks line routed).modifyMarks line _) = _
  rw [modifyMarks_modifyMarks]
  rfl

end Simulated.Nvic

namespace Port

open Simulated

/-- From any controller the operation leaves the same device and the same timer, and does nothing to the
controller but change the marks of one line. -/
def OwnMarks (line : IrqLine) (port : SimPort) (operation : SimPort → SimPort) : Prop :=
  ∃ change, ∀ controller, operation { port with controller } =
    ⟨(operation port).device, (operation port).timer, controller.modifyMarks line change⟩

variable {line : IrqLine} {port : SimPort} {operation next : SimPort → SimPort}

namespace OwnMarks

/-- Operations that do not look at the controller at all. -/
theorem of_blind (blind : ∀ controller, operation { port with controller } =
    ⟨(operation port).device, (operation port).timer, controller⟩) :
    OwnMarks line port operation :=
  ⟨id, fun controller => by rw [blind, Nvic.modifyMarks_id]⟩

theorem congr (own : OwnMarks line port operation)
    (same : ∀ controller, next { port with controller } = operation { port with controller }) :
    OwnMarks line port next := by
  obtain ⟨change, own⟩ := own
  refine ⟨change, fun controller => ?_⟩
  rw [same, own, ← show next port = operation port from same port.controller]

theorem comp (first : OwnMarks line port operation) (second : OwnMarks line (operation port) next) :
    OwnMarks line port fun port => next (operation port) := by
  obtain ⟨change, first⟩ := first
  obtain ⟨change', second⟩ := second
  refine ⟨change' ∘ change, fun controller => ?_⟩
  change next (operation _) = _
  rw [first, second, Nvic.modifyMarks_modifyMarks]

theorem setPending (line : IrqLine) (port : SimPort) :
    OwnMarks line port fun port => port.setPending line :=
  ⟨fun state => { state with pending := true }, fun _ => rfl⟩

end OwnMarks

/-! ## Reading -/

theorem read_fst_withController (port : SimPort) (line : IrqLine) (controller : Nvic) :
    (Port.read { port with controller } line).1 = (port.read line).1 := by
  unfold Port.read
  dsimp only
  split
  · rfl
  · split <;> rfl

theorem ownMarks_read (port : SimPort) (line : IrqLine) :
    OwnMarks line port fun port => (port.read line).2 := by
  rcases read_cases port line with ⟨unlatched, taken⟩ | ⟨narrow, latched, folded⟩
  · refine .of_blind fun controller => ?_
    rcases read_cases { port with controller } line with ⟨-, same⟩ | ⟨narrow, latched, -⟩
    · rw [same, taken]
    · cases (unlatched narrow).symm.trans latched
  · refine ⟨fun state => { state with pending := true }, fun controller => ?_⟩
    rcases read_cases { port with controller } line with ⟨unlatched, -⟩ | ⟨-, -, same⟩
    · cases (unlatched narrow).symm.trans latched
    · dsimp only
      rw [same, folded]
      rfl

/-! ## Arming -/

theorem ownMarks_program (port : SimPort) (line : IrqLine) (expiry : Ticks) :
    OwnMarks line port fun port => (port.program line expiry).2 := by
  have write : OwnMarks line port fun port => port.written expiry := .of_blind fun _ => rfl
  have read := write.comp (ownMarks_read (port.written expiry) line)
  have tick (controller : Nvic) : ((written { port with controller } expiry).read line).1 =
      ((port.written expiry).read line).1 :=
    read_fst_withController (port.written expiry) line controller
  by_cases reached : Tick.reached ((port.written expiry).read line).1 expiry
  · refine (read.comp (.setPending line _)).congr fun controller => ?_
    rw [program_eq, tick, if_pos reached]
  · refine read.congr fun controller => ?_
    rw [program_eq, tick, if_neg reached]

theorem ownMarks_arm (port : SimPort) (line : IrqLine) (expiry : Ticks) :
    OwnMarks line port fun port => (port.arm line expiry).2 := by
  have disarmed : OwnMarks line port disarm := .of_blind fun _ => rfl
  by_cases otherEpoch : (port.device.width.isNarrow &&
      (expiry &&& port.device.width.epochMask) != port.device.tally) = true
  · by_cases earlier : Tick.before (expiry &&& port.device.width.epochMask) port.device.tally = true
    · refine (disarmed.comp (.setPending line _)).congr fun controller => ?_
      rw [arm_eq, if_pos otherEpoch, if_pos earlier]
    · refine disarmed.congr fun controller => ?_
      rw [arm_eq, if_pos otherEpoch, if_neg earlier]
  · refine (disarmed.comp (ownMarks_program port.disarm line expiry)).congr fun controller => ?_
    rw [arm_eq, if_neg otherEpoch]

theorem ownMarks_rearm (port : SimPort) :
    OwnMarks port.device.config.line port fun port => port.rearm.2 := by
  cases head : port.device.queue.nextExpiry with
  | none =>
    have disarmed : OwnMarks port.device.config.line port disarm := .of_blind fun _ => rfl
    refine disarmed.congr fun controller => ?_
    simp only [rearm, head]
  | some expiry =>
    refine (ownMarks_arm port port.device.config.line expiry).congr fun controller => ?_
    simp only [rearm, head]

/-! ## The queue -/

theorem ownMarks_enqueued (port : SimPort) (expiry : Ticks) (isHead : Bool)
    (queue : DeadlineQueue queueDepth) :
    OwnMarks port.device.config.line port fun port => port.enqueued expiry isHead queue := by
  have queued : OwnMarks port.device.config.line port (withQueue · queue) := .of_blind fun _ => rfl
  by_cases arms : (isHead && port.device.enabled) = true
  · refine (queued.comp (ownMarks_arm _ port.device.config.line expiry)).congr fun controller => ?_
    simp only [enqueued, arms, ↓reduceIte]
  · refine queued.congr fun controller => ?_
    simp only [enqueued, arms, Bool.false_eq_true, ↓reduceIte]

theorem ownMarks_dequeued (port : SimPort) (timer : TimerId) :
    OwnMarks port.device.config.line port fun port => port.dequeued timer := by
  have removed : OwnMarks port.device.config.line port
      fun port => port.withQueue (port.device.queue.remove timer).2 := .of_blind fun _ => rfl
  by_cases arms : (port.device.queue.isHead timer && port.device.enabled) = true
  · have rearmed := ownMarks_rearm (port.withQueue (port.device.queue.remove timer).2)
    refine (removed.comp rearmed).congr fun controller => ?_
    simp only [dequeued, arms, ↓reduceIte]
  · refine removed.congr fun controller => ?_
    simp only [dequeued, arms, Bool.false_eq_true, ↓reduceIte]

/-! ## The handler -/

theorem consumeOverflow_withController (port : SimPort) (controller : Nvic) :
    (consumeOverflow { port with controller }).2 = { port.consumeOverflow.2 with controller } := by
  unfold consumeOverflow
  dsimp only
  split <;> rfl

theorem ownMarks_acknowledge (port : SimPort) :
    OwnMarks port.device.config.line port fun port => port.acknowledge.2 := by
  let counted (port : SimPort) : SimPort :=
    (port.modifyTimer fun timer =>
      TimerPeripheral.clearEvent timer .interrupt).consumeOverflow.2.modifyDevice fun device =>
        { device with isrs := device.isrs + 1 }
  have counts : OwnMarks port.device.config.line port counted :=
    .of_blind fun controller => by
      have same := consumeOverflow_withController
        (port.modifyTimer fun timer => TimerPeripheral.clearEvent timer .interrupt) controller
      exact congrArg (fun port : SimPort => port.modifyDevice fun device =>
        { device with isrs := device.isrs + 1 }) same
  have acknowledges (port : SimPort) : port.acknowledge.2 =
      if (counted port).device.enabled then counted port else (counted port).disarm := by
    unfold Port.acknowledge
    dsimp only
    split <;> rfl
  obtain ⟨change, counts⟩ := counts
  refine ⟨change, fun controller => ?_⟩
  dsimp only
  rw [acknowledges, acknowledges, counts]
  split <;> rfl

theorem takeDue_fst_withController (port : SimPort) (controller : Nvic) :
    (takeDue { port with controller }).1 = port.takeDue.1 := by
  rw [takeDue_fst, takeDue_fst, read_fst_withController]

theorem ownMarks_takeDue (port : SimPort) :
    OwnMarks port.device.config.line port fun port => port.takeDue.2 := by
  obtain ⟨change, reads⟩ := ownMarks_read port port.device.config.line
  refine ⟨change, fun controller => ?_⟩
  have reads := reads controller
  dsimp only at reads ⊢
  rw [takeDue_snd, takeDue_snd, read_fst_withController, reads]
  rfl

/-! ## Starting -/

/-- What becomes of the marks of a line when a device is started on it. -/
def started (port : SimPort) (id : DeviceId) (state : LineState) : LineState :=
  { state with enabled := true, priority := port.device.config.priority, route := some id }

theorem ownMarks_launched (port : SimPort) (prescaler : Prescaler) (id : DeviceId) :
    OwnMarks port.device.config.line port fun started =>
      (started.launched prescaler (started.controller.modifyMarks port.device.config.line
        (port.started id))).rearm.2 := by
  have launch : OwnMarks port.device.config.line port fun started =>
      started.launched prescaler (started.controller.modifyMarks port.device.config.line
        (port.started id)) := ⟨port.started id, fun _ => rfl⟩
  exact launch.comp (ownMarks_rearm (port.launched prescaler _))

end Port

end DeadlineTimers
