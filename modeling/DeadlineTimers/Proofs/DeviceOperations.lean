import DeadlineTimers.Proofs.TickEvents

/-!
# What the operations on a device change

Equations for arming and reading, and what each operation on a port leaves alone. The marks of the
interrupt controller are only ever set, and as far as the tick goes, every operation is a sequence of
events of the tick.
-/

namespace DeadlineTimers

namespace Simulated.Nvic

/-- Marks of lines are only set, never cleared. -/
def Raises (before after : Nvic) : Prop :=
  ∀ line, (before.isPending line = true → after.isPending line = true) ∧
    (before.isEnabled line = true → after.isEnabled line = true)

variable {nvic after last : Nvic} {line other : IrqLine}

theorem marks_congr (same : slot line = slot other) : nvic.marks line = nvic.marks other := by
  simp [marks, same]

theorem Raises.refl (nvic : Nvic) : nvic.Raises nvic := fun _ => ⟨id, id⟩

theorem Raises.trans (first : nvic.Raises after) (second : after.Raises last) :
    nvic.Raises last := fun line =>
  ⟨(second line).1 ∘ (first line).1, (second line).2 ∘ (first line).2⟩

theorem raises_modifyMarks {change : LineState → LineState}
    (keepsPending : ∀ state, state.pending = true → (change state).pending = true)
    (keepsEnabled : ∀ state, state.enabled = true → (change state).enabled = true) :
    nvic.Raises (nvic.modifyMarks line change) := by
  intro other
  simp only [isPending, isEnabled, marks_modifyMarks]
  split
  · next same =>
    rw [marks_congr same]
    exact ⟨keepsPending _, keepsEnabled _⟩
  · exact ⟨id, id⟩

theorem raises_setPending (nvic : Nvic) (line : IrqLine) : nvic.Raises (nvic.setPending line) :=
  raises_modifyMarks (fun _ _ => rfl) fun _ => id

theorem raises_enable (enable : InterruptController.enable nvic line = some after) :
    nvic.Raises after ∧ after.isEnabled line = true := by
  obtain rfl := Option.some.inj enable
  refine ⟨raises_modifyMarks (fun _ => id) fun _ _ => rfl, ?_⟩
  simp [isEnabled, marks_modifyMarks]

theorem raises_install {priority : UInt8} {id : DeviceId}
    (install : InterruptController.install nvic line priority id = some after) :
    nvic.Raises after := by
  simp only [InterruptController.install, Option.dite_none_right_eq_some, Option.some.injEq]
    at install
  obtain ⟨inside, rfl⟩ := install
  intro other
  by_cases same : line = slot other
  · subst same
    simp [isPending, isEnabled, marks]
  · simp [isPending, isEnabled, marks, Vector.getElem_set_ne, same]

end Simulated.Nvic

namespace Port

open Simulated

variable {port port' : SimPort}

/-! ## Equations -/

/-- The compare written for a deadline, before the tick is read again. -/
def written (port : SimPort) (expiry : Ticks) : SimPort :=
  port.modifyTimer fun timer =>
    timer.modifyChannel .interrupt fun state =>
      { state with
        compare := (expiry &&& port.device.width.counterMask) &&& timer.width.counterMask
        event := false
        interruptEnabled := true }

theorem program_eq (port : SimPort) (line : IrqLine) (expiry : Ticks) :
    port.program line expiry =
      if Tick.reached ((port.written expiry).read line).1 expiry then
        (.missed ((port.written expiry).read line).1,
          ((port.written expiry).read line).2.setPending line)
      else (.armed, ((port.written expiry).read line).2) := rfl

theorem written_compare (port : SimPort) (width : port.timer.width = port.device.width)
    (expiry : Ticks) : (port.written expiry).timer.channels.interrupt.compare =
      expiry &&& port.device.width.counterMask := by
  change (expiry &&& port.device.width.counterMask) &&& port.timer.width.counterMask = _
  rw [width, UInt32.and_assoc, UInt32.and_self]

theorem arm_eq (port : SimPort) (line : IrqLine) (expiry : Ticks) :
    port.arm line expiry =
      if port.device.width.isNarrow &&
          (expiry &&& port.device.width.epochMask) != port.device.tally then
        if Tick.before (expiry &&& port.device.width.epochMask) port.device.tally then
          (.epochPassed, port.disarm.setPending line)
        else (.epochAhead (expiry &&& port.device.width.epochMask), port.disarm)
      else port.disarm.program line expiry := rfl

/-! ## What is left alone -/

theorem read_interrupt (port : SimPort) (line : IrqLine) :
    (port.read line).2.timer.channels.interrupt.compare =
        port.timer.channels.interrupt.compare ∧
      (port.read line).2.timer.channels.interrupt.interruptEnabled =
        port.timer.channels.interrupt.interruptEnabled := by
  have once := fun timer : Timer => And.intro
    (timer.advance_compare timer.autoAdvance .interrupt)
    (timer.advance_interruptEnabled timer.autoAdvance .interrupt)
  rcases read_cases port line with ⟨-, taken⟩ | ⟨-, -, folded⟩
  · rw [taken]
    exact once port.timer
  · rw [folded]
    have first := once port.timer
    have second := once port.timer.captured
    exact ⟨second.1.trans first.1, second.2.trans first.2⟩

/-- Arming leaves the compare interrupt on only with the deadline in the compare register. -/
theorem arm_compare (running : port.Running) (line : IrqLine) (expiry : Ticks)
    (enabled : (port.arm line expiry).2.timer.channels.interrupt.interruptEnabled = true) :
    (port.arm line expiry).2.timer.channels.interrupt.compare =
      expiry &&& port.device.width.counterMask := by
  have written := port.disarm.written_compare running.width expiry
  have kept := (read_interrupt (port.disarm.written expiry) line).1
  rw [arm_eq] at enabled ⊢
  split at enabled
  · split at enabled
    · cases enabled
    · cases enabled
  · next sameEpoch =>
    rw [if_neg sameEpoch, program_eq]
    split
    · exact kept.trans written
    · exact kept.trans written

theorem read_device (port : SimPort) (line : IrqLine) :
    (port.read line).2.device =
      { port.device with tally := (port.read line).2.device.tally } := by
  rcases read_cases port line with ⟨-, taken⟩ | ⟨-, -, folded⟩
  · rw [taken]
  · rw [folded]
    rfl

theorem arm_device (port : SimPort) (line : IrqLine) (expiry : Ticks) :
    (port.arm line expiry).2.device =
      { port.device with tally := (port.arm line expiry).2.device.tally } := by
  have kept := read_device (port.disarm.written expiry) line
  rw [arm_eq]
  split
  · split <;> rfl
  · rw [program_eq]
    split
    · exact kept
    · exact kept

def withQueue (port : SimPort) (queue : DeadlineQueue queueDepth) : SimPort :=
  port.modifyDevice fun device => { device with queue }

/-- A port that was brought up, and whose line has been installed and enabled. -/
def launched (port : SimPort) (prescaler : Prescaler) (controller : Nvic) : SimPort where
  device := { (port.bringUp prescaler).device with enabled := true }
  timer := (port.bringUp prescaler).timer
  controller := controller

/-- Bringing a port up leaves the counter at zero, with its overflows watched if it is narrow. -/
theorem launched_timer (port : SimPort) (prescaler : Prescaler) (controller : Nvic) :
    let timer := (port.launched prescaler controller).timer
    timer.width = port.device.config.width ∧ timer.running = true ∧ timer.counter = 0 ∧
      timer.travelled = 0 ∧
      timer.channels.read = { port.timer.channels.read with missed := 0 } ∧
      timer.channels.overflow.missed = 0 ∧
      (port.device.config.width.isNarrow = true →
        timer.channels.overflow =
          { compare := 0, event := false, interruptEnabled := true, missed := 0 }) := by
  have zero : (0 : UInt32) &&& port.device.config.width.counterMask = 0 := UInt32.zero_and
  cases narrow : port.device.config.width.isNarrow with
  | true =>
    simp only [launched, bringUp, narrow, ↓reduceIte]
    refine ⟨rfl, rfl, rfl, rfl, rfl, rfl, fun _ => ?_⟩
    change ChannelState.mk (0 &&& port.device.config.width.counterMask) _ _ _ = _
    rw [zero]
    rfl
  | false =>
    simp only [launched, bringUp, narrow, Bool.false_eq_true, ↓reduceIte]
    exact ⟨rfl, rfl, rfl, rfl, rfl, rfl, fun h => h.elim⟩

theorem launched_overflow_of_wide (port : SimPort) (prescaler : Prescaler) (controller : Nvic)
    (wide : port.device.config.width.isNarrow = false) :
    (port.launched prescaler controller).timer.channels.overflow =
      { port.timer.channels.overflow with missed := 0 } := by
  simp only [launched, bringUp, wide, Bool.false_eq_true, ↓reduceIte]
  rfl

theorem running_launched (port : SimPort) (prescaler : Prescaler) {controller : Nvic}
    (lineEnabled : controller.isEnabled port.device.config.line = true) :
    Running (port.launched prescaler controller) := by
  obtain ⟨width, counting, zero, -, -, -, watching⟩ := port.launched_timer prescaler controller
  constructor
  · exact width
  · exact counting
  · rw [Timer.InRange, zero]
    exact CounterWidth.states_pos _
  · exact Nat.zero_mod _
  · intro narrow
    rw [watching narrow]
    exact ⟨rfl, rfl⟩
  · exact lineEnabled

/-! ## Marks of lines -/

theorem raises_read (port : SimPort) (line : IrqLine) :
    port.controller.Raises (port.read line).2.controller := by
  rcases read_cases port line with ⟨-, taken⟩ | ⟨-, -, folded⟩
  · rw [taken]
    exact .refl _
  · rw [folded]
    exact Nvic.raises_setPending _ _

theorem raises_arm (port : SimPort) (line : IrqLine) (expiry : Ticks) :
    port.controller.Raises (port.arm line expiry).2.controller := by
  have read := (port.disarm.written expiry).raises_read line
  rw [arm_eq]
  split
  · split
    · exact Nvic.raises_setPending _ _
    · exact .refl _
  · rw [program_eq]
    split
    · exact read.trans (Nvic.raises_setPending _ _)
    · exact read

theorem raises_rearm (port : SimPort) : port.controller.Raises port.rearm.2.controller := by
  unfold Port.rearm
  split
  · exact port.raises_arm _ _
  · exact .refl _

theorem acknowledge_controller (port : SimPort) :
    port.acknowledge.2.controller = port.controller := by
  unfold Port.acknowledge consumeOverflow
  dsimp only
  split
  · split <;> rfl
  · split <;> rfl

/-! ## Operations as events of the tick -/

theorem aside_disarm (port : SimPort) : port.Aside port.disarm :=
  ⟨rfl, rfl, rfl, rfl, rfl, fun _ => id⟩

theorem aside_written (port : SimPort) (expiry : Ticks) : port.Aside (port.written expiry) :=
  ⟨rfl, rfl, rfl, rfl, rfl, fun _ => id⟩

theorem aside_setPending (port : SimPort) (line : IrqLine) : port.Aside (port.setPending line) :=
  ⟨rfl, rfl, rfl, rfl, rfl, fun other => (Nvic.raises_setPending _ line other).2⟩

theorem aside_withQueue (port : SimPort) (queue : DeadlineQueue queueDepth) :
    port.Aside (port.withQueue queue) :=
  ⟨rfl, rfl, rfl, rfl, rfl, fun _ => id⟩

theorem ticks_program (port : SimPort) (line : IrqLine) (expiry : Ticks) :
    TickEvents port (port.program line expiry).2 := by
  have written : TickEvents port (port.written expiry) := .single (.aside (port.aside_written _))
  have read := written.tail (.read _ line)
  rw [program_eq]
  split
  · exact read.tail (.aside (aside_setPending _ line))
  · exact read

theorem ticks_arm (port : SimPort) (line : IrqLine) (expiry : Ticks) :
    TickEvents port (port.arm line expiry).2 := by
  have disarmed : TickEvents port port.disarm := .single (.aside port.aside_disarm)
  rw [arm_eq]
  split
  · split
    · exact disarmed.tail (.aside (aside_setPending _ line))
    · exact disarmed
  · exact disarmed.trans (ticks_program _ line expiry)

theorem ticks_rearm (port : SimPort) : TickEvents port port.rearm.2 := by
  unfold Port.rearm
  split
  · exact ticks_arm port _ _
  · exact .single (.aside port.aside_disarm)

theorem ticks_acknowledge (port : SimPort) : TickEvents port port.acknowledge.2 := by
  let cleared : SimPort := port.modifyTimer fun timer =>
    TimerPeripheral.clearEvent timer .interrupt
  let counted : SimPort := cleared.consumeOverflow.2.modifyDevice fun device =>
    { device with isrs := device.isrs + 1 }
  have clear : TickEvent port cleared := .aside ⟨rfl, rfl, rfl, rfl, rfl, fun _ => id⟩
  have count : TickEvent cleared.consumeOverflow.2 counted :=
    .aside ⟨rfl, rfl, rfl, rfl, rfl, fun _ => id⟩
  have events : TickEvents port counted := ((Relation.ReflTransGen.single clear).tail (.fold _)).tail count
  change TickEvents port (if counted.device.enabled then (true, counted)
    else (false, counted.disarm)).2
  split
  · exact events
  · exact events.tail (.aside counted.aside_disarm)

theorem acknowledge_fst (port : SimPort) : port.acknowledge.1 = port.device.enabled := by
  have kept := enabled_eq_of_ticks (ticks_acknowledge port)
  unfold Port.acknowledge at kept ⊢
  dsimp only at kept ⊢
  split
  · next runs =>
    rw [if_pos runs] at kept
    rw [← kept]
    exact runs.symm
  · next stopped =>
    rw [if_neg stopped] at kept
    rw [← kept]
    exact (Bool.not_eq_true _ ▸ stopped).symm

theorem ticks_takeDue (port : SimPort) : TickEvents port port.takeDue.2 :=
  (Relation.ReflTransGen.single (.read port _)).tail (.aside (aside_withQueue _ _))

end Port

end DeadlineTimers
