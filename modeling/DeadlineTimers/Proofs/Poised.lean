import DeadlineTimers.Proofs.ArmOutcome
import DeadlineTimers.Proofs.OnTime

/-!
# Devices between handlers

Where deadlines may lie up to half a turn ahead, the line of a device need not be quiet after its handler
ran, because arming marks it pending for a deadline in the opposite epoch. But whatever the mark, the
compare interrupt is on exactly for a head in the epoch of the tally, no overflow is left to fold, and the
handler changes little beyond that. So the tick, the counter and the queue determine nearly everything
about a device between handlers, no matter how often the handler ran and when.
-/

namespace DeadlineTimers.Port

open Simulated

variable {port port' port'' : SimPort} {expiry : Ticks} {ticks ticks' : Nat}
  {due due' : List QueueEntry}

/-- The compare interrupt is on for a head in the epoch of the tally, and else off. -/
def ArmedForHead (port : SimPort) : Prop :=
  port.timer.channels.interrupt.interruptEnabled = true ↔
    ∃ expiry, port.device.queue.nextExpiry = some expiry ∧
      (port.device.width.isNarrow = true →
        expiry &&& port.device.width.epochMask = port.device.tally)

/-- A device that runs and whose handler does not, with nothing that asserts its line. The line may be
marked pending. -/
structure Poised (port : SimPort) : Prop where
  ready : port.Ready
  settled : port.Settled
  unlatched : port.device.width.isNarrow = true → port.timer.channels.overflow.event = false
  quiet : Quiet port.timer.channels.interrupt
  armed : port.ArmedForHead

/-- The counter has moved by a number of ticks, and no more has changed than what the handler and its
readings change. -/
structure Moved (ticks : Nat) (port port' : SimPort) : Prop where
  device : port'.device = { port.device with
    tally := port'.device.tally, isrs := port'.device.isrs, queue := port'.device.queue }
  timer : port'.timer = { port.timer with
    counter := port'.timer.counter
    channels := port'.timer.channels
    travelled := port.timer.travelled + ticks }
  counter : port'.timer.counter.toNat % port.timer.width.states =
    (port.timer.counter.toNat + ticks) % port.timer.width.states
  compare : port'.timer.channels.overflow.compare = port.timer.channels.overflow.compare
  overflow : port'.timer.channels.overflow.interruptEnabled =
    port.timer.channels.overflow.interruptEnabled
  marks : ∀ line, port'.controller.marks line =
    { port.controller.marks line with pending := port'.controller.isPending line }
  pending : ∀ line, Nvic.slot line ≠ Nvic.slot port.device.config.line →
    port'.controller.isPending line = port.controller.isPending line

/-! ## What the handler changes -/

namespace Moved

theorem refl (port : SimPort) : port.Moved 0 port :=
  ⟨rfl, rfl, rfl, rfl, rfl, fun _ => rfl, fun _ _ => rfl⟩

theorem trans (first : port.Moved ticks port') (second : port'.Moved ticks' port'') :
    port.Moved (ticks + ticks') port'' := by
  have config : port'.device.config = port.device.config := by rw [first.device]
  have width : port'.timer.width = port.timer.width := by rw [first.timer]
  have travelled : port'.timer.travelled = port.timer.travelled + ticks := by rw [first.timer]
  constructor
  · rw [second.device, first.device]
  · rw [second.timer, first.timer, Nat.add_assoc]
  · have counter := first.counter
    have counter' := second.counter
    rw [width] at counter'
    rw [counter', ← Nat.add_assoc, Nat.add_mod, counter, ← Nat.add_mod]
  · rw [second.compare, first.compare]
  · rw [second.overflow, first.overflow]
  · intro line
    rw [second.marks, first.marks]
  · intro line another
    rw [second.pending line (config ▸ another), first.pending line another]

/-- Setting or clearing the pending mark of the line. -/
theorem marked (port : SimPort) (change : LineState → LineState)
    (pending : ∀ state, change state = { state with pending := (change state).pending }) :
    port.Moved 0 { port with
      controller := port.controller.modifyMarks port.device.config.line change } := by
  refine ⟨rfl, rfl, rfl, rfl, rfl, fun line => ?_, fun line another => ?_⟩
  · simp only [Nvic.isPending, Nvic.marks_modifyMarks]
    split
    · next same =>
      rw [Nvic.marks_congr same]
      exact pending _
    · rfl
  · simp only [Nvic.isPending, Nvic.marks_modifyMarks, if_neg another]

theorem setPending (port : SimPort) : port.Moved 0 (port.setPending port.device.config.line) :=
  marked port (fun state => { state with pending := true }) fun _ => rfl

theorem takePending (port : SimPort) : port.Moved 0
    { port with controller := (port.controller.takePending port.device.config.line).2 } :=
  marked port (fun state => { state with pending := false }) fun _ => rfl

theorem disarm (port : SimPort) : port.Moved 0 port.disarm :=
  ⟨rfl, rfl, rfl, rfl, rfl, fun _ => rfl, fun _ _ => rfl⟩

theorem written (port : SimPort) (expiry : Ticks) : port.Moved 0 (port.written expiry) :=
  ⟨rfl, rfl, rfl, rfl, rfl, fun _ => rfl, fun _ _ => rfl⟩

theorem withQueue (port : SimPort) (queue : DeadlineQueue queueDepth) :
    port.Moved 0 (port.withQueue queue) :=
  ⟨rfl, rfl, rfl, rfl, rfl, fun _ => rfl, fun _ _ => rfl⟩

theorem taken (unmoved : port.timer.autoAdvance = 0) : port.Moved 0 port.taken := by
  rw [Port.taken, Timer.captured_of_still unmoved]
  exact ⟨rfl, rfl, rfl, rfl, rfl, fun _ => rfl, fun _ _ => rfl⟩

theorem acknowledged (port : SimPort) : port.Moved 0 port.acknowledged := by
  unfold Port.acknowledged consumeOverflow
  dsimp only
  split
  · exact ⟨rfl, rfl, rfl, rfl, rfl, fun _ => rfl, fun _ _ => rfl⟩
  · exact ⟨rfl, rfl, rfl, rfl, rfl, fun _ => rfl, fun _ _ => rfl⟩

theorem arming {result : ArmReport × SimPort} (unmoved : port.timer.autoAdvance = 0)
    (arming : Arming port port.device.config.line expiry result) : port.Moved 0 result.2 := by
  have writes := ((disarm port).trans (written port.disarm expiry)).trans (taken unmoved)
  cases arming with
  | passed => exact (disarm port).trans (setPending port.disarm)
  | ahead => exact disarm port
  | missed => exact writes.trans (setPending _)
  | armed => exact writes

theorem rearm (still : port.Still) (tallied : port.Tallied) : port.Moved 0 port.rearm.2 := by
  unfold Port.rearm
  split
  · next expiry _ => exact arming still.unmoved (still.arming tallied _ expiry)
  · exact disarm port

theorem handled (ready : port.Ready) : port.Moved 0 port.handled := by
  obtain ⟨still, ticks, -⟩ := drained_acknowledged ready
  have tallied := (ready.running.events ticks).tallied
  have drained : port.Moved 0 port.acknowledged.drained := (acknowledged port).trans
    ((taken (still_acknowledged ready.unmoved).unmoved).trans (withQueue _ _))
  exact drained.trans (rearm still tallied)

/-- A movement of the counter of a running device. -/
theorem advance (running : port.Running) (ticks : UInt32) :
    port.Moved ticks.toNat (port.modifyTimer (·.advance ticks)) := by
  have moves := Timer.advance_of_running running.counting running.inRange ticks
  refine ⟨rfl, ?_, ?_, port.timer.advance_compare ticks .overflow,
    port.timer.advance_interruptEnabled ticks .overflow, fun _ => rfl, fun _ _ => rfl⟩
  · dsimp only [modifyTimer]
    rw [moves]
  · change (port.timer.advance ticks).counter.toNat % _ = _
    rw [Timer.advance_counter_toNat running.counting running.inRange, Nat.mod_mod]

end Moved

/-! ## Devices are poised between handlers -/

theorem Steady.poised (steady : port.Steady) : port.Poised := by
  have unlatched := steady.unlatched
  obtain ⟨ready, settled, inactive⟩ := steady
  refine ⟨ready, settled, unlatched, (lineActive_eq_false_iff.1 inactive).2 .interrupt, ?_⟩
  constructor
  · intro enabled
    cases head : port.device.queue.nextExpiry with
    | none => cases (settled.idle head).symm.trans enabled
    | some expiry =>
      refine ⟨expiry, rfl, fun narrow => ?_⟩
      cases settled.awaits expiry head with
      | active active => cases inactive.symm.trans active
      | wide wide => cases wide.symm.trans narrow
      | armed _ _ _ _ epoch => exact epoch
      | deferred _ _ disabled => cases disabled.symm.trans enabled
  · rintro ⟨expiry, head, current⟩
    cases settled.awaits expiry head with
    | active active => cases inactive.symm.trans active
    | wide _ enabled => exact enabled
    | armed _ _ enabled => exact enabled
    | deferred narrow _ _ later => exact absurd (current narrow) later

/-- What arming for a deadline that is not reached leaves of the timer. -/
theorem Arming.timer_of_ahead {line : IrqLine} {result : ArmReport × SimPort}
    (arming : Arming port line expiry result) (unmoved : port.timer.autoAdvance = 0)
    (ahead : Tick.reached port.tick expiry = false) :
    result.2.timer.counter = port.timer.counter ∧
      result.2.timer.channels.overflow = port.timer.channels.overflow ∧
      Quiet result.2.timer.channels.interrupt ∧
      (result.2.timer.channels.interrupt.interruptEnabled = true ↔
        (port.device.width.isNarrow = true →
          expiry &&& port.device.width.epochMask = port.device.tally)) := by
  cases arming with
  | passed narrow earlier =>
    refine ⟨rfl, rfl, fun _ => rfl, fun enabled => Bool.noConfusion enabled, fun current => ?_⟩
    rw [current narrow, Tick.before, UInt32.sub_self] at earlier
    exact absurd earlier (by decide)
  | ahead narrow different =>
    exact ⟨rfl, rfl, fun _ => rfl, fun enabled => Bool.noConfusion enabled,
      fun current => absurd (current narrow) different⟩
  | missed _ reached => cases ahead.symm.trans reached
  | armed current =>
    obtain ⟨overflow, interrupt, counter⟩ :=
      @captured_channels (port.disarm.written expiry) unmoved
    rw [counter, overflow, interrupt]
    exact ⟨rfl, rfl, fun event => Bool.noConfusion event, fun _ => current, fun _ => rfl⟩

/-- Arming for a head that is not reached. -/
theorem Still.rearm_of_ahead (still : port.Still) (tallied : port.Tallied)
    (ahead : ∀ expiry, port.device.queue.nextExpiry = some expiry →
      Tick.reached port.tick expiry = false) :
    port.rearm.2.device = port.device ∧ port.rearm.2.timer.counter = port.timer.counter ∧
      port.rearm.2.timer.channels.overflow = port.timer.channels.overflow ∧
      Quiet port.rearm.2.timer.channels.interrupt ∧ port.rearm.2.ArmedForHead := by
  cases head : port.device.queue.nextExpiry with
  | none =>
    have disarms : port.rearm.2 = port.disarm := by simp only [Port.rearm, head]
    rw [disarms]
    refine ⟨rfl, rfl, rfl, fun _ => rfl, fun enabled => Bool.noConfusion enabled, ?_⟩
    rintro ⟨expiry, waits, -⟩
    cases head.symm.trans waits
  | some expiry =>
    have arms : port.rearm.2 = (port.arm port.device.config.line expiry).2 := by
      simp only [Port.rearm, head]
    have arming := still.arming tallied port.device.config.line expiry
    have device := arming.device_eq
    obtain ⟨counter, overflow, quiet, enabled⟩ :=
      arming.timer_of_ahead still.unmoved (ahead expiry head)
    rw [arms]
    refine ⟨device, counter, overflow, quiet, ?_⟩
    rw [ArmedForHead, device, enabled, head]
    simp

/-- After a pass of the handler a device is poised. -/
theorem poised_handled (ready : port.Ready) :
    port.handled.Poised ∧ port.handled.tick = port.tick ∧
      port.handled.device.queue = (port.device.queue.drainExpired port.tick).2 := by
  obtain ⟨still, ticks, tick, -, emptied⟩ := drained_acknowledged ready
  have running := ready.running.events ticks
  have ticks' : TickEvents port port.handled := ticks.trans (ticks_rearm _)
  have moved := Moved.handled ready
  obtain ⟨device, counter, overflow, quiet, armed⟩ := still.rearm_of_ahead running.tallied
    fun expiry head => by
      rw [emptied] at head
      rw [tick]
      exact DeadlineQueue.ahead_of_drained head
  have unmoved : port.handled.timer.autoAdvance = 0 := by
    rw [moved.timer]
    exact ready.unmoved
  refine ⟨⟨ready.events ticks' unmoved, settled_rearm running, fun narrow => ?_, quiet, armed⟩,
    ?_, ?_⟩
  · change port.acknowledged.drained.rearm.2.timer.channels.overflow.event = false
    change port.acknowledged.drained.rearm.2.device.width.isNarrow = true at narrow
    rw [device] at narrow
    rw [overflow]
    exact still.folded narrow
  · change port.acknowledged.drained.rearm.2.tick = port.tick
    rw [← tick, Port.tick, Port.tick, device, overflow, counter]
  · change port.acknowledged.drained.rearm.2.device.queue = _
    rw [device, emptied]

/-! ## Ticks that go by -/

/-- A number of ticks have gone by, what fell due was taken, and the handler is not running. -/
structure Lapsed (ticks : Nat) (due : List QueueEntry) (port port' : SimPort) : Prop where
  poised : port'.Poised
  moved : port.Moved ticks port'
  tick : port'.tick = port.tick + UInt32.ofNat ticks
  falls : port.device.queue.FallsDue port.tick ticks due port'.device.queue

/-- Two ports differ in nothing but the number of interrupts, whether the line of the device is marked
pending, what the last reading left in the read channel, and the events and the compare value of channels
that raise no interrupts. -/
structure Alike (first second : SimPort) : Prop where
  device : second.device = { first.device with isrs := second.device.isrs }
  timer : second.timer = { first.timer with channels := second.timer.channels }
  enabled : ∀ channel, (second.timer.channels.get channel).interruptEnabled =
    (first.timer.channels.get channel).interruptEnabled
  event : ∀ channel, (first.timer.channels.get channel).interruptEnabled = true →
    (second.timer.channels.get channel).event = (first.timer.channels.get channel).event
  overflow : second.timer.channels.overflow.compare = first.timer.channels.overflow.compare
  interrupt : first.timer.channels.interrupt.interruptEnabled = true →
    second.timer.channels.interrupt.compare = first.timer.channels.interrupt.compare
  marks : ∀ line, second.controller.marks line =
    { first.controller.marks line with pending := second.controller.isPending line }
  pending : ∀ line, Nvic.slot line ≠ Nvic.slot first.device.config.line →
    second.controller.isPending line = first.controller.isPending line

theorem Lapsed.trans (first : port.Lapsed ticks due port') (second : port'.Lapsed ticks' due' port'')
    (short : ticks + ticks' < 2 ^ 32) : port.Lapsed (ticks + ticks') (due ++ due') port'' where
  poised := second.poised
  moved := first.moved.trans second.moved
  tick := by rw [second.tick, first.tick, UInt32.ofNat_add, UInt32.add_assoc]
  falls := by
    have falls := second.falls
    rw [first.tick] at falls
    exact first.falls.trans falls short

namespace Poised

theorem still (poised : port.Poised) : port.Still := ⟨poised.ready.unmoved, poised.unlatched⟩

/-- A poised device raises no interrupts by an event that is latched. -/
theorem event_eq_false (poised : port.Poised) (channel : Channel)
    (enabled : (port.timer.channels.get channel).interruptEnabled = true) :
    (port.timer.channels.get channel).event = false := by
  cases channel with
  | overflow =>
    cases narrow : port.device.width.isNarrow with
    | true => exact poised.unlatched narrow
    | false => cases (poised.ready.wideSilent narrow).symm.trans enabled
  | read => cases poised.ready.readSilent.symm.trans enabled
  | interrupt =>
    rw [← Bool.not_eq_true]
    intro event
    cases (poised.quiet event).symm.trans enabled

end Poised

namespace Lapsed

variable (first : port.Lapsed ticks due port') (second : port.Lapsed ticks due' port'')

include first second

theorem due_eq : due = due' := first.falls.filters.1.symm.trans second.falls.filters.1

theorem queue_eq : port''.device.queue = port'.device.queue :=
  congrArg DeadlineQueue.mk (second.falls.filters.2.symm.trans first.falls.filters.2)

theorem counter_eq : port''.timer.counter = port'.timer.counter := by
  have inRange := first.poised.ready.running.inRange
  have inRange' := second.poised.ready.running.inRange
  rw [Timer.InRange, first.moved.timer] at inRange
  rw [Timer.InRange, second.moved.timer] at inRange'
  have same := second.moved.counter.trans first.moved.counter.symm
  rw [Nat.mod_eq_of_lt inRange, Nat.mod_eq_of_lt inRange'] at same
  exact UInt32.toNat_inj.1 same

/-- With no overflow to fold, the tick and the counter determine the tally. -/
theorem tally_eq : port''.device.tally = port'.device.tally := by
  have tick := second.tick.trans first.tick.symm
  rw [first.poised.still.tick_eq first.poised.ready.running.tallied,
    second.poised.still.tick_eq second.poised.ready.running.tallied,
    first.counter_eq second] at tick
  exact (UInt32.add_left_inj _).1 tick

theorem device_eq : port''.device = { port'.device with isrs := port''.device.isrs } := by
  rw [second.moved.device, first.moved.device, first.queue_eq second, first.tally_eq second]

theorem interruptEnabled_eq (channel : Channel) :
    (port''.timer.channels.get channel).interruptEnabled =
      (port'.timer.channels.get channel).interruptEnabled := by
  cases channel with
  | overflow => exact second.moved.overflow.trans first.moved.overflow.symm
  | read => exact second.poised.ready.readSilent.trans first.poised.ready.readSilent.symm
  | interrupt =>
    have armed := first.poised.armed
    have armed' := second.poised.armed
    rw [ArmedForHead, first.device_eq second] at armed'
    exact Bool.eq_iff_iff.2 (armed'.trans armed.symm)

/-- However often the handler ran, the same ticks leave devices that are alike. -/
theorem alike : port'.Alike port'' := by
  have enabled := first.interruptEnabled_eq second
  refine ⟨first.device_eq second, ?_, enabled, fun channel raises => ?_, ?_, fun raises => ?_,
    fun line => ?_, fun line another => ?_⟩
  · rw [second.moved.timer, first.moved.timer, first.counter_eq second]
  · rw [first.poised.event_eq_false channel raises,
      second.poised.event_eq_false channel ((enabled channel).trans raises)]
  · rw [second.moved.compare, first.moved.compare]
  · obtain ⟨expiry, head, -⟩ := first.poised.armed.1 raises
    rw [first.poised.settled.compare expiry head raises, second.poised.settled.compare expiry
      (first.queue_eq second ▸ head) ((enabled .interrupt).trans raises), first.device_eq second]
  · rw [second.moved.marks, first.moved.marks]
  · rw [first.moved.device] at another
    rw [second.moved.pending line another, first.moved.pending line another]

end Lapsed

end DeadlineTimers.Port
