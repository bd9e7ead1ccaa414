import DeadlineTimers.Proofs.Movement
import DeadlineTimers.Simulated.Board
import Mathlib.Logic.Relation

/-!
# What happens to the tick of a running device

Everything between the start of a device and its next stop comes down to four events: the counter
moves, the tick is read, the handler folds an overflow into the tally, or something happens aside of
the tick, such as arming the compare interrupt or queueing a timer. Each operation on a port is a
sequence of these events, and `Running`, the set-up that a start leaves, survives all of them.
-/

namespace DeadlineTimers

abbrev Simulated.SimPort := Port Simulated.Timer Simulated.Nvic

namespace Port

open Simulated

/-- The tick of a device, an overflow included that is latched and not in the tally yet. -/
def tick (port : SimPort) : Ticks :=
  if port.device.width.isNarrow then
    port.device.tally +
      (if port.timer.channels.overflow.event then port.device.width.epochSpan else 0) +
      port.timer.counter
  else port.timer.counter

/-- Tests whether the line of a device is pending or asserted by its timer. -/
def lineActive (port : SimPort) : Bool :=
  port.controller.isPending port.device.config.line || port.timer.irqAsserted

/-- A device that runs on hardware set up as a start sets it up. -/
structure Running (port : SimPort) : Prop where
  width : port.timer.width = port.device.width
  counting : port.timer.running = true
  inRange : port.timer.InRange
  aligned : port.device.tally.toNat % port.device.width.states = 0
  watching : port.device.width.isNarrow = true →
    port.timer.channels.overflow.compare = 0 ∧
      port.timer.channels.overflow.interruptEnabled = true
  lineEnabled : port.controller.isEnabled port.device.config.line = true

/-- The counter counts in the width of the device, and the tally is made of whole rounds of it, so that
the two make up a tick. -/
structure Tallied (port : SimPort) : Prop where
  width : port.timer.width = port.device.width
  inRange : port.timer.InRange
  aligned : port.device.tally.toNat % port.device.width.states = 0

/-- What holds of every registered device: no interrupt comes from the read channel, and a device
that runs is set up. -/
structure Sound (port : SimPort) : Prop where
  readSilent : port.timer.channels.read.interruptEnabled = false
  running : port.device.enabled = true → port.Running

/-- One port differs from another in nothing that the tick depends on: the compare interrupt, the
automatic advance, the queue, the count of interrupts and the marks of lines may differ. -/
structure Aside (port port' : SimPort) : Prop where
  enabled : port'.device.enabled = port.device.enabled
  config : port'.device.config = port.device.config
  width : port'.device.width = port.device.width
  tally : port'.device.tally = port.device.tally
  timer : port'.timer = { port.timer with
    autoAdvance := port'.timer.autoAdvance
    channels := { port.timer.channels with interrupt := port'.timer.channels.interrupt } }
  lineEnabled : ∀ line, port.controller.isEnabled line = true →
    port'.controller.isEnabled line = true

/-- The events that the tick of a running device sees. -/
inductive TickEvent : SimPort → SimPort → Prop where
  | advance (port : SimPort) (ticks : UInt32) :
      TickEvent port (port.modifyTimer (·.advance ticks))
  | read (port : SimPort) (line : IrqLine) : TickEvent port (port.read line).2
  | fold (port : SimPort) : TickEvent port port.consumeOverflow.2
  | aside {port port' : SimPort} (aside : port.Aside port') : TickEvent port port'

abbrev TickEvents : SimPort → SimPort → Prop := Relation.ReflTransGen TickEvent

/-! ## Reading -/

variable (port : SimPort) (line : IrqLine)

theorem read_of_wide {port : SimPort} (wide : port.device.width.isNarrow = false) :
    port.read line = (port.timer.captured.counter, { port with timer := port.timer.captured }) := by
  simp only [Port.read, wide, Bool.not_false, ↓reduceIte]
  rfl

theorem read_of_unlatched {port : SimPort} (narrow : port.device.width.isNarrow = true)
    (unlatched : port.timer.captured.channels.overflow.event = false) :
    port.read line =
      (port.device.tally ||| (port.timer.captured.counter &&& port.device.width.counterMask),
        { port with timer := port.timer.captured }) := by
  have event : TimerPeripheral.event (TimerPeripheral.capture port.timer .read).2 .overflow =
    false := unlatched
  simp only [Port.read, narrow, event, Bool.not_true, Bool.false_eq_true, ↓reduceIte]
  rfl

/-- A port after a reading that folded a latched overflow into the tally. -/
def folded (port : SimPort) (line : IrqLine) : SimPort where
  device := { port.device with tally := port.device.tally + port.device.width.epochSpan }
  timer := port.timer.captured.captured.modifyChannel .overflow fun state =>
    { state with event := false }
  controller := port.controller.setPending line

theorem read_of_latched {port : SimPort} (narrow : port.device.width.isNarrow = true)
    (latched : port.timer.captured.channels.overflow.event = true) :
    port.read line =
      (port.device.tally + port.device.width.epochSpan |||
        (port.timer.captured.captured.counter &&& port.device.width.counterMask),
        port.folded line) := by
  have event : TimerPeripheral.event (TimerPeripheral.capture port.timer .read).2 .overflow =
    true := latched
  simp only [Port.read, narrow, event, Bool.not_true, Bool.false_eq_true, ↓reduceIte]
  rfl

/-- A reading either only takes the counter, or finds an overflow and folds it. -/
theorem read_cases :
    ((port.device.width.isNarrow = true → port.timer.captured.channels.overflow.event = false) ∧
        (port.read line).2 = { port with timer := port.timer.captured }) ∨
      (port.device.width.isNarrow = true ∧ port.timer.captured.channels.overflow.event = true ∧
        (port.read line).2 = port.folded line) := by
  cases narrow : port.device.width.isNarrow with
  | false =>
    left
    rw [read_of_wide line narrow]
    exact ⟨fun h => by contradiction, rfl⟩
  | true =>
    cases latched : port.timer.captured.channels.overflow.event with
    | false =>
      left
      rw [read_of_unlatched line narrow latched]
      exact ⟨fun _ => rfl, rfl⟩
    | true =>
      right
      rw [read_of_latched line narrow latched]
      exact ⟨rfl, rfl, rfl⟩

variable {port line} {port' : SimPort}

namespace Tallied

theorem tally_or_eq (tallied : port.Tallied) :
    port.device.tally ||| (port.timer.counter &&& port.device.width.counterMask) =
      port.device.tally + port.timer.counter := by
  have inside : port.timer.counter.toNat < port.device.width.states :=
    tallied.width ▸ tallied.inRange
  have masked : port.timer.counter &&& port.device.width.counterMask = port.timer.counter := by
    apply UInt32.toNat_inj.1
    rw [CounterWidth.and_counterMask_toNat, Nat.mod_eq_of_lt inside]
  have bound := (port.device.tally ||| port.timer.counter).toNat_lt
  have joined := CounterWidth.tally_or_toNat tallied.aligned inside
  rw [masked]
  apply UInt32.toNat_inj.1
  rw [joined, UInt32.toNat_add, Nat.mod_eq_of_lt (joined ▸ bound)]

theorem captured (tallied : port.Tallied) : Tallied { port with timer := port.timer.captured } where
  width := port.timer.captured_width.trans tallied.width
  inRange := Timer.inRange_advance tallied.inRange port.timer.autoAdvance
  aligned := tallied.aligned

/-- Moving an overflow from its event to the tally adds a whole round. -/
theorem foldOverflow (tallied : port.Tallied) :
    Tallied { port with
      device := { port.device with tally := port.device.tally + port.device.width.epochSpan }
      timer := port.timer.modifyChannel .overflow fun state => { state with event := false } } :=
  { tallied with aligned := CounterWidth.aligned_add_epochSpan tallied.aligned }

/-- What a reading returns is the tick of the port it leaves. -/
theorem read_eq_tick (tallied : port.Tallied) (line : IrqLine) :
    (port.read line).1 = (port.read line).2.tick := by
  cases narrow : port.device.width.isNarrow with
  | false => rw [read_of_wide line narrow, tick, if_neg (by simp [narrow])]
  | true =>
    cases latched : port.timer.captured.channels.overflow.event with
    | false =>
      rw [read_of_unlatched line narrow latched, tick, if_pos narrow, latched, if_neg (by simp),
        UInt32.add_zero]
      exact tallied.captured.tally_or_eq
    | true =>
      have narrow' : (port.folded line).device.width.isNarrow = true := narrow
      have unlatched : (port.folded line).timer.channels.overflow.event = false := rfl
      rw [read_of_latched line narrow latched]
      change _ = (port.folded line).tick
      rw [tick, if_pos narrow', unlatched, if_neg (by simp), UInt32.add_zero]
      exact tallied.captured.captured.foldOverflow.tally_or_eq

end Tallied

theorem Running.tallied (running : port.Running) : port.Tallied :=
  ⟨running.width, running.inRange, running.aligned⟩

/-! ## What the events keep -/

namespace Running

theorem advance (running : port.Running) (ticks : UInt32) :
    Running (port.modifyTimer (·.advance ticks)) where
  width := (port.timer.advance_width ticks).trans running.width
  counting := (port.timer.advance_running ticks).trans running.counting
  inRange := Timer.inRange_advance running.inRange ticks
  aligned := running.aligned
  watching narrow :=
    ⟨(port.timer.advance_compare ticks .overflow).trans (running.watching narrow).1,
      (port.timer.advance_interruptEnabled ticks .overflow).trans (running.watching narrow).2⟩
  lineEnabled := running.lineEnabled

theorem captured (running : port.Running) : Running { port with timer := port.timer.captured } :=
  { running.advance port.timer.autoAdvance with }

theorem setPending (running : port.Running) (line : IrqLine) : Running (port.setPending line) :=
  { running with lineEnabled := (Nvic.isEnabled_setPending _ _ _).trans running.lineEnabled }

/-- Moving an overflow from its event to the tally leaves the device set up. -/
theorem foldOverflow (running : port.Running) :
    Running { port with
      device := { port.device with tally := port.device.tally + port.device.width.epochSpan }
      timer := port.timer.modifyChannel .overflow fun state => { state with event := false } } :=
  { running with aligned := running.tallied.foldOverflow.aligned }

theorem read (running : port.Running) (line : IrqLine) : Running (port.read line).2 := by
  rcases read_cases port line with ⟨-, taken⟩ | ⟨-, -, folded⟩
  · rw [taken]
    exact running.captured
  · rw [folded]
    exact running.captured.captured.foldOverflow.setPending line

theorem consumeOverflow (running : port.Running) : Running port.consumeOverflow.2 := by
  unfold Port.consumeOverflow
  dsimp only
  split
  · exact running.foldOverflow
  · exact running

theorem aside (running : port.Running) (aside : port.Aside port') : port'.Running where
  width := by rw [aside.timer, aside.width]; exact running.width
  counting := by rw [aside.timer]; exact running.counting
  inRange := by rw [aside.timer]; exact running.inRange
  aligned := by rw [aside.tally, aside.width]; exact running.aligned
  watching := by rw [aside.timer, aside.width]; exact running.watching
  lineEnabled := by rw [aside.config]; exact aside.lineEnabled _ running.lineEnabled

theorem event (running : port.Running) (event : TickEvent port port') : port'.Running := by
  cases event with
  | advance ticks => exact running.advance ticks
  | read line => exact running.read line
  | fold => exact running.consumeOverflow
  | aside aside => exact running.aside aside

theorem read_eq_tick (running : port.Running) (line : IrqLine) :
    (port.read line).1 = (port.read line).2.tick :=
  running.tallied.read_eq_tick line

end Running

/-- No event starts or stops the device or gives it another configuration or width. -/
theorem TickEvent.sameSetUp (event : TickEvent port port') :
    port'.device.enabled = port.device.enabled ∧ port'.device.config = port.device.config ∧
      port'.device.width = port.device.width := by
  cases event with
  | advance ticks => exact ⟨rfl, rfl, rfl⟩
  | read line =>
    rcases read_cases port line with ⟨-, taken⟩ | ⟨-, -, folded⟩
    · rw [taken]
      exact ⟨rfl, rfl, rfl⟩
    · rw [folded]
      exact ⟨rfl, rfl, rfl⟩
  | fold =>
    unfold Port.consumeOverflow
    dsimp only
    split
    · exact ⟨rfl, rfl, rfl⟩
    · exact ⟨rfl, rfl, rfl⟩
  | aside aside => exact ⟨aside.enabled, aside.config, aside.width⟩

theorem sameSetUp_of_ticks (events : TickEvents port port') :
    port'.device.enabled = port.device.enabled ∧ port'.device.config = port.device.config ∧
      port'.device.width = port.device.width := by
  induction events with
  | refl => exact ⟨rfl, rfl, rfl⟩
  | tail _ last ih =>
    obtain ⟨enabled, config, width⟩ := last.sameSetUp
    exact ⟨enabled.trans ih.1, config.trans ih.2.1, width.trans ih.2.2⟩

theorem enabled_eq_of_ticks (events : TickEvents port port') :
    port'.device.enabled = port.device.enabled := (sameSetUp_of_ticks events).1

theorem config_eq_of_ticks (events : TickEvents port port') :
    port'.device.config = port.device.config := (sameSetUp_of_ticks events).2.1

theorem width_eq_of_ticks (events : TickEvents port port') :
    port'.device.width = port.device.width := (sameSetUp_of_ticks events).2.2

theorem Running.events (running : port.Running) (events : TickEvents port port') :
    port'.Running := by
  induction events with
  | refl => exact running
  | tail _ last ih => exact ih.event last

/-- Only the compare interrupt is turned on and off while a device runs. -/
theorem TickEvent.interruptEnabled_eq (event : TickEvent port port') {channel : Channel}
    (another : channel ≠ .interrupt) :
    (port'.timer.channels.get channel).interruptEnabled =
      (port.timer.channels.get channel).interruptEnabled := by
  have taken (timer : Timer) : (timer.captured.channels.get channel).interruptEnabled =
      (timer.channels.get channel).interruptEnabled := by
    have moved := timer.advance_interruptEnabled timer.autoAdvance channel
    cases channel with
    | overflow => exact moved
    | read => exact moved
    | interrupt => exact moved
  have folds (timer : Timer) : ((timer.modifyChannel .overflow fun state =>
      { state with event := false }).channels.get channel).interruptEnabled =
        (timer.channels.get channel).interruptEnabled := by
    cases channel <;> rfl
  cases event with
  | advance ticks => exact port.timer.advance_interruptEnabled ticks channel
  | read line =>
    rcases read_cases port line with ⟨-, once⟩ | ⟨-, -, folded⟩
    · rw [once]
      exact taken _
    · rw [folded]
      exact (folds _).trans ((taken _).trans (taken _))
  | fold =>
    unfold Port.consumeOverflow
    dsimp only
    split
    · exact folds _
    · rfl
  | aside aside =>
    rw [aside.timer]
    cases channel with
    | overflow => rfl
    | read => rfl
    | interrupt => exact absurd rfl another

theorem interruptEnabled_eq_of_ticks (events : TickEvents port port') {channel : Channel}
    (another : channel ≠ .interrupt) :
    (port'.timer.channels.get channel).interruptEnabled =
      (port.timer.channels.get channel).interruptEnabled := by
  induction events with
  | refl => rfl
  | tail _ last ih => exact (last.interruptEnabled_eq another).trans ih

theorem Sound.events (sound : port.Sound) (events : TickEvents port port') : port'.Sound where
  readSilent := by
    have kept := @interruptEnabled_eq_of_ticks _ _ events .read Channel.noConfusion
    exact kept.trans sound.readSilent
  running enabled := (sound.running (enabled_eq_of_ticks events ▸ enabled)).events events

end Port

end DeadlineTimers
