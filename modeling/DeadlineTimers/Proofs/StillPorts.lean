import DeadlineTimers.Proofs.Bookkeeping

/-!
# Ports whose captures do not move the counter

With the automatic advance at zero a reading takes the counter and changes nothing else, unless an
overflow is latched that it has to fold. Then arming has three outcomes only, by the deadline and the
tick alone, and a deadline that lies ahead never makes the line pending.
-/

namespace DeadlineTimers

namespace Tick

variable {width : CounterWidth} {tally counter expiry : Ticks}

/-- A deadline less than half a turn ahead, with an epoch to spare, does not lie in an epoch that counts
as over. -/
theorem not_before_of_near (narrow : width.isNarrow = true)
    (aligned : tally.toNat % width.states = 0) (inside : counter.toNat < width.states)
    (near : (expiry - (tally + counter)).toNat + width.states < 2 ^ 31) :
    before (expiry &&& width.epochMask) tally = false := by
  have bound := expiry.toNat_lt
  have tallyBound := tally.toNat_lt
  rw [UInt32.toNat_sub, UInt32.toNat_add] at near
  rw [before_eq_false_iff_toNat, CounterWidth.and_epochMask_toNat]
  cases width with
  | bits32 => contradiction
  | _ => simp only [CounterWidth.states_eq, CounterWidth.bits] at *; omega

end Tick

namespace Port

open Simulated

variable {port : SimPort} {line : IrqLine} {expiry : Ticks}

/-- Captures do not move the counter, and no overflow of a narrow counter is left to fold. -/
structure Still (port : SimPort) : Prop where
  unmoved : port.timer.autoAdvance = 0
  folded : port.device.width.isNarrow = true → port.timer.channels.overflow.event = false

def taken (port : SimPort) : SimPort := { port with timer := port.timer.captured }

/-! ## Reading -/

theorem captured_channels (unmoved : port.timer.autoAdvance = 0) :
    port.taken.timer.channels.overflow = port.timer.channels.overflow ∧
      port.taken.timer.channels.interrupt = port.timer.channels.interrupt ∧
      port.taken.timer.counter = port.timer.counter := by
  have captured := Timer.captured_of_still unmoved
  refine ⟨?_, ?_, ?_⟩
  all_goals
    rw [taken, captured]
    rfl

theorem tick_taken (unmoved : port.timer.autoAdvance = 0) : port.taken.tick = port.tick := by
  obtain ⟨overflow, -, counter⟩ := captured_channels unmoved
  rw [tick, tick, overflow, counter]
  rfl

theorem Still.taken (still : port.Still) : port.taken.Still where
  unmoved := still.unmoved ▸ port.timer.captured_autoAdvance
  folded narrow := by
    rw [(captured_channels still.unmoved).1]
    exact still.folded narrow

/-- Taking the counter again changes nothing. -/
theorem taken_taken (unmoved : port.timer.autoAdvance = 0) : port.taken.taken = port.taken := by
  have again : port.timer.captured.captured = port.timer.captured := by
    rw [Timer.captured_of_still (port.timer.captured_autoAdvance.trans unmoved),
      Timer.captured_of_still unmoved]
    rfl
  rw [taken, taken]
  exact congrArg (fun timer => { port with timer }) again

/-- What a reading returns if captures do not move the counter and no overflow is left to fold, whatever
the tally. -/
def reading (port : SimPort) : Ticks :=
  if port.device.width.isNarrow then
    port.device.tally ||| (port.timer.counter &&& port.device.width.counterMask)
  else port.timer.counter

theorem reading_taken (unmoved : port.timer.autoAdvance = 0) : port.taken.reading = port.reading := by
  rw [reading, reading, (captured_channels unmoved).2.2]
  rfl

theorem Still.read_eq_reading (still : port.Still) (line : IrqLine) :
    port.read line = (port.reading, port.taken) := by
  have counter := (captured_channels still.unmoved).2.2
  unfold Port.read
  dsimp only
  cases narrow : port.device.width.isNarrow with
  | false =>
    rw [reading, narrow, if_neg Bool.false_ne_true, ← counter]
    rfl
  | true =>
    have unlatched : TimerPeripheral.event port.timer.captured .overflow = false :=
      still.taken.folded narrow
    change (if (!true) = true then _ else if TimerPeripheral.event port.timer.captured .overflow = true
      then _ else _) = _
    rw [if_neg (by decide), if_neg (Bool.eq_false_iff.1 unlatched), reading, narrow, if_pos rfl,
      ← counter]
    rfl

/-- A reading returns the tick and takes the counter. -/
theorem Still.read_eq (still : port.Still) (tallied : port.Tallied) (line : IrqLine) :
    port.read line = (port.tick, port.taken) := by
  have tick := tallied.read_eq_tick line
  rcases read_cases port line with ⟨-, after⟩ | ⟨narrow, latched, -⟩
  · refine Prod.ext ?_ after
    rw [tick, after]
    exact tick_taken still.unmoved
  · have unlatched := still.taken.folded narrow
    rw [Port.taken, latched] at unlatched
    cases unlatched

theorem Still.reading_eq_tick (still : port.Still) (tallied : port.Tallied) :
    port.reading = port.tick :=
  congrArg Prod.fst
    ((still.read_eq_reading port.device.config.line).symm.trans (still.read_eq tallied _))

/-! ## Arming -/

/-- What arming reports and leaves behind, by the deadline and the tick. -/
theorem Still.arm_eq (still : port.Still) (tallied : port.Tallied) (line : IrqLine)
    (expiry : Ticks) :
    port.arm line expiry =
      if port.device.width.isNarrow &&
          (expiry &&& port.device.width.epochMask) != port.device.tally then
        if Tick.before (expiry &&& port.device.width.epochMask) port.device.tally then
          (.epochPassed, port.disarm.setPending line)
        else (.epochAhead (expiry &&& port.device.width.epochMask), port.disarm)
      else if Tick.reached port.tick expiry then
        (.missed port.tick, (port.disarm.written expiry).taken.setPending line)
      else (.armed, (port.disarm.written expiry).taken) := by
  have written : Still (port.disarm.written expiry) := ⟨still.unmoved, still.folded⟩
  have tallied : Tallied (port.disarm.written expiry) :=
    ⟨tallied.width, tallied.inRange, tallied.aligned⟩
  have tick : (port.disarm.written expiry).tick = port.tick := rfl
  rw [Port.arm_eq, program_eq, written.read_eq tallied, tick]

def Quiet (channel : ChannelState) : Prop :=
  channel.event = true → channel.interruptEnabled = false

/-- What arming for a deadline that lies ahead leaves behind. -/
structure ArmedAhead (port port' : SimPort) : Prop where
  device : port'.device = port.device
  controller : port'.controller = port.controller
  timer : port'.timer = { port.timer with channels :=
    { overflow := port.timer.channels.overflow
      read := { port.timer.channels.read with compare := port'.timer.channels.read.compare }
      interrupt := port'.timer.channels.interrupt } }
  quiet : Quiet port'.timer.channels.interrupt

theorem Still.arm_ahead (still : port.Still) (running : port.Running) (line : IrqLine)
    (ahead : Tick.reached port.tick expiry = false)
    (near : port.device.width.isNarrow = true →
      Tick.before (expiry &&& port.device.width.epochMask) port.device.tally = false) :
    port.ArmedAhead (port.arm line expiry).2 := by
  rw [still.arm_eq running.tallied, if_neg (Bool.eq_false_iff.1 ahead)]
  split
  · next otherEpoch =>
    have narrow := (Bool.and_eq_true_iff.1 otherEpoch).1
    rw [if_neg (Bool.eq_false_iff.1 (near narrow))]
    exact ⟨rfl, rfl, rfl, fun _ => rfl⟩
  · have captured := @Timer.captured_of_still (port.disarm.written expiry).timer
      still.unmoved
    refine ⟨rfl, rfl, ?_, ?_⟩
    · rw [Port.taken, captured]
      rfl
    · rw [Port.taken, captured]
      exact fun event => Bool.noConfusion event

theorem Still.rearm_ahead (still : port.Still) (running : port.Running)
    (ahead : ∀ expiry, port.device.queue.nextExpiry = some expiry →
      Tick.reached port.tick expiry = false ∧ (port.device.width.isNarrow = true →
        Tick.before (expiry &&& port.device.width.epochMask) port.device.tally = false)) :
    port.ArmedAhead port.rearm.2 := by
  unfold Port.rearm
  split
  · next expiry head =>
    obtain ⟨ahead, near⟩ := ahead expiry head
    exact still.arm_ahead running port.device.config.line ahead near
  · exact ⟨rfl, rfl, rfl, fun _ => rfl⟩

theorem ArmedAhead.tick {port' : SimPort} (armed : port.ArmedAhead port') :
    port'.tick = port.tick := by
  rw [Port.tick, Port.tick, armed.device, armed.timer]

/-! ## The line -/

theorem lineActive_eq_false_iff : port.lineActive = false ↔
    port.controller.isPending port.device.config.line = false ∧
      ∀ channel, Quiet (port.timer.channels.get channel) := by
  rw [lineActive, Bool.or_eq_false_iff, ← Bool.not_eq_true port.timer.irqAsserted, irqAsserted_iff,
    not_exists]
  refine and_congr_right fun _ => forall_congr' fun channel => ?_
  rw [not_and, Quiet]
  exact imp_congr_right fun _ => by rw [Bool.not_eq_true]

end Port

end DeadlineTimers
