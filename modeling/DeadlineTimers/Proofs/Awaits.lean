import DeadlineTimers.Proofs.DeviceOperations

/-!
# Deadlines that are awaited

`Port.Awaits port expiry` says that the hardware will call the handler in time for a deadline. Either
the line is active, so the handler is called at once. Or the deadline lies ahead, and the compare is
armed for it, or it lies in a later epoch, and the overflow that opens the next epoch will call the
handler. A deadline stays awaited however far the counter moves, because the counter cannot pass the
compare value or zero without an event, and arming makes any deadline awaited.
-/

namespace DeadlineTimers.Port

open Simulated

variable {port : SimPort} {expiry : Ticks}

/-- The handler will be called in time for a deadline. -/
inductive Awaits (port : SimPort) (expiry : Ticks) : Prop where
  | active (active : port.lineActive = true)
  | wide (wide : port.device.width.isNarrow = false)
      (enabled : port.timer.channels.interrupt.interruptEnabled = true)
      (compare : port.timer.channels.interrupt.compare = expiry)
      (ahead : Tick.reached port.timer.counter expiry = false)
  | armed (narrow : port.device.width.isNarrow = true)
      (unlatched : port.timer.channels.overflow.event = false)
      (enabled : port.timer.channels.interrupt.interruptEnabled = true)
      (compare : port.timer.channels.interrupt.compare = expiry &&& port.device.width.counterMask)
      (epoch : expiry &&& port.device.width.epochMask = port.device.tally)
      (ahead : port.timer.counter.toNat < expiry.toNat % port.device.width.states)
  | deferred (narrow : port.device.width.isNarrow = true)
      (unlatched : port.timer.channels.overflow.event = false)
      (disabled : port.timer.channels.interrupt.interruptEnabled = false)
      (later : expiry &&& port.device.width.epochMask ≠ port.device.tally)
      (ahead : Tick.before (expiry &&& port.device.width.epochMask) port.device.tally = false)

/-! ## An awaited deadline is not overlooked -/

/-- A deadline that is awaited and has been reached has made the line active. -/
theorem Awaits.lineActive_of_reached (awaits : port.Awaits expiry) (running : port.Running)
    (reached : Tick.reached port.tick expiry = true) : port.lineActive = true := by
  have inside : port.timer.counter.toNat < port.device.width.states :=
    running.width ▸ running.inRange
  cases awaits with
  | active active => exact active
  | wide wide enabled compare ahead =>
    rw [tick, if_neg (by simp [wide]), ahead] at reached
    contradiction
  | armed narrow unlatched enabled compare epoch ahead =>
    rw [tick, if_pos narrow, unlatched, if_neg (by simp), UInt32.add_zero,
      Tick.not_reached_of_same_epoch narrow epoch ahead] at reached
    contradiction
  | deferred narrow unlatched disabled later ahead =>
    rw [tick, if_pos narrow, unlatched, if_neg (by simp), UInt32.add_zero,
      Tick.not_reached_of_later_epoch narrow running.aligned inside later ahead] at reached
    contradiction

/-! ## Moving keeps a deadline awaited -/

theorem irqAsserted_iff (timer : Timer) :
    timer.irqAsserted = true ↔
      ∃ channel, (timer.channels.get channel).event = true ∧
        (timer.channels.get channel).interruptEnabled = true := by
  constructor
  · intro asserted
    simp only [Timer.irqAsserted, PerChannel.toList, List.any_cons, List.any_nil, Bool.or_false,
      Bool.or_eq_true, Bool.and_eq_true] at asserted
    rcases asserted with overflow | read | interrupt
    · exact ⟨.overflow, overflow⟩
    · exact ⟨.read, read⟩
    · exact ⟨.interrupt, interrupt⟩
  · rintro ⟨channel, event, enabled⟩
    cases channel <;> simp_all [Timer.irqAsserted, PerChannel.toList, PerChannel.get]

theorem lineActive_of_event (channel : Channel)
    (event : (port.timer.channels.get channel).event = true)
    (enabled : (port.timer.channels.get channel).interruptEnabled = true) :
    port.lineActive = true := by
  rw [lineActive, (irqAsserted_iff port.timer).2 ⟨channel, event, enabled⟩, Bool.or_true]

theorem lineActive_advance (active : port.lineActive = true) (ticks : UInt32) :
    lineActive (port.modifyTimer (·.advance ticks)) = true := by
  rw [lineActive, Bool.or_eq_true] at active
  rcases active with pending | asserted
  · exact Bool.or_eq_true_iff.2 (.inl pending)
  · obtain ⟨channel, event, enabled⟩ := (irqAsserted_iff _).1 asserted
    exact lineActive_of_event channel (port.timer.advance_event_of_event ticks event)
      ((port.timer.advance_interruptEnabled ticks channel).trans enabled)

/-- A match of a channel whose interrupt is enabled makes the line active. -/
theorem lineActive_of_arrival (running : port.Running) {ticks : UInt32} (channel : Channel)
    (enabled : (port.timer.channels.get channel).interruptEnabled = true)
    (arrives : (port.timer.channels.get channel).arrivals port.timer.width port.timer.counter
      ticks ≠ 0) :
    lineActive (port.modifyTimer (·.advance ticks)) = true := by
  apply lineActive_of_event channel
  · change ((port.timer.advance ticks).channels.get channel).event = true
    rw [Timer.advance_get_of_running running.counting running.inRange, ChannelState.latch_event]
    simp [arrives]
  · exact (port.timer.advance_interruptEnabled ticks channel).trans enabled

theorem event_of_no_arrival (running : port.Running) {ticks : UInt32} (channel : Channel)
    (unlatched : (port.timer.channels.get channel).event = false)
    (passes : (port.timer.channels.get channel).arrivals port.timer.width port.timer.counter
      ticks = 0) :
    ((port.timer.advance ticks).channels.get channel).event = false := by
  rw [Timer.advance_get_of_running running.counting running.inRange, passes,
    ChannelState.latch_zero, unlatched]

theorem Awaits.advance (awaits : port.Awaits expiry) (running : port.Running) (ticks : UInt32) :
    Awaits (port.modifyTimer (·.advance ticks)) expiry := by
  have inside : port.timer.counter.toNat < port.timer.width.states := running.inRange
  have counter := Timer.advance_counter_toNat running.counting running.inRange ticks
  have compares := port.timer.advance_compare ticks .interrupt
  have enables := port.timer.advance_interruptEnabled ticks .interrupt
  cases awaits with
  | active active => exact .active (lineActive_advance active ticks)
  | wide wide enabled compare ahead =>
    by_cases quiet : (port.timer.channels.get .interrupt).arrivals port.timer.width
        port.timer.counter ticks = 0
    · have states := CounterWidth.states_of_not_narrow wide
      rw [← running.width] at states
      refine .wide wide (enables.trans enabled) (compares.trans compare) ?_
      rw [Tick.reached_eq_false_iff_toNat] at ahead ⊢
      rw [ChannelState.arrivals_eq_zero_iff, ChannelState.phase_toNat] at quiet
      simp only [PerChannel.get, compare] at quiet
      change 2 ^ 31 ≤ (2 ^ 32 - expiry.toNat + (port.timer.advance ticks).counter.toNat) % 2 ^ 32
      rw [states] at quiet counter
      omega
    · exact .active (lineActive_of_arrival running .interrupt enabled quiet)
  | armed narrow unlatched enabled compare epoch ahead =>
    by_cases wraps : (port.timer.channels.get .overflow).arrivals port.timer.width
        port.timer.counter ticks = 0
    · by_cases quiet : (port.timer.channels.get .interrupt).arrivals port.timer.width
          port.timer.counter ticks = 0
      · refine .armed narrow (event_of_no_arrival running .overflow unlatched wraps) (enables.trans enabled)
          (compares.trans compare) epoch ?_
        have target := Nat.mod_lt expiry.toNat port.device.width.states_pos
        have zero : (port.timer.channels.get .overflow).compare = 0 := (running.watching narrow).1
        rw [ChannelState.arrivals_of_compare_zero zero inside, Nat.div_eq_zero_iff] at wraps
        rw [ChannelState.arrivals_eq_zero_iff, ChannelState.phase_toNat] at quiet
        simp only [PerChannel.get, compare, CounterWidth.and_counterMask_toNat] at quiet
        rw [running.width, CounterWidth.behind_mod_states _ ahead target] at quiet
        rw [running.width] at counter wraps
        change (port.timer.advance ticks).counter.toNat < expiry.toNat % port.device.width.states
        rw [counter, Nat.mod_eq_of_lt (by omega)]
        omega
      · exact .active (lineActive_of_arrival running .interrupt enabled quiet)
    · exact .active
        (lineActive_of_arrival running .overflow (running.watching narrow).2 wraps)
  | deferred narrow unlatched disabled later ahead =>
    by_cases wraps : (port.timer.channels.get .overflow).arrivals port.timer.width
        port.timer.counter ticks = 0
    · exact .deferred narrow (event_of_no_arrival running .overflow unlatched wraps)
        (enables.trans disabled) later ahead
    · exact .active
        (lineActive_of_arrival running .overflow (running.watching narrow).2 wraps)

/-- What is looked at to tell whether a deadline is awaited. -/
theorem Awaits.of_same {port' : SimPort} (awaits : port.Awaits expiry)
    (width : port'.device.width = port.device.width)
    (tally : port'.device.tally = port.device.tally)
    (counter : port'.timer.counter = port.timer.counter)
    (overflow : port'.timer.channels.overflow = port.timer.channels.overflow)
    (interrupt : port'.timer.channels.interrupt = port.timer.channels.interrupt)
    (active : port.lineActive = true → port'.lineActive = true) : port'.Awaits expiry := by
  cases awaits with
  | active isActive => exact .active (active isActive)
  | wide wide enabled compare ahead =>
    refine .wide ?_ ?_ ?_ ?_
    · rw [width, wide]
    · rw [interrupt, enabled]
    · rw [interrupt, compare]
    · rw [counter, ahead]
  | armed narrow unlatched enabled compare epoch ahead =>
    refine .armed ?_ ?_ ?_ ?_ ?_ ?_
    · rw [width, narrow]
    · rw [overflow, unlatched]
    · rw [interrupt, enabled]
    · rw [interrupt, compare, width]
    · rw [width, tally, epoch]
    · rw [width, counter]
      exact ahead
  | deferred narrow unlatched disabled later ahead =>
    refine .deferred ?_ ?_ ?_ ?_ ?_
    · rw [width, narrow]
    · rw [overflow, unlatched]
    · rw [interrupt, disabled]
    · rw [width, tally]
      exact later
    · rw [width, tally, ahead]

/-- The note in the read register is not looked at. -/
theorem Awaits.captured (awaits : port.Awaits expiry) (running : port.Running) :
    Awaits { port with timer := port.timer.captured } expiry :=
  (awaits.advance running port.timer.autoAdvance).of_same rfl rfl rfl rfl rfl id

theorem Awaits.of_pending (pending : port.controller.isPending port.device.config.line = true) :
    port.Awaits expiry :=
  .active (Bool.or_eq_true_iff.2 (.inl pending))

/-- A reading that folds an overflow makes the line pending. -/
theorem Awaits.read (awaits : port.Awaits expiry) (running : port.Running) :
    Awaits (port.read port.device.config.line).2 expiry := by
  rcases read_cases port port.device.config.line with ⟨-, taken⟩ | ⟨-, -, folded⟩
  · rw [taken]
    exact awaits.captured running
  · rw [folded]
    exact .of_pending (Nvic.isPending_setPending_self _ _)

/-! ## Arming -/

/-- A compare armed for a deadline that the tick has not reached yet awaits it. -/
theorem Awaits.of_not_reached (running : port.Running)
    (enabled : port.timer.channels.interrupt.interruptEnabled = true)
    (compare : port.timer.channels.interrupt.compare = expiry &&& port.device.width.counterMask)
    (epoch : port.device.width.isNarrow = true →
      port.timer.channels.overflow.event = false ∧
        expiry &&& port.device.width.epochMask = port.device.tally)
    (ahead : Tick.reached port.tick expiry = false) : port.Awaits expiry := by
  have inside : port.timer.counter.toNat < port.device.width.states :=
    running.width ▸ running.inRange
  cases narrow : port.device.width.isNarrow with
  | false =>
    rw [tick, if_neg (by simp [narrow])] at ahead
    have whole : expiry &&& port.device.width.counterMask = expiry := by
      apply UInt32.toNat_inj.1
      rw [CounterWidth.and_counterMask_toNat, CounterWidth.states_of_not_narrow narrow,
        Nat.mod_eq_of_lt expiry.toNat_lt]
    exact .wide narrow enabled (compare.trans whole) ahead
  | true =>
    obtain ⟨unlatched, epoch⟩ := epoch narrow
    rw [tick, if_pos narrow, unlatched, if_neg (by simp), UInt32.add_zero] at ahead
    exact .armed narrow unlatched enabled compare epoch
      (Tick.further_of_same_epoch narrow inside epoch ahead)

theorem Awaits.program (running : port.Running)
    (epoch : port.device.width.isNarrow = true →
      expiry &&& port.device.width.epochMask = port.device.tally) :
    Awaits (port.program port.device.config.line expiry).2 expiry := by
  have written : (port.written expiry).Running := running.aside (port.aside_written expiry)
  rw [program_eq]
  rcases read_cases (port.written expiry) port.device.config.line with
    ⟨unlatched, taken⟩ | ⟨narrow, latched, folded⟩
  · split
    · rw [taken]
      exact .of_pending (Nvic.isPending_setPending_self _ _)
    · next ahead =>
      rw [Bool.not_eq_true, written.read_eq_tick] at ahead
      change Awaits ((port.written expiry).read port.device.config.line).2 expiry
      rw [taken] at ahead ⊢
      refine .of_not_reached written.captured ?_ ?_ ?_ ahead
      · exact (port.written expiry).timer.advance_interruptEnabled _ .interrupt
      · exact ((port.written expiry).timer.advance_compare _ .interrupt).trans
          (port.written_compare running.width expiry)
      · exact fun narrow => ⟨unlatched narrow, epoch narrow⟩
  · rw [folded]
    split
    · exact .of_pending (Nvic.isPending_setPending_self _ _)
    · exact .of_pending (Nvic.isPending_setPending_self _ _)

/-- Arming makes any deadline of a running device awaited. -/
theorem awaits_arm (running : port.Running) (expiry : Ticks) :
    Awaits (port.arm port.device.config.line expiry).2 expiry := by
  have disarmed : port.disarm.Running := running.aside port.aside_disarm
  rw [arm_eq]
  split
  · next otherEpoch =>
    obtain ⟨narrow, later⟩ := Bool.and_eq_true_iff.1 otherEpoch
    split
    · exact .of_pending (Nvic.isPending_setPending_self _ _)
    · next ahead =>
      rw [Bool.not_eq_true] at ahead
      cases latched : port.timer.channels.overflow.event with
      | false => exact .deferred narrow latched rfl (bne_iff_ne.1 later) ahead
      | true =>
        exact .active (lineActive_of_event .overflow latched (running.watching narrow).2)
  · next sameEpoch =>
    refine Awaits.program disarmed fun narrow => ?_
    have narrow' : port.device.width.isNarrow = true := narrow
    rw [narrow', Bool.true_and, bne_iff_ne, not_not] at sameEpoch
    exact sameEpoch

end DeadlineTimers.Port
