import DeadlineTimers.Proofs.StillPorts

/-!
# What arming does with a deadline

Arming goes by two comparisons. The epoch of the deadline against the tally decides between deferring,
giving up and writing the compare, and after writing it the tick against the deadline decides whether
that was too late. Both wrap, and they agree but for one place: an epoch half a turn from the tally
counts as over, while the deadlines in it that are not reached yet lie ahead.
-/

namespace DeadlineTimers

namespace Tick

variable {width : CounterWidth} {tally counter expiry : Ticks}

/-- A deadline in an epoch that is over has been reached, unless that epoch is half a turn away. -/
theorem reached_of_earlier_epoch (narrow : width.isNarrow = true)
    (aligned : tally.toNat % width.states = 0) (inside : counter.toNat < width.states)
    (earlier : before (expiry &&& width.epochMask) tally = true)
    (near : (expiry &&& width.epochMask) - tally ≠ halfTurn) :
    reached (tally + counter) expiry = true := by
  have bound := expiry.toNat_lt
  have tallyBound := tally.toNat_lt
  have near : (2 ^ 32 - tally.toNat + (expiry &&& width.epochMask).toNat) % 2 ^ 32 ≠ 2 ^ 31 :=
    fun half => near (UInt32.toNat_inj.1 ((UInt32.toNat_sub ..).trans half))
  rw [before_iff_toNat] at earlier
  rw [CounterWidth.and_epochMask_toNat] at earlier near
  rw [reached_iff_toNat, UInt32.toNat_add]
  cases width with
  | bits32 => contradiction
  | _ => simp only [CounterWidth.states_eq, CounterWidth.bits] at *; omega

/-- Of two different ticks, one that is not before the other comes after it. -/
theorem before_of_not_before {a b : Ticks} (different : a ≠ b) (after : before a b = false) :
    before b a = true := by
  have different : a.toNat ≠ b.toNat := fun same => different (UInt32.toNat_inj.1 same)
  have aBound := a.toNat_lt
  have bBound := b.toNat_lt
  rw [before_eq_false_iff_toNat] at after
  rw [before_iff_toNat]
  omega

end Tick

namespace Port

open Simulated

variable {port : SimPort} {line : IrqLine} {expiry : Ticks}

/-- The epoch of a deadline is half a turn from the tally, as far behind it as it is ahead. -/
def OppositeEpoch (port : SimPort) (expiry : Ticks) : Prop :=
  port.device.width.isNarrow = true ∧
    (expiry &&& port.device.width.epochMask) - port.device.tally = Tick.halfTurn

/-- The compare interrupt waits for a deadline of the current epoch. -/
structure ComparesWith (port : SimPort) (expiry : Ticks) : Prop where
  epoch : port.device.width.isNarrow = true →
    expiry &&& port.device.width.epochMask = port.device.tally
  compare : port.timer.channels.interrupt.compare = expiry &&& port.device.width.counterMask
  cleared : port.timer.channels.interrupt.event = false
  interruptEnabled : port.timer.channels.interrupt.interruptEnabled = true

/-- The compare interrupt is off while the epoch of a deadline is still to come. -/
structure Defers (port : SimPort) (expiry : Ticks) : Prop where
  narrow : port.device.width.isNarrow = true
  epoch : Tick.before port.device.tally (expiry &&& port.device.width.epochMask) = true
  interruptEnabled : port.timer.channels.interrupt.interruptEnabled = false

/-- The ways in which arming ends on a port whose captures do not move the counter. -/
inductive Arming (port : SimPort) (line : IrqLine) (expiry : Ticks) : ArmReport × SimPort → Prop where
  | passed (narrow : port.device.width.isNarrow = true)
      (earlier : Tick.before (expiry &&& port.device.width.epochMask) port.device.tally = true) :
      Arming port line expiry (.epochPassed, port.disarm.setPending line)
  | ahead (narrow : port.device.width.isNarrow = true)
      (different : expiry &&& port.device.width.epochMask ≠ port.device.tally)
      (later : Tick.before (expiry &&& port.device.width.epochMask) port.device.tally = false) :
      Arming port line expiry
        (.epochAhead (expiry &&& port.device.width.epochMask), port.disarm)
  | missed (current : port.device.width.isNarrow = true →
        expiry &&& port.device.width.epochMask = port.device.tally)
      (reached : Tick.reached port.tick expiry = true) :
      Arming port line expiry
        (.missed port.tick, (port.disarm.written expiry).taken.setPending line)
  | armed (current : port.device.width.isNarrow = true →
        expiry &&& port.device.width.epochMask = port.device.tally)
      (ahead : Tick.reached port.tick expiry = false) :
      Arming port line expiry (.armed, (port.disarm.written expiry).taken)

/-! ## One branch of arming each -/

theorem Still.arming (still : port.Still) (tallied : port.Tallied) (line : IrqLine)
    (expiry : Ticks) : Arming port line expiry (port.arm line expiry) := by
  rw [still.arm_eq tallied]
  split
  · next otherEpoch =>
    obtain ⟨narrow, different⟩ := Bool.and_eq_true_iff.1 otherEpoch
    split
    · next earlier => exact .passed narrow earlier
    · next later => exact .ahead narrow (bne_iff_ne.1 different) (Bool.eq_false_iff.2 later)
  · next sameEpoch =>
    have current (narrow : port.device.width.isNarrow = true) :
        expiry &&& port.device.width.epochMask = port.device.tally := by
      rw [narrow, Bool.true_and, bne_iff_ne, not_not] at sameEpoch
      exact sameEpoch
    split
    · next reached => exact .missed current reached
    · next ahead => exact .armed current (Bool.eq_false_iff.2 ahead)

/-- With no overflow left to fold, the tick is the tally and the counter. -/
theorem Still.tick_eq (still : port.Still) (tallied : port.Tallied) :
    port.tick = port.device.tally + port.timer.counter := by
  cases narrow : port.device.width.isNarrow with
  | true => simp [tick, narrow, still.folded narrow]
  | false =>
    have bound := port.device.tally.toNat_lt
    have aligned := tallied.aligned
    rw [CounterWidth.states_of_not_narrow narrow, Nat.mod_eq_of_lt bound] at aligned
    have zero : port.device.tally = 0 := UInt32.toNat_inj.1 aligned
    simp [tick, narrow, zero]

/-- A deadline of the current epoch does not lie half a turn away. -/
theorem not_opposite_of_current (current : port.device.width.isNarrow = true →
      expiry &&& port.device.width.epochMask = port.device.tally) : ¬port.OppositeEpoch expiry := by
  rintro ⟨narrow, opposite⟩
  rw [current narrow, UInt32.sub_self] at opposite
  exact absurd opposite (by decide)

namespace Arming

variable {result : ArmReport × SimPort}

theorem device_eq (arming : Arming port line expiry result) : result.2.device = port.device := by
  cases arming <;> rfl

/-- Arming marks the line pending when it reports a deadline late, and leaves the controller alone
otherwise. -/
theorem controller_eq (arming : Arming port line expiry result) :
    result.2.controller =
      if result.1.outcome = .late then port.controller.setPending line else port.controller := by
  cases arming <;> rfl

theorem late_iff (arming : Arming port line expiry result) (still : port.Still)
    (tallied : port.Tallied) :
    result.1.outcome = .late ↔
      Tick.reached (port.device.tally + port.timer.counter) expiry = true ∨
        port.OppositeEpoch expiry := by
  have inside : port.timer.counter.toNat < port.device.width.states :=
    tallied.width ▸ tallied.inRange
  have tick := still.tick_eq tallied
  cases arming with
  | passed narrow earlier =>
    refine ⟨fun _ => ?_, fun _ => rfl⟩
    by_cases half : (expiry &&& port.device.width.epochMask) - port.device.tally = Tick.halfTurn
    · exact .inr ⟨narrow, half⟩
    · exact .inl (Tick.reached_of_earlier_epoch narrow tallied.aligned inside earlier half)
  | ahead narrow different later =>
    have ahead := Tick.not_reached_of_later_epoch narrow tallied.aligned inside different later
    have unlike : ¬port.OppositeEpoch expiry := by
      rintro ⟨-, half⟩
      rw [Tick.before, half] at later
      exact absurd later (by decide)
    rw [ahead]
    exact ⟨fun late => ArmOutcome.noConfusion late,
      fun holds => holds.elim Bool.noConfusion (absurd · unlike)⟩
  | missed current reached => exact ⟨fun _ => .inl (tick ▸ reached), fun _ => rfl⟩
  | armed current ahead =>
    rw [← tick, ahead]
    exact ⟨fun late => ArmOutcome.noConfusion late,
      fun holds => holds.elim Bool.noConfusion (absurd · (not_opposite_of_current current))⟩

theorem comparesWith (arming : Arming port line expiry result) (still : port.Still)
    (tallied : port.Tallied) (armed : result.1.outcome = .armed) :
    result.2.ComparesWith expiry := by
  have kept := (@captured_channels (port.disarm.written expiry) still.unmoved).2.1
  cases arming with
  | passed => exact ArmOutcome.noConfusion armed
  | ahead => exact ArmOutcome.noConfusion armed
  | missed => exact ArmOutcome.noConfusion armed
  | armed current ahead =>
    refine ⟨current, ?_, ?_, ?_⟩
    · rw [kept]
      exact port.disarm.written_compare tallied.width expiry
    · rw [kept]
      rfl
    · rw [kept]
      rfl

theorem defers (arming : Arming port line expiry result) (deferred : result.1.outcome = .deferred) :
    result.2.Defers expiry := by
  cases arming with
  | passed => exact ArmOutcome.noConfusion deferred
  | ahead narrow different later =>
    exact ⟨narrow, Tick.before_of_not_before different later, rfl⟩
  | missed => exact ArmOutcome.noConfusion deferred
  | armed => exact ArmOutcome.noConfusion deferred

/-- In an opposite epoch the compare interrupt is left off, although the deadline may lie ahead. -/
theorem disarmed_of_opposite (arming : Arming port line expiry result)
    (opposite : port.OppositeEpoch expiry) :
    result.2.timer.channels.interrupt.interruptEnabled = false := by
  cases arming with
  | passed => rfl
  | ahead => rfl
  | missed current => exact absurd opposite (not_opposite_of_current current)
  | armed current => exact absurd opposite (not_opposite_of_current current)

end Arming

/-! ## The outcome by the tick -/

/-- A re-arming for a head that lies ahead, and not in the opposite epoch, makes no line pending. -/
theorem Still.rearm_controller (still : port.Still) (tallied : port.Tallied)
    (ahead : ∀ head, port.device.queue.nextExpiry = some head →
      Tick.reached (port.device.tally + port.timer.counter) head = false ∧
        ¬port.OppositeEpoch head) : port.rearm.2.controller = port.controller := by
  unfold Port.rearm
  split
  · next head waits =>
    have arming := still.arming tallied port.device.config.line head
    obtain ⟨ahead, unlike⟩ := ahead head waits
    refine arming.controller_eq.trans (if_neg fun late => ?_)
    have holds := (arming.late_iff still tallied).1 late
    rw [ahead] at holds
    exact holds.elim Bool.noConfusion unlike
  · rfl

/-- Outside the opposite epoch arming goes by whether the tick has reached the deadline: a reached one
is late and makes the line pending, one that lies ahead leaves the controller alone and is armed in its
own epoch and deferred before it. In the opposite epoch every deadline is late. -/
theorem late_iff_reached_or_opposite (still : port.Still) (tallied : port.Tallied) (line : IrqLine)
    (expiry : Ticks) :
    let now := port.device.tally + port.timer.counter
    let outcome := (port.arm line expiry).1.outcome
    let after := (port.arm line expiry).2
    (outcome = .late ↔ Tick.reached now expiry = true ∨ port.OppositeEpoch expiry) ∧
      after.device = port.device ∧
      (outcome = .late → after.controller = port.controller.setPending line ∧
        after.controller.isPending line = true) ∧
      (outcome ≠ .late → after.controller = port.controller) ∧
      (outcome = .armed → after.ComparesWith expiry) ∧
      (outcome = .deferred → after.Defers expiry) ∧
      (port.OppositeEpoch expiry →
        after.timer.channels.interrupt.interruptEnabled = false) ∧
      ((∀ head, port.device.queue.nextExpiry = some head →
          Tick.reached now head = false ∧ ¬port.OppositeEpoch head) →
        port.rearm.2.controller = port.controller) := by
  intro now outcome after
  have arming := still.arming tallied line expiry
  have marks := arming.controller_eq
  refine ⟨arming.late_iff still tallied, arming.device_eq, fun late => ?_, fun timely => ?_,
    arming.comparesWith still tallied, arming.defers, arming.disarmed_of_opposite,
    still.rearm_controller tallied⟩
  · rw [if_pos late] at marks
    exact ⟨marks, marks ▸ Nvic.isPending_setPending_self _ _⟩
  · rw [if_neg timely] at marks
    exact marks

/-- A deadline further on in the third epoch of a 16-bit counter is armed, and the line stays quiet. -/
theorem armed_in_third_epoch :
    let port : SimPort :=
      ⟨{ Device.ofConfig .nrf51Timer1 with tally := 0x30000 },
        { width := .bits16, counter := 0x100 }, {}⟩
    port.Tallied ∧ port.Still ∧ (port.arm 9 0x30200).2.controller = port.controller ∧
      (port.arm 9 0x30200).2.ComparesWith 0x30200 := by
  intro port
  have tallied : port.Tallied := ⟨rfl, by decide, by decide⟩
  have still : port.Still := ⟨rfl, fun _ => rfl⟩
  obtain ⟨-, -, -, leaves, armed, -⟩ := late_iff_reached_or_opposite still tallied 9 0x30200
  have outcome : (port.arm 9 0x30200).1.outcome = .armed := by decide
  exact ⟨tallied, still, leaves (by rw [outcome]; decide), armed outcome⟩

/-- An 8-bit counter at 255 with a deadline less than half a turn ahead, in the opposite epoch. The
handler has nothing to call and yet makes its own line pending again, so it never comes to rest. -/
theorem future_deadline_counts_as_late :
    let port : SimPort :=
      ⟨{ Device.ofConfig ⟨9, defaultPriority, .bits8, sourceFrequency⟩ with
          queue := ⟨[⟨0, 0x80000000⟩]⟩ },
        { width := .bits8, counter := 255 }, {}⟩
    port.Tallied ∧ port.Still ∧
      Tick.reached (port.device.tally + port.timer.counter) 0x80000000 = false ∧
      (port.arm 9 0x80000000).1.outcome = .late ∧
      (port.arm 9 0x80000000).2.controller.isPending 9 = true ∧
      port.takeDue.1 = none ∧ port.rearm.2.controller.isPending 9 = true := by
  intro port
  have tallied : port.Tallied := ⟨rfl, by decide, by decide⟩
  exact ⟨tallied, ⟨rfl, fun _ => rfl⟩, by decide, by decide, by decide, by decide, by decide⟩

end Port

end DeadlineTimers
