import DeadlineTimers.Proofs.ExactTick
import DeadlineTimers.Proofs.HandlerPass

/-!
# Waiting by reading the tick

On a counter that moves at every capture, reading the tick is what makes time go by. A reading moves the
counter once, or twice if it finds an overflow to fold, and as long as a capture moves a narrow counter by
at most half a round no overflow is lost on the way. So the tick goes up with every reading by less than
half a turn, and a wait of up to half a turn can not miss the half turn in which its deadline counts as
reached.
-/

namespace DeadlineTimers

namespace Tick

/-- A deadline counts as reached when it is met or passed by less than half a turn. -/
theorem reached_of_passed {now : Ticks} {ticks moved : Nat} (met : ticks ≤ moved)
    (less : moved - ticks < 2 ^ 31) :
    reached (now + UInt32.ofNat moved) (now + UInt32.ofNat ticks) = true := by
  rw [reached_iff_toNat, UInt32.toNat_add, UInt32.toNat_add, UInt32.toNat_ofNat', UInt32.toNat_ofNat']
  have bound := now.toNat_lt
  omega

/-- A deadline ahead by at most half a turn does not count as reached. -/
theorem not_reached_of_ahead {now : Ticks} {ticks moved : Nat} (ahead : moved < ticks)
    (half : ticks ≤ 2 ^ 31) :
    reached (now + UInt32.ofNat moved) (now + UInt32.ofNat ticks) = false := by
  rw [reached_eq_false_iff_toNat, UInt32.toNat_add, UInt32.toNat_add, UInt32.toNat_ofNat',
    UInt32.toNat_ofNat']
  have bound := now.toNat_lt
  omega

end Tick

namespace Port

open Simulated

variable {port : SimPort} {pace : UInt32}

/-- Each capture moves the counter by some ticks, fewer than half a turn on a wide counter and at most half
a round on a narrow one, of which no overflow waits to be folded. -/
structure Paced (port : SimPort) (pace : UInt32) : Prop where
  autoAdvance : port.timer.autoAdvance = pace
  moves : 1 ≤ pace
  wide : port.device.width.isNarrow = false → pace < Tick.halfTurn
  narrow : port.device.width.isNarrow = true →
    pace ≤ port.device.width.epochSpan / 2 ∧ port.timer.channels.overflow.event = false

namespace Paced

theorem moves_toNat (paced : port.Paced pace) : 1 ≤ pace.toNat :=
  UInt32.le_iff_toNat_le.1 paced.moves

/-- Two captures do not take a narrow counter around more than once. -/
theorem twice_le_states (paced : port.Paced pace) (narrow : port.device.width.isNarrow = true) :
    2 * pace.toNat ≤ port.device.width.states := by
  have half := UInt32.le_iff_toNat_le.1 (paced.narrow narrow).1
  have span := port.device.width.epochSpan_toNat
  have states := CounterWidth.states_lt_of_narrow narrow
  rw [UInt32.toNat_div, span] at half
  change pace.toNat ≤ port.device.width.states % 2 ^ 32 / 2 at half
  omega

theorem wide_toNat (paced : port.Paced pace) (wide : port.device.width.isNarrow = false) :
    pace.toNat < 2 ^ 31 :=
  UInt32.lt_iff_toNat_lt.1 (paced.wide wide)

theorem captured_overflow (paced : port.Paced pace) (running : port.Running)
    (narrow : port.device.width.isNarrow = true) :
    port.timer.captured.channels.overflow = port.timer.channels.overflow.latch
      ((port.timer.counter.toNat + pace.toNat) / port.device.width.states) := by
  rw [Timer.captured_overflow, paced.autoAdvance]
  exact overflow_advance running narrow pace

/-- A capture takes the counter past zero at most once. -/
theorem arrivals_eq_zero_or_one (paced : port.Paced pace) (running : port.Running)
    (narrow : port.device.width.isNarrow = true) :
    (port.timer.counter.toNat + pace.toNat) / port.device.width.states = 0 ∨
      (port.timer.counter.toNat + pace.toNat) / port.device.width.states = 1 := by
  have inside : port.timer.counter.toNat < port.timer.width.states := running.inRange
  have twice := paced.twice_le_states narrow
  rw [running.width] at inside
  rw [← Nat.le_one_iff_eq_zero_or_eq_one, ← Nat.lt_succ_iff,
    Nat.div_lt_iff_lt_mul port.device.width.states_pos]
  omega

/-- A capture loses no overflow. -/
theorem captured_missed (paced : port.Paced pace) (running : port.Running)
    (narrow : port.device.width.isNarrow = true) :
    port.timer.captured.channels.overflow.missed = port.timer.channels.overflow.missed := by
  rw [paced.captured_overflow running narrow, ChannelState.latch_missed_eq_iff]
  exact (paced.arrivals_eq_zero_or_one running narrow).imp_right fun once =>
    ⟨(paced.narrow narrow).2, once⟩

theorem captured_travelled (paced : port.Paced pace) (running : port.Running) :
    port.timer.captured.travelled = port.timer.travelled + pace.toNat := by
  rw [Timer.captured_travelled, paced.autoAdvance, travelled_advance running]

/-- After a capture that latched an overflow the next one does not get to zero. -/
theorem captured_captured_overflow (paced : port.Paced pace) (running : port.Running)
    (narrow : port.device.width.isNarrow = true)
    (latched : port.timer.captured.channels.overflow.event = true) :
    port.timer.captured.captured.channels.overflow = port.timer.captured.channels.overflow := by
  have twice := paced.twice_le_states narrow
  have inside : port.timer.counter.toNat < port.timer.width.states := running.inRange
  have moves := paced.moves_toNat
  rw [paced.captured_overflow running narrow, ChannelState.latch_event, (paced.narrow narrow).2,
    Bool.false_or, bne_iff_ne] at latched
  have once := (paced.arrivals_eq_zero_or_one running narrow).resolve_left latched
  have counter : port.timer.captured.counter.toNat + port.device.width.states =
      port.timer.counter.toNat + pace.toNat := by
    rw [Timer.captured_counter, Timer.advance_counter_toNat running.counting running.inRange,
      paced.autoAdvance, running.width]
    have division := Nat.div_add_mod (port.timer.counter.toNat + pace.toNat) port.device.width.states
    rw [once] at division
    omega
  have none : (port.timer.captured.counter.toNat + pace.toNat) / port.device.width.states = 0 := by
    rw [running.width] at inside
    exact Nat.div_eq_of_lt (by omega)
  rw [Timer.captured_overflow port.timer.captured, Timer.captured_autoAdvance, paced.autoAdvance]
  refine (overflow_advance running.captured narrow pace).trans ?_
  change port.timer.captured.channels.overflow.latch _ = _
  rw [none, ChannelState.latch_zero]

end Paced

/-- What a reading does to a counter that moves at every capture: it moves it by the ticks of one capture or
of two, fewer than half a turn, and the tick by as much. -/
structure Paces (pace : UInt32) (port port' : SimPort) (moved : Nat) : Prop where
  paced : port'.Paced pace
  least : pace.toNat ≤ moved
  most : moved ≤ 2 * pace.toNat
  less : moved < 2 ^ 31
  travelled : port'.timer.travelled = port.timer.travelled + moved
  tick : port'.tick = port.tick + UInt32.ofNat moved

theorem Paced.read (paced : port.Paced pace) (running : port.Running) (line : IrqLine) :
    ∃ moved, Paces pace port (port.read line).2 moved := by
  have measured := Measured.event running (.read port line)
  rcases read_cases port line with ⟨unlatched, taken⟩ | ⟨narrow, latched, folded⟩
  · rw [taken] at measured ⊢
    have travelled := paced.captured_travelled running
    refine ⟨pace.toNat, ⟨?_, paced.moves, paced.wide, fun narrow => ⟨(paced.narrow narrow).1,
      unlatched narrow⟩⟩, le_rfl, by omega, ?_, travelled, ?_⟩
    · exact (Timer.captured_autoAdvance _).trans paced.autoAdvance
    · cases narrow : port.device.width.isNarrow with
      | false => exact paced.wide_toNat narrow
      | true =>
        have twice := paced.twice_le_states narrow
        have states := CounterWidth.states_lt_of_narrow narrow
        omega
    · rw [measured.tick fun narrow => paced.captured_missed running narrow]
      change _ + UInt32.ofNat (port.timer.captured.travelled - _) = _
      rw [travelled, Nat.add_sub_cancel_left]
  · rw [folded] at measured ⊢
    have again := paced.captured_captured_overflow running narrow latched
    have travelled : (port.folded line).timer.travelled = port.timer.travelled + 2 * pace.toNat := by
      change port.timer.captured.captured.travelled = _
      rw [Timer.captured_travelled port.timer.captured, travelled_advance running.captured]
      change port.timer.captured.travelled + port.timer.captured.autoAdvance.toNat = _
      rw [paced.captured_travelled running, Timer.captured_autoAdvance, paced.autoAdvance]
      omega
    have kept : port.KeepsOverflows (port.folded line) := fun _ => by
      change port.timer.captured.captured.channels.overflow.missed = _
      rw [again]
      exact paced.captured_missed running narrow
    have twice := paced.twice_le_states narrow
    have states := CounterWidth.states_lt_of_narrow narrow
    refine ⟨2 * pace.toNat, ⟨?_, paced.moves, paced.wide, fun _ => ⟨(paced.narrow narrow).1, rfl⟩⟩,
      by omega, le_rfl, by omega, travelled, ?_⟩
    · change port.timer.captured.captured.autoAdvance = pace
      rw [Timer.captured_autoAdvance, Timer.captured_autoAdvance, paced.autoAdvance]
    · rw [measured.tick kept, travelled, Nat.add_sub_cancel_left]

end Port

namespace Simulated

open Port

variable {scheduler : SimScheduler} {place : Fin maxDevices} {device : Device} {pace : UInt32}

/-- A registered device runs on a counter that moves at every capture. -/
structure PacedAt (place : Fin maxDevices) (pace : UInt32) (scheduler : SimScheduler) : Prop where
  registered : ∃ device, Located scheduler.board place place device
  running : (scheduler.board.portAt place).Running
  paced : (scheduler.board.portAt place).Paced pace

/-- A reading of the device answers the tick that it leaves. -/
theorem PacedAt.read (ready : PacedAt place pace scheduler) :
    ∃ moved next, scheduler.read place = (.ok (next.board.portAt place).tick, next) ∧
      PacedAt place pace next ∧
      Paces pace (scheduler.board.portAt place) (next.board.portAt place) moved := by
  obtain ⟨device, located⟩ := ready.registered
  let reading := (scheduler.board.portAt place).read (scheduler.board.portAt place).device.config.line
  let next := { scheduler with board := scheduler.board.putPort place reading.2 }
  have after : next.board.portAt place = reading.2 := portAt_putPort_self _ _ _
  obtain ⟨moved, paces⟩ := ready.paced.read ready.running
    (scheduler.board.portAt place).device.config.line
  refine ⟨moved, next, ?_, ⟨⟨reading.2.device, ?_⟩, ?_, ?_⟩, ?_⟩
  · have tick : reading.1 = reading.2.tick := ready.running.read_eq_tick _
    rw [after, ← tick, Scheduler.read, Scheduler.tryRead, onPort_of_located located,
      ← located.portAt_eq]
  · exact located_of_locate (Board.locate_putPort_self _ _ _)
  · rw [after]
    exact ready.running.read _
  · rw [after]
    exact paces.paced
  · rw [after]
    exact paces

/-- With more readings to go than ticks, the deadline is met, and passed by less than two captures. The
induction is on the readings, each of which takes the counter nearer to the deadline. -/
theorem PacedAt.spin {reads ticks : Nat} (ready : PacedAt place pace scheduler)
    (half : ticks ≤ 2 ^ 31) (enough : ticks < reads) :
    ∃ after, scheduler.spin place ((scheduler.board.portAt place).tick + UInt32.ofNat ticks) reads =
        (.ok (), after) ∧
      (scheduler.board.portAt place).timer.travelled + ticks ≤
        (after.board.portAt place).timer.travelled ∧
      (after.board.portAt place).timer.travelled ≤
        (scheduler.board.portAt place).timer.travelled + ticks + 2 * pace.toNat := by
  induction reads generalizing scheduler ticks with
  | zero => omega
  | succ reads ih =>
    obtain ⟨moved, next, read, ready', paces⟩ := ready.read
    have travelled := paces.travelled
    have most := paces.most
    have less := paces.less
    rw [Scheduler.spin, read]
    dsimp only
    rw [paces.tick]
    by_cases met : ticks ≤ moved
    · rw [Tick.reached_of_passed met (by omega), if_pos rfl]
      exact ⟨next, rfl, by omega, by omega⟩
    · have nearer : 1 ≤ moved := ready.paced.moves_toNat.trans paces.least
      have deadline : (scheduler.board.portAt place).tick + UInt32.ofNat ticks =
          (next.board.portAt place).tick + UInt32.ofNat (ticks - moved) := by
        rw [paces.tick, UInt32.add_assoc, ← UInt32.ofNat_add]
        congr 2
        omega
      rw [Tick.not_reached_of_ahead (by omega) half, if_neg Bool.false_ne_true, deadline]
      have left : ticks - moved ≤ 2 ^ 31 := by omega
      obtain ⟨after, ends, atLeast, atMost⟩ := ih ready' left (by omega)
      exact ⟨after, ends, by omega, by omega⟩

/-- A wait of at most half a turn ends, and between its first reading and its end the counter moves by at
least as many ticks as were asked for, and by at most the ticks of two captures more. -/
theorem delay_waits {ticks : Ticks} (located : Located scheduler.board place place device)
    (running : (scheduler.board.portAt place).Running)
    (paced : (scheduler.board.portAt place).Paced pace) (half : ticks ≤ Tick.halfTurn) :
    ∃ after, scheduler.delay place ticks = (.ok (), after) ∧
      let first := ((scheduler.read place).2.board.portAt place).timer.travelled
      let last := (after.board.portAt place).timer.travelled
      first + ticks.toNat ≤ last ∧ last ≤ first + ticks.toNat + 2 * pace.toNat := by
  have ready : PacedAt place pace scheduler := ⟨⟨device, located⟩, running, paced⟩
  have half : ticks.toNat ≤ 2 ^ 31 := UInt32.le_iff_toNat_le.1 half
  obtain ⟨-, next, read, ready', -⟩ := ready.read
  have enough : ticks.toNat < Scheduler.spinLimit := lt_of_le_of_lt half (by decide)
  obtain ⟨after, ends, atLeast, atMost⟩ := ready'.spin half enough
  rw [UInt32.ofNat_toNat] at ends
  refine ⟨after, ?_, ?_⟩
  · rw [Scheduler.delay, read]
    exact ends
  · rw [read]
    exact ⟨atLeast, atMost⟩

/-- A wait of half a turn on a counter of 16 bits that every capture moves by half a round. -/
theorem delay_half_turn :
    let started := (nrf51AtRest.init 1 1000000).2
    let paced := (SimScheduler.modifyPeripheral secondPlace
      (TimerAccess.run · (.setAutoAdvance 0x8000)) started).2
    (paced.board.portAt secondPlace).Running ∧ (paced.board.portAt secondPlace).Paced 0x8000 ∧
      ∃ after, paced.delay secondPlace Tick.halfTurn = (.ok (), after) ∧
        ((paced.read secondPlace).2.board.portAt secondPlace).timer.travelled + 2 ^ 31 ≤
          (after.board.portAt secondPlace).timer.travelled := by
  intro started paced
  have atRest : Passed Scheduling ⟨nrf51AtRest, #[], []⟩ :=
    .start DeviceConfig.nrf51 [0, 1, 2] {}
  have init : Answers nrf51AtRest (.init 1 1000000) (.ofUnit (.ok ())) started :=
    .init (Prod.ext rfl rfl)
  have starts : Progress Scheduling ⟨nrf51AtRest, #[], []⟩
      ⟨started, #[.answered none ⟨0, .init 1 1000000⟩ .done], []⟩ :=
    .move (.refl _) (.answer .user rfl init)
  have moves : Progress Scheduling ⟨started, #[.answered none ⟨0, .init 1 1000000⟩ .done], []⟩
      ⟨paced, #[.answered none ⟨0, .init 1 1000000⟩ .done,
        .answered none ⟨0, .platform (.access 1 (.setAutoAdvance 0x8000))⟩ (.reading .nothing)],
        []⟩ :=
    .move (.refl _) (.answer .user rfl (.access secondPlace rfl))
  have sound := ((atRest.progress starts).progress moves).sound leavesHardware_scheduling secondPlace
  have running := sound.running (by decide +kernel)
  have pace : (paced.board.portAt secondPlace).Paced 0x8000 :=
    ⟨by decide +kernel, by decide, by decide +kernel, by decide +kernel⟩
  have located : Located paced.board secondPlace secondPlace
      (paced.board.portAt secondPlace).device := ⟨rfl, by decide +kernel⟩
  obtain ⟨after, ends, atLeast, -⟩ := delay_waits located running pace (UInt32.le_refl _)
  exact ⟨running, pace, after, ends, atLeast⟩

end Simulated

end DeadlineTimers
