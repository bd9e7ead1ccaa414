import DeadlineTimers.Proofs.Reachable

/-!
# The tick is exact

The simulated timer keeps count of the ticks that its counter has moved since it was cleared. While a
device runs, and as long as no overflow of a narrow counter found the event of an earlier one still
latched, the tick is this number modulo `2 ^ 32`. A movement adds to both, and folding an overflow only
moves it from the event to the tally, whoever does it.
-/

namespace DeadlineTimers

namespace Port

open Simulated

/-- No overflow was lost since the counter was cleared: each movement passed zero at most once, and none
did while the event of an earlier overflow was latched. A wide counter has no overflows to lose. -/
def NothingLost (port : SimPort) : Prop :=
  port.device.width.isNarrow = true → port.timer.channels.overflow.missed = 0

/-- Unless an overflow was lost, the tick is the number of ticks since the counter was cleared. -/
def Exact (port : SimPort) : Prop :=
  port.NothingLost → port.tick = UInt32.ofNat port.timer.travelled

variable {port port' : SimPort}

/-! ## Moving -/

theorem tick_of_wide (wide : port.device.width.isNarrow = false) :
    port.tick = port.timer.counter := by
  rw [tick, if_neg (by simp [wide])]

theorem overflow_advance (running : port.Running) (narrow : port.device.width.isNarrow = true)
    (ticks : UInt32) :
    (port.timer.advance ticks).channels.overflow =
      port.timer.channels.overflow.latch
        ((port.timer.counter.toNat + ticks.toNat) / port.device.width.states) := by
  have inside : port.timer.counter.toNat < port.timer.width.states := running.inRange
  have latched := Timer.advance_get_of_running running.counting running.inRange ticks .overflow
  simp only [PerChannel.get] at latched
  rw [ChannelState.arrivals_of_compare_zero (running.watching narrow).1 inside,
    running.width] at latched
  exact latched

theorem tick_advance (running : port.Running) (ticks : UInt32)
    (kept : port.device.width.isNarrow = true →
      (port.timer.advance ticks).channels.overflow.missed =
        port.timer.channels.overflow.missed) :
    tick (port.modifyTimer (·.advance ticks)) = port.tick + ticks := by
  have counter := Timer.advance_counter_toNat running.counting running.inRange ticks
  rw [running.width] at counter
  cases narrow : port.device.width.isNarrow with
  | false =>
    have narrow' : (port.modifyTimer (·.advance ticks)).device.width.isNarrow = false := narrow
    rw [tick_of_wide narrow, tick_of_wide narrow']
    apply UInt32.toNat_inj.1
    rw [CounterWidth.states_of_not_narrow narrow] at counter
    rw [UInt32.toNat_add]
    exact counter
  | true =>
    have narrow' : (port.modifyTimer (·.advance ticks)).device.width.isNarrow = true := narrow
    have kept := kept narrow
    have span := port.device.width.epochSpan_toNat
    have states := CounterWidth.states_lt_of_narrow narrow
    have latched := overflow_advance running narrow ticks
    rw [latched, ChannelState.latch_missed_eq_iff] at kept
    rw [tick, tick, if_pos narrow, if_pos narrow']
    change port.device.tally +
        (if (port.timer.advance ticks).channels.overflow.event = true then
          port.device.width.epochSpan else 0) + (port.timer.advance ticks).counter = _
    rw [latched, ChannelState.latch_event]
    have division := Nat.div_add_mod (port.timer.counter.toNat + ticks.toNat)
      port.device.width.states
    have remainder := Nat.mod_lt (port.timer.counter.toNat + ticks.toNat)
      port.device.width.states_pos
    rcases kept with still | ⟨unlatched, once⟩
    · rw [still, Nat.mul_zero, Nat.zero_add] at division
      have moved : (port.timer.advance ticks).counter = port.timer.counter + ticks := by
        apply UInt32.toNat_inj.1
        rw [counter, UInt32.toNat_add]
        omega
      rw [still, moved, bne_self_eq_false, Bool.or_false]
      ac_rfl
    · rw [once, Nat.mul_one] at division
      have moved : port.device.width.epochSpan + (port.timer.advance ticks).counter =
          port.timer.counter + ticks := by
        apply UInt32.toNat_inj.1
        rw [UInt32.toNat_add, UInt32.toNat_add, counter]
        omega
      rw [once, unlatched, if_pos (by rfl), if_neg (by simp), UInt32.add_zero,
        UInt32.add_assoc, moved, UInt32.add_assoc]

theorem travelled_advance (running : port.Running) (ticks : UInt32) :
    (port.timer.advance ticks).travelled = port.timer.travelled + ticks.toNat := by
  rw [Timer.advance_of_running running.counting running.inRange]

theorem missed_le_advance (timer : Timer) (ticks : UInt32) :
    timer.channels.overflow.missed ≤ (timer.advance ticks).channels.overflow.missed := by
  obtain ⟨count, latched⟩ := timer.advance_get ticks .overflow
  change _ ≤ ((timer.advance ticks).channels.get .overflow).missed
  rw [latched]
  exact ChannelState.missed_le_latch _ _

/-! ## Measuring

What the counter moves the tick moves, unless an overflow is lost on the way.
-/

/-- No overflow of a narrow counter was lost between two ports. -/
def KeepsOverflows (port port' : SimPort) : Prop :=
  port.device.width.isNarrow = true →
    port'.timer.channels.overflow.missed = port.timer.channels.overflow.missed

/-- The tick measures what the counter moved between two ports. -/
structure Measured (port port' : SimPort) : Prop where
  width : port'.device.width = port.device.width
  travelled : port.timer.travelled ≤ port'.timer.travelled
  missed : port.timer.channels.overflow.missed ≤ port'.timer.channels.overflow.missed
  tick : port.KeepsOverflows port' →
    port'.tick = port.tick + UInt32.ofNat (port'.timer.travelled - port.timer.travelled)

namespace Measured

variable {last : SimPort}

/-- A port that shows the same tick with the same instruments. -/
theorem of_same (width : port'.device.width = port.device.width)
    (travelled : port'.timer.travelled = port.timer.travelled)
    (missed : port'.timer.channels.overflow.missed = port.timer.channels.overflow.missed)
    (tick : port'.tick = port.tick) : port.Measured port' where
  width := width
  travelled := travelled.ge
  missed := missed.ge
  tick _ := by
    rw [travelled, Nat.sub_self, tick]
    exact (UInt32.add_zero _).symm

theorem refl (port : SimPort) : port.Measured port := .of_same rfl rfl rfl rfl

theorem trans (first : port.Measured port') (second : port'.Measured last) :
    port.Measured last where
  width := second.width.trans first.width
  travelled := first.travelled.trans second.travelled
  missed := first.missed.trans second.missed
  tick kept := by
    have missed := first.missed
    have missed' := second.missed
    have kept' : port.KeepsOverflows port' ∧ port'.KeepsOverflows last := by
      refine ⟨fun narrow => ?_, fun narrow => ?_⟩
      · have same := kept narrow
        omega
      · rw [first.width] at narrow
        have same := kept narrow
        omega
    rw [second.tick kept'.2, first.tick kept'.1, UInt32.add_assoc, ← UInt32.ofNat_add]
    have travelled := first.travelled
    have travelled' := second.travelled
    congr 2
    omega

theorem advance (running : port.Running) (ticks : UInt32) :
    port.Measured (port.modifyTimer (·.advance ticks)) where
  width := rfl
  travelled := by
    change _ ≤ (port.timer.advance ticks).travelled
    rw [travelled_advance running]
    exact Nat.le_add_right _ _
  missed := missed_le_advance port.timer ticks
  tick kept := by
    rw [tick_advance running ticks kept]
    change _ = port.tick + UInt32.ofNat ((port.timer.advance ticks).travelled - _)
    rw [travelled_advance running, Nat.add_sub_cancel_left, UInt32.ofNat_toNat]

theorem captured (running : port.Running) :
    port.Measured { port with timer := port.timer.captured } :=
  { advance running port.timer.autoAdvance with }

/-- Moving a latched overflow from its event to the tally leaves the tick as it is. -/
theorem foldOverflow (latched : port.timer.channels.overflow.event = true) :
    port.Measured { port with
      device := { port.device with tally := port.device.tally + port.device.width.epochSpan }
      timer := port.timer.modifyChannel .overflow fun state => { state with event := false } } := by
  refine .of_same rfl rfl rfl ?_
  change (if port.device.width.isNarrow = true then
    port.device.tally + port.device.width.epochSpan + (if false = true then
      port.device.width.epochSpan else 0) + port.timer.counter else port.timer.counter) = port.tick
  rw [Port.tick, latched, if_pos rfl, if_neg Bool.false_ne_true, UInt32.add_zero]

theorem aside (aside : port.Aside port') : port.Measured port' := by
  refine .of_same aside.width ?_ ?_ ?_
  · rw [aside.timer]
  · rw [aside.timer]
  · rw [Port.tick, Port.tick, aside.width, aside.tally, aside.timer]

theorem event (running : port.Running) (event : TickEvent port port') : port.Measured port' := by
  cases event with
  | advance ticks => exact advance running ticks
  | read line =>
    rcases read_cases port line with ⟨-, taken⟩ | ⟨-, latched, folded⟩
    · rw [taken]
      exact captured running
    · rw [folded]
      have twice := (captured running).trans (captured running.captured)
      have still : (port.timer.captured.captured.channels.get .overflow).event = true :=
        @Timer.advance_event_of_event port.timer.captured _ .overflow latched
      exact twice.trans ((foldOverflow still).trans (.aside (aside_setPending _ line)))
  | fold =>
    unfold Port.consumeOverflow
    dsimp only
    split
    · next found => exact foldOverflow (Bool.and_eq_true_iff.1 found).2
    · exact .refl port
  | aside aside => exact .aside aside

theorem events (running : port.Running) (events : TickEvents port port') :
    port.Measured port' := by
  induction events with
  | refl => exact .refl port
  | tail earlier last ih => exact ih.trans (event (running.events earlier) last)

end Measured

namespace Exact

theorem measured (exact : port.Exact) (measured : port.Measured port') : port'.Exact := by
  intro nothing
  have missed := measured.missed
  have before : port.NothingLost := fun narrow => by
    have none := nothing (measured.width ▸ narrow)
    omega
  have kept : port.KeepsOverflows port' := fun narrow => by
    rw [before narrow, nothing (measured.width ▸ narrow)]
  rw [measured.tick kept, exact before, ← UInt32.ofNat_add, Nat.add_sub_cancel' measured.travelled]

theorem events (exact : port.Exact) (running : port.Running) (events : TickEvents port port') :
    port'.Exact := exact.measured (.events running events)

theorem launched (port : SimPort) (prescaler : Prescaler) (controller : Nvic) :
    Exact (port.launched prescaler controller) := by
  intro _
  obtain ⟨-, -, zero, none, -, -, watching⟩ := port.launched_timer prescaler controller
  rw [none, tick, zero, UInt32.add_zero]
  cases narrow : port.device.config.width.isNarrow with
  | false =>
    rw [if_neg]
    · rfl
    · rw [Bool.not_eq_true]
      exact narrow
  | true =>
    have width : (port.launched prescaler controller).device.width.isNarrow = true := narrow
    rw [if_pos width, watching narrow]
    rfl

end Exact

end Port

namespace Simulated

open Port

variable {allowed : SimBoard → Request BoardRequest → Prop} {start moment : Moment}
  {place : Fin maxDevices}

theorem Passed.exact (passed : Passed allowed moment) (leaves : LeavesHardware allowed)
    (runs : (moment.scheduler.board.portAt place).device.enabled = true) :
    Exact (moment.scheduler.board.portAt place) := by
  let counted (port : SimPort) : Prop :=
    port.Sound ∧ (port.device.enabled = true → port.Exact)
  have every : counted (moment.scheduler.board.portAt place) := by
    refine passed.atEveryPort leaves ?_ ?_ ?_ place
    · exact fun config => ⟨⟨rfl, fun enabled => Bool.noConfusion enabled⟩,
        fun enabled => Bool.noConfusion enabled⟩
    · exact fun config _ _ _ offered counted => ⟨sound_registered counted.1 config offered,
        fun enabled => Bool.noConfusion enabled⟩
    · rintro port port' move ⟨sound, exact⟩
      refine ⟨move.sound sound, fun enabled => ?_⟩
      cases move with
      | ticks ticks =>
        rw [enabled_eq_of_ticks ticks] at enabled
        exact (exact enabled).events (sound.running enabled) ticks
      | launch prescaler stopped lineEnabled =>
        exact (Exact.launched port prescaler _).events
          (port.running_launched prescaler lineEnabled) (ticks_rearm _)
      | shutDown => exact Bool.noConfusion enabled
  exact every.2 runs

/-- A run during which a device is not stopped. -/
def Uninterrupted (allowed : SimBoard → Request BoardRequest → Prop) (place : Fin maxDevices) :
    Moment → Moment → Prop :=
  Relation.ReflTransGen fun before after =>
    Progress allowed before after ∧ (after.scheduler.board.portAt place).device.enabled = true

theorem Uninterrupted.ticks (uninterrupted : Uninterrupted allowed place start moment)
    (leaves : LeavesHardware allowed)
    (runs : (start.scheduler.board.portAt place).device.enabled = true) :
    TickEvents (start.scheduler.board.portAt place) (moment.scheduler.board.portAt place) := by
  induction uninterrupted with
  | refl => exact .refl
  | @tail before after _ last ih =>
    obtain ⟨progress, enabled⟩ := last
    refine ih.trans ?_
    cases progress with
    | @register scheduler board history changed timer config registers offered =>
      by_cases same : place = changed
      · subst same
        change (board.portAt place).device.enabled = true at enabled
        rw [portAt_registers_self registers] at enabled
        exact Bool.noConfusion enabled
      · change TickEvents (scheduler.board.portAt place) (board.portAt place)
        rw [portAt_registers_of_ne registers same]
    | @move board _ _ wiring move =>
      have moved := (move.ports (leaves board)).ports place
      have ran := (enabled_eq_of_ticks ih).trans runs
      generalize before.scheduler.board.portAt place = port at moved ran ⊢
      generalize after.scheduler.board.portAt place = port' at moved enabled ⊢
      cases moved with
      | ticks ticks => exact ticks
      | launch prescaler stopped lineEnabled =>
        rw [stopped] at ran
        cases ran
      | shutDown => cases enabled

theorem Uninterrupted.passed (uninterrupted : Uninterrupted allowed place start moment)
    (passed : Passed allowed start) : Passed allowed moment := by
  induction uninterrupted with
  | refl => exact passed
  | tail _ last ih => exact ih.progress last.1

/-- From a moment at which a device runs, and for as long as it is not stopped, a reading of its tick at
whatever point of whatever operation returns the number of ticks that the counter has moved since the
device was started, unless an overflow was lost. That number never goes down, and the tally always
counts whole epochs. -/
theorem read_eq_travelled (leaves : LeavesHardware allowed) (passed : Passed allowed start)
    (runs : (start.scheduler.board.portAt place).device.enabled = true)
    (uninterrupted : Uninterrupted allowed place start moment) {port : SimPort}
    (events : TickEvents (moment.scheduler.board.portAt place) port) (line : IrqLine) :
    let reading := port.read line
    reading.2.device.tally.toNat % reading.2.device.width.states = 0 ∧
      (reading.2.NothingLost → reading.1 = UInt32.ofNat reading.2.timer.travelled) ∧
      (start.scheduler.board.portAt place).timer.travelled ≤ reading.2.timer.travelled := by
  intro reading
  have running := (passed.sound leaves place).running runs
  have exact := passed.exact leaves runs
  have before := (uninterrupted.ticks leaves runs).trans events
  have running' := running.events before
  refine ⟨(running'.read line).aligned, fun nothing => ?_, ?_⟩
  · have tick : reading.1 = reading.2.tick := running'.read_eq_tick line
    rw [tick]
    exact exact.events running (before.tail (.read port line)) nothing
  · exact (Measured.events running (before.tail (.read port line))).travelled

/-- After 70000 ticks, and with one overflow still latched, a counter of 16 bits reads 70000. -/
theorem read_after_70000_ticks :
    let started := (nrf51AtRest.init 1 1000000).2
    let moved := (SimScheduler.modifyPeripheral secondPlace (TimerAccess.run · (.advance 70000))
      started).2
    let reading := (moved.board.portAt secondPlace).read 9
    (started.board.portAt secondPlace).device.enabled = true ∧ reading.2.NothingLost ∧
      reading.1 = UInt32.ofNat reading.2.timer.travelled ∧ reading.2.timer.travelled = 70000 := by
  intro started moved reading
  let allowed := Scheduling
  have atRest : Passed allowed ⟨nrf51AtRest, #[], []⟩ :=
    .start DeviceConfig.nrf51 [0, 1, 2] {}
  have init : Answers nrf51AtRest (.init 1 1000000) (.ofUnit (.ok ())) started :=
    .init (Prod.ext rfl rfl)
  have starts : Progress allowed ⟨nrf51AtRest, #[], []⟩
      ⟨started, #[.answered none ⟨0, .init 1 1000000⟩ .done], []⟩ :=
    .move (.refl _) (.answer .user rfl init)
  have moves : Progress allowed ⟨started, #[.answered none ⟨0, .init 1 1000000⟩ .done], []⟩
      ⟨moved, #[.answered none ⟨0, .init 1 1000000⟩ .done,
        .answered none ⟨0, .platform (.access 1 (.advance 70000))⟩ (.reading .nothing)], []⟩ :=
    .move (.refl _) (.answer .user rfl (.access secondPlace rfl))
  have runs : (started.board.portAt secondPlace).device.enabled = true := rfl
  have nothing : reading.2.NothingLost := fun _ => by decide +kernel
  have exact := read_eq_travelled leavesHardware_scheduling (atRest.progress starts) runs
    (.single ⟨moves, rfl⟩) .refl 9
  exact ⟨runs, nothing, exact.2.1 nothing, by decide +kernel⟩

end Simulated

end DeadlineTimers
