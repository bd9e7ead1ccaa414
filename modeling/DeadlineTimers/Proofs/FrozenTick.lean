import DeadlineTimers.Proofs.HandlerPass

/-!
# A tick that stands still

While captures do not move the counter and no overflow is left to fold, scheduling calls leave the tick
of a device as it is, whichever devices and timers they are for. So all readings agree, and a relative
start of up to half a turn, the half turn included, sets a deadline that the tick has not reached.
-/

namespace DeadlineTimers

/-- A deadline that lies ahead by half a turn or less is not reached. -/
theorem Tick.reached_add_eq_false {now ticks : Ticks} (ahead : 0 < ticks.toNat)
    (half : ticks.toNat ≤ 2 ^ 31) : reached now (now + ticks) = false := by
  rw [reached_eq_false_iff_toNat, UInt32.toNat_add]
  have bound := now.toNat_lt
  omega

namespace Port

open Simulated

/-- A port of which every reading returns the same tick. -/
structure Frozen (now : Ticks) (port : SimPort) : Prop where
  still : port.Still
  reading : port.reading = now

namespace Frozen

variable {now : Ticks} {port : SimPort}

theorem read_eq (frozen : port.Frozen now) (line : IrqLine) : port.read line = (now, port.taken) := by
  rw [frozen.still.read_eq_reading, frozen.reading]

theorem taken (frozen : port.Frozen now) : port.taken.Frozen now :=
  ⟨frozen.still.taken, (reading_taken frozen.still.unmoved).trans frozen.reading⟩

/-- A port that has the same tally, overflow and counter is frozen as well. -/
theorem of_same {port' : SimPort} (frozen : port.Frozen now)
    (device : port'.device.width = port.device.width ∧ port'.device.tally = port.device.tally)
    (timer : port'.timer.autoAdvance = port.timer.autoAdvance ∧
      port'.timer.counter = port.timer.counter ∧
      port'.timer.channels.overflow = port.timer.channels.overflow) : port'.Frozen now := by
  obtain ⟨width, tally⟩ := device
  obtain ⟨unmoved, counter, overflow⟩ := timer
  refine ⟨⟨unmoved.trans frozen.still.unmoved, fun narrow => ?_⟩, ?_⟩
  · rw [overflow]
    exact frozen.still.folded (width ▸ narrow)
  · rw [Port.reading, width, tally, counter]
    exact frozen.reading

theorem withQueue (frozen : port.Frozen now) (queue : DeadlineQueue queueDepth) :
    (port.withQueue queue).Frozen now := frozen.of_same ⟨rfl, rfl⟩ ⟨rfl, rfl, rfl⟩

theorem arm (frozen : port.Frozen now) (line : IrqLine) (expiry : Ticks) :
    (port.arm line expiry).2.Frozen now := by
  have disarmed : port.disarm.Frozen now := frozen.of_same ⟨rfl, rfl⟩ ⟨rfl, rfl, rfl⟩
  have written : (port.disarm.written expiry).Frozen now :=
    frozen.of_same ⟨rfl, rfl⟩ ⟨rfl, rfl, rfl⟩
  rw [Port.arm_eq, program_eq, written.read_eq]
  split
  · split
    · exact disarmed.of_same ⟨rfl, rfl⟩ ⟨rfl, rfl, rfl⟩
    · exact disarmed
  · split
    · exact written.taken.of_same ⟨rfl, rfl⟩ ⟨rfl, rfl, rfl⟩
    · exact written.taken

theorem rearm (frozen : port.Frozen now) : port.rearm.2.Frozen now := by
  unfold Port.rearm
  split
  · exact frozen.arm _ _
  · exact frozen.of_same ⟨rfl, rfl⟩ ⟨rfl, rfl, rfl⟩

theorem enqueued (frozen : port.Frozen now) (expiry : Ticks) (isHead : Bool)
    (queue : DeadlineQueue queueDepth) : (port.enqueued expiry isHead queue).Frozen now := by
  unfold Port.enqueued
  split
  · exact (frozen.withQueue queue).arm _ _
  · exact frozen.withQueue queue

theorem dequeued (frozen : port.Frozen now) (timer : TimerId) : (port.dequeued timer).Frozen now := by
  unfold Port.dequeued
  dsimp only
  split
  · exact (frozen.withQueue _).rearm
  · exact frozen.withQueue _

theorem takeDue (frozen : port.Frozen now) : port.takeDue.2.Frozen now := by
  rw [frozen.still.takeDue_eq]
  exact frozen.taken.withQueue _

end Frozen

end Port

namespace Simulated

open Port

variable {before after : SimScheduler} {id : DeviceId} {timer : TimerId} {now : Ticks}
  {place : Fin maxDevices}

abbrev FrozenAt (place : Fin maxDevices) (now : Ticks) (scheduler : SimScheduler) : Prop :=
  (scheduler.board.portAt place).Frozen now

/-- Working on one device leaves the ticks of the others as they are. -/
theorem frozen_putPort {board : SimBoard} {found : Fin maxDevices} {device : Device} {port : SimPort}
    (located : Located board id found device) (frozen : (board.portAt place).Frozen now)
    (own : (board.port found device).Frozen now → port.Frozen now) :
    ((board.putPort found port).portAt place).Frozen now := by
  by_cases same : place = found
  · subst same
    rw [portAt_putPort_self]
    exact own (located.portAt_eq ▸ frozen)
  · rw [portAt_putPort_of_ne board port same]
    exact frozen.of_same ⟨rfl, rfl⟩ ⟨rfl, rfl, rfl⟩

namespace FrozenAt

theorem tryRead {result : Except TimerError Ticks} (frozen : FrozenAt place now before)
    (did : before.tryRead id = (result, after)) : FrozenAt place now after := by
  rcases tryRead_cases did with ⟨-, -, rfl⟩ | ⟨found, device, located, -, -, board⟩
  · exact frozen
  · rw [FrozenAt, board]
    refine frozen_putPort located frozen fun own => ?_
    rw [own.read_eq]
    exact own.taken

/-- A reading of the device itself returns the tick. -/
theorem eq_of_tryRead {read : Ticks} (frozen : FrozenAt place now before)
    (did : (before.tryRead place.val).1 = .ok read) : read = now := by
  rcases tryRead_cases (Prod.eta _).symm with ⟨_, failed, -⟩ | ⟨found, device, located, read', -, -⟩
  · cases failed.symm.trans did
  · obtain rfl : found = place := Fin.ext located.id
    rw [FrozenAt, located.portAt_eq] at frozen
    rw [did, frozen.read_eq] at read'
    exact Except.ok.inj read'

theorem startAt {expiry : Ticks} {result : Except TimerError Unit} (frozen : FrozenAt place now before)
    (did : before.startAt timer expiry = (result, after)) : FrozenAt place now after := by
  rcases startAt_cases did with ⟨-, -, same⟩ |
    ⟨id, callback, found, device, isHead, queue, -, -, -, located, -, -, -, board⟩
  · rw [FrozenAt, same.board]
    exact frozen
  · rw [FrozenAt, board]
    exact frozen_putPort located frozen fun own => own.enqueued expiry isHead queue

theorem start {ticks : Ticks} {result : Except TimerError Unit} (frozen : FrozenAt place now before)
    (did : before.start timer ticks = (result, after)) : FrozenAt place now after := by
  rcases start_cases did with ⟨-, -, rfl⟩ | ⟨id, read, between, -, tried, started⟩
  · exact frozen
  · exact (frozen.tryRead tried).startAt started

theorem stop {result : Except TimerError Unit} (frozen : FrozenAt place now before)
    (did : before.stop timer = (result, after)) : FrozenAt place now after := by
  rcases stop_cases did with ⟨-, -, rfl⟩ | ⟨-, -, -, rfl⟩ |
    ⟨id, found, device, -, -, located, -, -, board⟩
  · exact frozen
  · exact frozen
  · rw [FrozenAt, board]
    exact frozen_putPort located frozen fun own => own.dequeued timer

theorem attach {callback : CallbackId} {arg : Nat} {result : Except TimerError Unit}
    (frozen : FrozenAt place now before)
    (did : before.attach id timer callback arg = (result, after)) : FrozenAt place now after := by
  rcases attach_cases did with ⟨-, -, rfl⟩ | ⟨found, device, between, -, -, stopped, board, -⟩
  · exact frozen
  · rw [FrozenAt, board]
    exact frozen.stop stopped

theorem takeDue {due : Option Scheduler.DueTimer} (frozen : FrozenAt place now before)
    (did : before.takeDue id = (due, after)) : FrozenAt place now after := by
  rcases takeDue_cases did with ⟨-, -, rfl⟩ | ⟨found, device, located, board, -⟩
  · exact frozen
  · rw [FrozenAt, board]
    exact frozen_putPort located frozen fun own => own.takeDue

end FrozenAt

end Simulated

end DeadlineTimers
