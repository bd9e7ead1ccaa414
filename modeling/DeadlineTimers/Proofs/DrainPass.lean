import DeadlineTimers.Proofs.OnTime

/-!
# A pass of the handler as one draining

The handler never drains a queue. It takes one timer, reads the tick again, takes the next, and arms the
compare when nothing is due any more. If captures do not move the counter and callbacks make no calls, the
readings after the first change nothing, and a pass is what one draining by the tick on entry would be,
for any tally and any latched events, whether or not a run of the scheduler could have led to them.
-/

namespace DeadlineTimers

namespace Port

open Simulated

variable {port : SimPort} {left : DeadlineQueue queueDepth}

/-- Whether an overflow is latched that the tally has to be told of. -/
def overflowed (port : SimPort) : Bool :=
  port.device.width.isNarrow && port.timer.channels.overflow.event

def foldedTally (port : SimPort) : UInt32 :=
  port.device.tally + if port.overflowed then port.device.width.epochSpan else 0

/-- The tick that the handler goes by: a narrow counter extended by the tally with a latched overflow. -/
def handlerTick (port : SimPort) : Ticks :=
  if port.device.width.isNarrow then
    port.foldedTally ||| (port.timer.counter &&& port.device.width.counterMask)
  else port.timer.counter

/-- A port as the handler arms its compare: a latched overflow is folded and the interrupt is counted,
the counter was taken into the read register, and some timers are left. -/
def swept (port : SimPort) (left : DeadlineQueue queueDepth) : SimPort where
  device := { port.device with
    tally := port.foldedTally
    isrs := port.device.isrs + 1
    queue := left }
  timer := { port.timer with channels :=
    { overflow := { port.timer.channels.overflow with
        event := port.timer.channels.overflow.event && !port.device.width.isNarrow }
      read := { port.timer.channels.read with compare := port.timer.counter }
      interrupt := { port.timer.channels.interrupt with event := false } } }
  controller := port.controller

/-- Acknowledging folds a latched overflow once, clears the compare event and counts the interrupt. -/
theorem acknowledged_eq (port : SimPort) : port.acknowledged =
    { port with
      device := { port.device with
        tally := port.foldedTally
        isrs := port.device.isrs + 1 }
      timer := { port.timer with channels := { port.timer.channels with
        overflow := { port.timer.channels.overflow with
          event := port.timer.channels.overflow.event && !port.device.width.isNarrow }
        interrupt := { port.timer.channels.interrupt with event := false } } } } := by
  unfold acknowledged consumeOverflow foldedTally overflowed
  dsimp only
  split
  · next found =>
    change (port.device.width.isNarrow && port.timer.channels.overflow.event) = true at found
    obtain ⟨narrow, latched⟩ := Bool.and_eq_true_iff.1 found
    rw [narrow, latched]
    rfl
  · next none =>
    change ¬(port.device.width.isNarrow && port.timer.channels.overflow.event) = true at none
    rw [if_neg none, UInt32.add_zero]
    have kept : (port.timer.channels.overflow.event && !port.device.width.isNarrow) =
        port.timer.channels.overflow.event := by
      cases latched : port.timer.channels.overflow.event with
      | false => rfl
      | true => simpa [latched] using none
    rw [kept]
    rfl

theorem reading_acknowledged (port : SimPort) : port.acknowledged.reading = port.handlerTick := by
  rw [acknowledged_eq]
  rfl

/-- What is left of an acknowledged port when everything due by a tick was taken. -/
theorem drainedBy_acknowledged (unmoved : port.timer.autoAdvance = 0) (now : Ticks) :
    port.acknowledged.drainedBy now = port.swept (port.device.queue.drainExpired now).2 := by
  have captured := Timer.captured_of_still (still_acknowledged unmoved).unmoved
  rw [drainedBy, taken, captured, acknowledged_eq]
  rfl

theorem still_swept (unmoved : port.timer.autoAdvance = 0) (left : DeadlineQueue queueDepth) :
    (port.swept left).Still := by
  refine ⟨unmoved, fun narrow => ?_⟩
  change port.device.width.isNarrow = true at narrow
  change (port.timer.channels.overflow.event && !port.device.width.isNarrow) = false
  rw [narrow, Bool.not_true, Bool.and_false]

theorem rearm_snd (port : SimPort) : port.rearm.2 =
    match port.device.queue.nextExpiry with
    | some expiry => (port.arm port.device.config.line expiry).2
    | none => port.disarm := by
  unfold Port.rearm
  cases port.device.queue.nextExpiry with
  | none => rfl
  | some expiry => rfl

/-- With nothing left to fold, arming leaves the device as it is. -/
theorem Still.rearm_device (still : port.Still) : port.rearm.2.device = port.device := by
  have written (expiry : Ticks) : Still (port.disarm.written expiry) := ⟨still.unmoved, still.folded⟩
  unfold Port.rearm
  split
  · rw [Port.arm_eq, program_eq, (written _).read_eq_reading]
    dsimp only
    split
    · split
      · rfl
      · rfl
    · split
      · rfl
      · rfl
  · rfl

end Port

namespace Simulated

open Port Run

variable {scheduler : SimScheduler} {place : Fin maxDevices} {device : Device}
  {history : History BoardRequest}

/-- Captures do not move the counter of an enabled device, no timer is in its queue twice, and all have a
callback. Its tally, its latched events and the deadlines in its queue are arbitrary. Then a pass of the
handler with callbacks that make no calls folds a latched overflow, calls the callbacks of exactly those
timers that draining the queue by the tick then takes, in that order and each once, and arms the compare
for the first that is left, or disarms it. It answers their number, which the depth of the queue bounds,
and beside them no timer is touched. -/
theorem interrupt_eq_drain (registered : scheduler.board.devices.get place = some device)
    (enabled : device.enabled = true)
    (unmoved : (scheduler.board.port place device).timer.autoAdvance = 0)
    (distinct : device.queue.Distinct)
    (callable : ∀ entry ∈ device.queue.entries,
      (scheduler.timers.get entry.timer).callback.isSome = true)
    (fits : device.queue.length ≤ queueDepth) (limit depth : Nat) {passes : Nat}
    (enough : queueDepth < passes) :
    let port := scheduler.board.port place device
    let now := port.handlerTick
    let due := (device.queue.drainExpired now).1
    let left := (device.queue.drainExpired now).2
    ∃ after : SimScheduler,
      outcome (interrupt (Run.fire silentClient limit (depth + 1)) passes 0 place)
          (.single scheduler history) =
        (.ok due.length,
          .single after (history ++ due.map (calledFor scheduler.timers place now))) ∧
      due.length ≤ queueDepth ∧ (due.map (·.timer)).Nodup ∧
      (∀ timer, after.timers.get timer = { scheduler.timers.get timer with
        linked := if timer ∈ due.map (·.timer) then false
          else (scheduler.timers.get timer).linked }) ∧
      after.board = scheduler.board.putPort place
        (match left.nextExpiry with
          | some expiry => ((port.swept left).arm device.config.line expiry).2
          | none => (port.swept left).disarm) ∧
      (after.board.portAt place).device = { device with
        tally := port.foldedTally
        isrs := device.isrs + 1
        queue := left } := by
  intro port now due left
  have located : Located scheduler.board place place device := ⟨rfl, registered⟩
  have reading : port.acknowledged.reading = now := port.reading_acknowledged
  have queue : port.acknowledged.device.queue = device.queue := by
    rw [acknowledged_eq]
    rfl
  have swept : port.acknowledged.drainedBy now = port.swept left := drainedBy_acknowledged unmoved now
  have fewer : due.Sublist device.queue.entries := List.takeWhile_sublist _
  have bound : due.length ≤ queueDepth := fewer.length_le.trans fits
  have drains := @interrupt_drains scheduler place device limit depth passes history located enabled
    unmoved
  dsimp only at drains
  rw [reading] at drains
  have ran := drains (fun entry among => callable entry (fewer.subset among)) (bound.trans_lt enough)
  -- What the handler arms is the board with everything due taken.
  let drained := scheduler.drainedBy place port.acknowledged now
  have here : Located drained.board place place (port.swept left).device := by
    refine ⟨rfl, ?_⟩
    simp [drained, SimScheduler.drainedBy, Board.putPort, swept]
  have same : drained.board.port place (port.swept left).device = port.swept left := by
    change (scheduler.board.putPort place (port.acknowledged.drainedBy now)).port place _ = _
    rw [swept, Board.port_putPort_self]
  obtain ⟨timers, board⟩ := finish_of_located here due.length
  rw [same] at board
  have put : (drained.finish place due.length).board =
      scheduler.board.putPort place (port.swept left).rearm.2 :=
    board.trans (putPort_putPort _ _ _ _)
  refine ⟨drained.finish place due.length, ran, bound, distinct.sublist (fewer.map _), ?_, ?_, ?_⟩
  · intro timer
    have unlinked : drained.timers = (due.map (·.timer)).foldl unlink scheduler.timers := by
      change ((port.acknowledged.device.queue.drainExpired now).1.map _).foldl _ _ = _
      rw [queue]
    rw [timers, unlinked, get_foldl_unlink]
  · rw [put, rearm_snd]
    rfl
  · rw [put, portAt_putPort_self, (still_swept unmoved left).rearm_device]
    rfl

/-- With an overflow of a 16-bit counter latched, two timers due and a third one started, a pass of the
handler calls two callbacks and leaves the third timer, in the epoch that has begun. -/
theorem interrupt_drains_after_overflow :
    let attached := (beforeOverflow.attach 1 2 0 9).2
    let started := (attached.start 2 100).2
    let late := (SimScheduler.modifyPeripheral secondPlace (TimerAccess.run · (.advance 20)) started).2
    let called : List (Event BoardRequest) :=
      [.fired ⟨0, 1, 0, 65540, 65550, 0, 7⟩, .fired ⟨0, 1, 1, 65540, 65550, 0, 8⟩]
    (late.board.portAt secondPlace).overflowed = true ∧ ∃ after : SimScheduler,
      outcome (interrupt (Run.fire silentClient 17 1) 17 0 secondPlace) (.single late #[]) =
        (.ok 2, .single after ((#[] : History BoardRequest) ++ called)) ∧
      (after.board.portAt secondPlace).device.tally = 65536 ∧
      (after.board.portAt secondPlace).device.isrs = 1 ∧
      (after.board.queueAt secondPlace).entries = [⟨2, 65630⟩] := by
  intro attached started late called
  let device := (late.board.portAt secondPlace).device
  have registered : late.board.devices.get secondPlace = some device := by decide +kernel
  have enabled : device.enabled = true := by decide +kernel
  have unserved : device.isrs = 0 := by decide +kernel
  have unmoved : (late.board.port secondPlace device).timer.autoAdvance = 0 := by decide +kernel
  have overflowed : (late.board.portAt secondPlace).overflowed = true := by decide +kernel
  have tally : (late.board.port secondPlace device).foldedTally = 65536 := by decide +kernel
  have now : (late.board.port secondPlace device).handlerTick = 65550 := by decide +kernel
  have queue : device.queue.entries = [⟨0, 65540⟩, ⟨1, 65540⟩, ⟨2, 65630⟩] := by decide +kernel
  have callable : ∀ entry ∈ device.queue.entries,
      (late.timers.get entry.timer).callback.isSome = true := by decide +kernel
  have calls : [calledFor late.timers 1 65550 ⟨0, 65540⟩, calledFor late.timers 1 65550 ⟨1, 65540⟩] =
      called := by decide +kernel
  clear_value device late
  have distinct : device.queue.Distinct := by
    rw [DeadlineQueue.Distinct, queue]
    decide
  have fits : device.queue.length ≤ queueDepth := by
    rw [DeadlineQueue.length, queue]
    decide
  have drains : device.queue.drainExpired 65550 =
      ([⟨0, 65540⟩, ⟨1, 65540⟩], ⟨[⟨2, 65630⟩]⟩) := by
    rw [DeadlineQueue.drainExpired, queue]
    decide
  obtain ⟨after, ran, -, -, -, -, kept⟩ := @interrupt_eq_drain late secondPlace device #[] registered
    enabled unmoved distinct callable fits 17 0 17 (by decide)
  rw [now, drains] at ran
  rw [now, drains, tally, unserved] at kept
  refine ⟨overflowed, after, ?_, ?_, ?_, ?_⟩
  · rw [← calls]
    exact ran
  · rw [kept]
  · rw [kept]
    rfl
  · rw [Board.queueAt, kept]

end Simulated

end DeadlineTimers
