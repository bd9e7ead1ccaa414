import DeadlineTimers.Fault
import DeadlineTimers.Scheduler.Board
import DeadlineTimers.Scheduler.Message

/-!
# The scheduler

A scheduler is a board, the software timers and the logger. Each operation takes a scheduler to an
answer and the next scheduler, and here are those that take no part in calling callbacks: bringing
devices up and down, attaching, starting and stopping timers, and asking questions. An operation
whose argument is rejected leaves the scheduler as it was, the log apart; only a relative start that
fails after it has read the tick keeps the effect of the reading.
-/

namespace DeadlineTimers

open Log (Logger)

/-- A board, the software timers, and the logger. -/
structure Scheduler (R C K : Type) where
  board : Board R C K
  timers : TimerTable
  logger : Logger

namespace Scheduler

variable {R C K : Type}

def note (scheduler : Scheduler R C K) (message : Message) : Scheduler R C K :=
  { scheduler with logger := scheduler.logger.note message }

def noteArming (scheduler : Scheduler R C K) (expiry : Ticks) (report : ArmReport) :
    Scheduler R C K :=
  { scheduler with logger := scheduler.logger.noteArming expiry report }

def noteRearming (scheduler : Scheduler R C K) (rearmed : Option (Ticks × ArmReport)) :
    Scheduler R C K :=
  match rearmed with
  | some (expiry, report) => scheduler.noteArming expiry report
  | none => scheduler

def putPort (scheduler : Scheduler R C K) (place : Fin maxDevices) (port : Port R C) :
    Scheduler R C K :=
  { scheduler with board := scheduler.board.putPort place port }

def onPort {α : Type} (scheduler : Scheduler R C K) (id : DeviceId)
    (operation : Port R C → α × Port R C) : Except TimerError α × Scheduler R C K :=
  let (answer, board) := scheduler.board.onPort id operation
  (answer, { scheduler with board })

def register (scheduler : Scheduler R C K) (id : DeviceId) (timer : R) (config : DeviceConfig) :
    Except TimerError Unit × Scheduler R C K :=
  let (answer, board) := scheduler.board.register id timer config
  (answer, { scheduler with board })

def registerInPlace (scheduler : Scheduler R C K) (id : DeviceId) (config : DeviceConfig) :
    Except TimerError Unit × Scheduler R C K :=
  let (answer, board) := scheduler.board.registerInPlace id config
  (answer, { scheduler with board })

/-! ## Questions -/

/-- The tick frequency of a device that runs, in Hz. -/
def frequency (scheduler : Scheduler R C K) (id : DeviceId) : Except TimerError Nat := do
  let (_, device) ← scheduler.board.locate id
  if device.enabled then pure device.frequency else throw (.invalid .notEnabled)

/-- The length of a tick of a device that runs, in whole nanoseconds. -/
def resolution (scheduler : Scheduler R C K) (id : DeviceId) :
    Except Fault (Except TimerError Nat) :=
  match scheduler.frequency id with
  | .error error => .ok (.error error)
  | .ok frequency =>
    match periodNanoseconds? frequency with
    | some period => .ok (.ok period)
    | none => .error .divisionByZero

/-- Tests whether a device is registered and runs. -/
def isEnabled (scheduler : Scheduler R C K) (id : DeviceId) : Bool :=
  match scheduler.board.locate id with
  | .ok (_, device) => device.enabled
  | .error _ => false

def isrCount (scheduler : Scheduler R C K) (id : DeviceId) : Except TimerError UInt32 :=
  (scheduler.board.locate id).map fun (_, device) => device.isrs

def nextDeadline (scheduler : Scheduler R C K) (id : DeviceId) :
    Except TimerError (Option Ticks) :=
  (scheduler.board.locate id).map fun (_, device) => device.queue.nextExpiry

def pending (scheduler : Scheduler R C K) (id : DeviceId) : Except TimerError Nat :=
  (scheduler.board.locate id).map fun (_, device) => device.queue.length

variable [TimerPeripheral R] [InterruptController C]

/-! ## The tick -/

def tryRead (scheduler : Scheduler R C K) (id : DeviceId) :
    Except TimerError Ticks × Scheduler R C K :=
  scheduler.onPort id fun port => port.read port.device.config.line

/-- Reads the tick of a device that is known to be registered. -/
def read (scheduler : Scheduler R C K) (id : DeviceId) : Except Fault Ticks × Scheduler R C K :=
  match scheduler.tryRead id with
  | (.ok now, scheduler) => (.ok now, scheduler)
  | (.error error, scheduler) => (.error (.readOf id error), scheduler)

/-- Reads the tick until it has reached a deadline, at most a given number of times. -/
def spin (scheduler : Scheduler R C K) (id : DeviceId) (deadline : Ticks) :
    Nat → Except Fault Unit × Scheduler R C K
  | 0 => (.error .stalled, scheduler)
  | reads + 1 =>
    match scheduler.read id with
    | (.error fault, scheduler) => (.error fault, scheduler)
    | (.ok now, scheduler) =>
      if Tick.reached now deadline then (.ok (), scheduler)
      else spin scheduler id deadline reads

/-- More readings than a counter, its tally and a latched overflow have states together, so a wait
that has not ended by then never ends. -/
def spinLimit : Nat := 1 <<< 34

def delay (scheduler : Scheduler R C K) (id : DeviceId) (ticks : Ticks) :
    Except Fault Unit × Scheduler R C K :=
  match scheduler.read id with
  | (.error fault, scheduler) => (.error fault, scheduler)
  | (.ok now, scheduler) => scheduler.spin id (now + ticks) spinLimit

/-! ## Devices -/

/-- Starts a device at about the requested frequency. Timers that were queued while it stood still
are armed. -/
def init [ClockSource K] (scheduler : Scheduler R C K) (id : DeviceId) (request : Nat) :
    Except Fault (Except TimerError Unit) × Scheduler R C K :=
  match scheduler.board.locate id with
  | .error error => (.ok (.error error), scheduler)
  | .ok (place, device) =>
    if device.enabled then (.ok (.error (.invalid .alreadyEnabled)), scheduler)
    else
      let config := device.config
      match Prescaler.select config.maxFrequency request with
      | .error error => (.ok (.error error), scheduler)
      | .ok prescaler =>
        match ClockSource.ensureReady scheduler.board.clock with
        | none => (.error .stalled, scheduler)
        | some (crystalStarted, clock) =>
          let scheduler := { scheduler with board := { scheduler.board with clock } }
          let scheduler := if crystalStarted then scheduler.note .crystalStarted else scheduler
          let port := (scheduler.board.port place device).bringUp prescaler
          match InterruptController.install port.controller config.line config.priority id with
          | none => (.error (.lineOutOfRange config.line), scheduler.putPort place port)
          | some installed =>
            let port := { port with controller := installed }
            match InterruptController.enable installed config.line with
            | none => (.error (.lineOutOfRange config.line), scheduler.putPort place port)
            | some controller =>
              let enabled := { port with
                controller
                device := { port.device with enabled := true } }
              let (rearmed, port) := enabled.rearm
              (.ok (.ok ()), ((scheduler.putPort place port).noteRearming rearmed).note
                (.running id config prescaler))

/-- Stops a device. Timers that wait on it stay queued, and are due once it runs again. -/
def deinit (scheduler : Scheduler R C K) (id : DeviceId) :
    Except TimerError Unit × Scheduler R C K :=
  match scheduler.board.locate id with
  | .error error => (.error error, scheduler)
  | .ok (place, device) =>
    let stopped := scheduler.putPort place (scheduler.board.port place device).shutDown
    if device.queue.isEmpty then (.ok (), stopped)
    else (.ok (), stopped.note (.stoppedWith id device.queue.length))

/-! ## Timers -/

/-- Queues a timer for a deadline. If it becomes the head of a device that runs, the compare is armed
for it; a deadline that has been reached is then due at the next interrupt. -/
def startAt (scheduler : Scheduler R C K) (timer : TimerId) (expiry : Ticks) :
    Except TimerError Unit × Scheduler R C K :=
  let slot := scheduler.timers.get timer
  if slot.linked then (.error (.invalid .timerPending), scheduler)
  else if slot.callback.isNone then (.error (.invalid .noCallback), scheduler)
  else
    match slot.device with
    | none => (.error (.invalid .notAttached), scheduler)
    | some id =>
      match scheduler.board.locate id with
      | .error error => (.error error, scheduler)
      | .ok (place, device) =>
        match device.queue.insert timer expiry with
        | .error error => (.error error, scheduler.note (.notQueued id expiry error))
        | .ok (isHead, queue) =>
          let port := scheduler.board.port place { device with queue }
          let queued := { scheduler with
            timers := scheduler.timers.set timer { slot with expiry, linked := true } }
          let queued := queued.note (.started id expiry queue.length)
          if isHead && device.enabled then
            let (report, port) := port.arm device.config.line expiry
            (.ok (), ((queued.putPort place port).noteArming expiry report).note
              (.newHead id expiry report.outcome))
          else (.ok (), queued.putPort place port)

/-- Queues a timer for the given number of ticks from now. -/
def start (scheduler : Scheduler R C K) (timer : TimerId) (ticks : Ticks) :
    Except TimerError Unit × Scheduler R C K :=
  if ticks = 0 then (.error (.invalid .zeroTicks), scheduler)
  else
    match (scheduler.timers.get timer).device with
    | none => (.error (.invalid .notAttached), scheduler)
    | some id =>
      match scheduler.tryRead id with
      | (.error error, scheduler) => (.error error, scheduler)
      | (.ok now, scheduler) => scheduler.startAt timer (now + ticks)

/-- Takes a timer out of its queue; a timer that does not wait is left alone. If it was the head of a
device that runs, the compare is armed for the next deadline. -/
def stop (scheduler : Scheduler R C K) (timer : TimerId) :
    Except TimerError Unit × Scheduler R C K :=
  let slot := scheduler.timers.get timer
  if !slot.linked then (.ok (), scheduler)
  else
    match slot.device with
    | none => (.error (.invalid .notAttached), scheduler)
    | some id =>
      match scheduler.board.locate id with
      | .error error => (.error error, scheduler)
      | .ok (place, device) =>
        let (entry, queue) := device.queue.remove timer
        let port := scheduler.board.port place { device with queue }
        let unlinked := { scheduler with
          timers := scheduler.timers.set timer { slot with linked := false } }
        let unlinked := if entry.isNone then unlinked.note (.strayTimer id) else unlinked
        let unlinked := unlinked.note (.stopped id slot.expiry)
        if device.queue.isHead timer then
          let owner := queue.peekEarliest.map fun head => (unlinked.timers.get head.timer).device
          let checked :=
            match owner with
            | some owner =>
              if owner = some id then unlinked else unlinked.note (.foreignHead id owner)
            | none => unlinked
          if device.enabled then
            let (rearmed, port) := port.rearm
            (.ok (), (checked.putPort place port).noteRearming rearmed)
          else (.ok (), checked.putPort place port)
        else (.ok (), unlinked.putPort place port)

/-- Attaches a timer to a device, with a callback and the value to hand to it. A timer that waits is
stopped first. -/
def attach (scheduler : Scheduler R C K) (id : DeviceId) (timer : TimerId)
    (callback : CallbackId) (arg : Nat) : Except TimerError Unit × Scheduler R C K :=
  match scheduler.board.locate id with
  | .error error => (.error error, scheduler)
  | .ok _ =>
    match scheduler.stop timer with
    | (.error error, scheduler) => (.error error, scheduler)
    | (.ok (), scheduler) =>
      let timers := scheduler.timers.modify timer fun slot =>
        { slot with callback := some callback, arg, device := some id, linked := false }
      (.ok (), { scheduler with timers })

end Scheduler

end DeadlineTimers
