import DeadlineTimers.Machine.Basic

/-!
# Running a machine

The handler of an interrupt calls callbacks, callbacks make calls, and some calls run a handler
again. The knot is untied by parameters: `dispatch`, `interrupt` and `perform` are told how to call a
callback, and `fire`, which does call one, nests to a given depth only. A dispatch likewise goes
through its loop a given number of times. A run that would go beyond either bound ends in a fault;
from boards at rest, callbacks that follow scripts stay within `Bounds.ofScripts`.
-/

namespace DeadlineTimers

/-- The requests that a kind of platform adds. They may run the handler of a device, for which the
first argument stands. -/
class Platform (R C K : Type) (X : outParam Type) where
  perform : (BoardId → DeviceId → Run R C K X Nat) → BoardId → X → Run R C K X Reply

/-- How far a run goes before it counts as endless. -/
structure Bounds where
  /-- Passes of one dispatch, the last of which finds nothing due. -/
  dispatch : Nat
  /-- Callbacks that are called inside one another. -/
  depth : Nat

/-- Bounds that are wide enough for a number of boards and callbacks that follow scripts: each pass of
a dispatch takes a timer off a queue, which was there before or was put there by a callback, and each
callback inside another was called by one that made calls. -/
def Bounds.ofScripts {X : Type} (boards : Nat) (scripts : Scripts X) : Bounds where
  dispatch := queueDepth * maxDevices * boards + scripts.callBound + 2
  depth := scripts.runBound + 2

namespace Run

variable {R C K X : Type} [TimerPeripheral R] [InterruptController C]

/-- Takes due timers off the queue of a device and calls their callbacks until the head lies ahead, in
at most a given number of passes. Answers how many callbacks were called. -/
def dispatch (fire : Firing → Run R C K X Unit) (board : BoardId) (id : DeviceId) :
    Nat → Run R C K X Nat
  | 0 => throw .stalled
  | limit + 1 => do
    match ← onBoard board (·.takeDue id) with
    | none => pure 0
    | some ⟨_, _, none⟩ => dispatch fire board id limit
    | some ⟨entry, now, some (callback, arg)⟩ =>
      fire ⟨board, id, entry.timer, entry.expiry, now, callback, arg⟩
      let others ← dispatch fire board id limit
      pure (others + 1)

/-- Handles an interrupt of a device, and answers how many callbacks were called. -/
def interrupt (fire : Firing → Run R C K X Unit) (limit : Nat) (board : BoardId)
    (id : DeviceId) : Run R C K X Nat := do
  if ← onBoard board (·.acknowledge id) then
    let fired ← dispatch fire board id limit
    onBoard board fun scheduler => ((), scheduler.finish id fired)
    pure fired
  else pure 0

variable [ClockSource K] [Platform R C K X]

def perform (fire : Firing → Run R C K X Unit) (limit : Nat) (call : Call X) :
    Run R C K X Reply :=
  let board := call.board
  match call.request with
  | .init id frequency => Reply.ofUnit <$> onBoardOrFault board (·.init id frequency)
  | .deinit id => Reply.ofUnit <$> onBoard board (·.deinit id)
  | .attach id timer callback arg =>
    Reply.ofUnit <$> onBoard board (·.attach id timer callback arg)
  | .start timer ticks => Reply.ofUnit <$> onBoard board (·.start timer ticks)
  | .startAt timer expiry => Reply.ofUnit <$> onBoard board (·.startAt timer expiry)
  | .stop timer => Reply.ofUnit <$> onBoard board (·.stop timer)
  | .read id => (fun now => .number now.toNat) <$> onBoardOrFault board (·.read id)
  | .tryRead id =>
    Reply.ofExcept (fun now => .number now.toNat) <$> onBoard board (·.tryRead id)
  | .delay id ticks => (fun _ => .done) <$> onBoardOrFault board (·.delay id ticks)
  | .resolution id =>
    Reply.ofExcept .number <$> onBoardOrFault board fun scheduler =>
      (scheduler.resolution id, scheduler)
  | .frequency id => Reply.ofExcept .number <$> ask board (·.frequency id)
  | .isrCount id =>
    Reply.ofExcept (fun count => .number count.toNat) <$> ask board (·.isrCount id)
  | .pending id => Reply.ofExcept .number <$> ask board (·.pending id)
  | .isEnabled id => .flag <$> ask board (·.isEnabled id)
  | .nextDeadline id =>
    Reply.ofExcept (fun expiry => .maybe (expiry.map (·.toNat))) <$>
      ask board (·.nextDeadline id)
  | .interrupt id => .number <$> interrupt fire limit board id
  | .timer timer => .timer <$> ask board (·.timers.get timer)
  | .platform request => Platform.perform (interrupt fire limit) board request

/-- Runs the program of a callback that was called at some place in the history. -/
def runProgram (fire : Firing → Run R C K X Unit) (limit : Nat) (caller : Nat) :
    Program X → Run R C K X Unit
  | .finished => pure ()
  | .call call next => do
    let reply ← perform fire limit call
    note (.answered (some caller) call reply)
    runProgram fire limit caller (next reply)

/-- Calls a callback, with at most a given number of callbacks inside one another. -/
def fire (client : Client X) (limit : Nat) : Nat → Firing → Run R C K X Unit
  | 0, _ => throw .stalled
  | depth + 1, firing => do
    note (.fired firing)
    let history := (← get).history
    runProgram (fire client limit depth) limit (history.size - 1) (client history firing)

/-- Registers a device for the hardware timer that the user hands over. -/
def register (board : BoardId) (id : DeviceId) (timer : R) (config : DeviceConfig) :
    Run R C K X Reply :=
  Reply.ofUnit <$> onBoard board (·.register id timer config)

def execute (client : Client X) (bounds : Bounds) : Command X → Run R C K X Reply
  | .call call => do
    let reply ← perform (fire client bounds.dispatch bounds.depth) bounds.dispatch call
    note (.answered none call reply)
    pure reply
  | .register board id config => Reply.ofUnit <$> onBoard board (·.registerInPlace id config)

end Run

end DeadlineTimers
