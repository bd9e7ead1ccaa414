import DeadlineTimers.Machine.Call

/-!
# Callbacks as programs

A callback is called with the value its timer was attached with, and may make calls of its own. What
it does is a program: a tree that is either finished, or makes a call and goes on according to the
reply. A client gives the program for each call of a callback, and may look at everything that
happened before.
-/

namespace DeadlineTimers

/-- A call of a callback: the timer that fell due on a device of a board, its deadline, the tick that
had been read, and the callback with its value. -/
structure Firing where
  board : BoardId
  device : DeviceId
  timer : TimerId
  expiry : Ticks
  now : Ticks
  callback : CallbackId
  arg : Nat
  deriving DecidableEq

/-- Something that happened: a callback was called, or a call was answered. -/
inductive Event (X : Type) where
  | fired (firing : Firing)
  /-- A call was answered. The caller is the place in the history where the callback that made the
  call was called, or nothing if the user made it. -/
  | answered (caller : Option Nat) (call : Call X) (reply : Reply)
  deriving DecidableEq

/-- What a callback does. -/
inductive Program (X : Type) where
  | finished
  | call (call : Call X) (next : Reply → Program X)

/-- The program that makes calls one after another, whatever their replies. -/
def Program.ofCalls {X : Type} : List (Call X) → Program X
  | [] => .finished
  | first :: rest => .call first fun _ => ofCalls rest

/-- Gives the program of each callback, from what happened before and the call of the callback, which
is the last event. -/
abbrev Client (X : Type) := Array (Event X) → Firing → Program X

/-- What a callback does when called with a certain value: up to a number of times it makes the same
calls, and after that none. -/
structure Script (X : Type) where
  times : Nat
  calls : List (Call X)

/-- Scripts by the value that a callback is called with. -/
abbrev Scripts (X : Type) := List (Nat × Script X)

namespace Scripts

variable {X : Type}

def timesCalled (history : Array (Event X)) (arg : Nat) : Nat :=
  history.countP fun event =>
    match event with
    | .fired firing => firing.arg == arg
    | .answered .. => false

def client (scripts : Scripts X) : Client X := fun history firing =>
  match scripts.lookup firing.arg with
  | some script =>
    if timesCalled history firing.arg ≤ script.times then .ofCalls script.calls else .finished
  | none => .finished

/-- No more than this many calls are made by callbacks that follow scripts. -/
def callBound (scripts : Scripts X) : Nat :=
  scripts.foldl (fun bound (_, script) => bound + script.times * script.calls.length) 0

/-- No more than this many calls of callbacks lead to calls of their own. -/
def runBound (scripts : Scripts X) : Nat :=
  scripts.foldl (fun bound (_, script) => bound + script.times) 0

end Scripts

end DeadlineTimers
