import DeadlineTimers.Config
import DeadlineTimers.Error
import DeadlineTimers.Tick

/-!
# Deadline queues

The timers that wait on one device, earliest deadline first. Deadlines are compared by their
wrapping difference, a timer goes behind those with the same deadline, and a queue holds a timer
at most once and never more timers than its capacity.
-/

namespace DeadlineTimers

/-- A waiting timer and the deadline it was queued with. -/
structure QueueEntry where
  timer : TimerId
  expiry : Ticks
  deriving DecidableEq

/-- Waiting timers in the order in which they fall due. -/
structure DeadlineQueue (capacity : Nat) where
  entries : List QueueEntry := []
  deriving DecidableEq

namespace DeadlineQueue

variable {capacity : Nat}

def empty : DeadlineQueue capacity := {}

def length (queue : DeadlineQueue capacity) : Nat := queue.entries.length

def isEmpty (queue : DeadlineQueue capacity) : Bool := queue.entries.isEmpty

def contains (queue : DeadlineQueue capacity) (timer : TimerId) : Bool :=
  queue.entries.any (·.timer == timer)

def peekEarliest (queue : DeadlineQueue capacity) : Option QueueEntry := queue.entries.head?

def nextExpiry (queue : DeadlineQueue capacity) : Option Ticks :=
  queue.peekEarliest.map (·.expiry)

def isHead (queue : DeadlineQueue capacity) (timer : TimerId) : Bool :=
  queue.peekEarliest.any (·.timer == timer)

/-- Queues a timer in front of the first entry with a strictly later deadline. Also tells whether
it became the head. -/
def insert (queue : DeadlineQueue capacity) (timer : TimerId) (expiry : Ticks) :
    Except TimerError (Bool × DeadlineQueue capacity) :=
  if queue.contains timer then .error (.invalid .timerPending)
  else if capacity ≤ queue.length then .error .queueFull
  else
    let stays : QueueEntry → Bool := fun entry => !Tick.before expiry entry.expiry
    let ahead := queue.entries.takeWhile stays
    .ok (ahead.isEmpty, ⟨ahead ++ ⟨timer, expiry⟩ :: queue.entries.dropWhile stays⟩)

/-- Takes a timer out of the queue, together with its entry if it was there. -/
def remove (queue : DeadlineQueue capacity) (timer : TimerId) :
    Option QueueEntry × DeadlineQueue capacity :=
  (queue.entries.find? (·.timer == timer), ⟨queue.entries.eraseP (·.timer == timer)⟩)

/-- Takes the head off the queue if its deadline has been reached. -/
def popExpired (queue : DeadlineQueue capacity) (now : Ticks) :
    Option QueueEntry × DeadlineQueue capacity :=
  match queue.entries with
  | [] => (none, queue)
  | head :: rest => if Tick.reached now head.expiry then (some head, ⟨rest⟩) else (none, queue)

/-- Takes off the longest run of entries at the front whose deadlines have been reached. -/
def drainExpired (queue : DeadlineQueue capacity) (now : Ticks) :
    List QueueEntry × DeadlineQueue capacity :=
  let due : QueueEntry → Bool := fun entry => Tick.reached now entry.expiry
  (queue.entries.takeWhile due, ⟨queue.entries.dropWhile due⟩)

/-- Tests whether no deadline lies before the one ahead of it in the list. -/
def ascending : List QueueEntry → Bool
  | first :: second :: rest =>
    !Tick.before second.expiry first.expiry && ascending (second :: rest)
  | _ => true

/-- Tests whether neighbours in the queue are in order. -/
def isSorted (queue : DeadlineQueue capacity) : Bool := ascending queue.entries

end DeadlineQueue

end DeadlineTimers
