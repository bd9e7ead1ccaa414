import DeadlineTimers.Log.Line

/-!
# The ring of log lines

The newest sixteen lines are kept until they are drained. A line that arrives when the ring is full
pushes the oldest one out, and the loss is counted modulo `2^32`.
-/

namespace DeadlineTimers.Log

def bufferCapacity : Nat := 16

/-- Stored lines, oldest first, and how many were pushed out unread. -/
structure Buffer where
  lines : List String := []
  dropped : UInt32 := 0
  deriving DecidableEq

namespace Buffer

def length (buffer : Buffer) : Nat := buffer.lines.length

def isEmpty (buffer : Buffer) : Bool := buffer.lines.isEmpty

/-- Stores a line. A full ring loses its oldest line first. -/
def push (buffer : Buffer) (line : String) : Buffer :=
  if bufferCapacity ≤ buffer.length then
    { lines := buffer.lines.drop 1 ++ [line], dropped := buffer.dropped + 1 }
  else { buffer with lines := buffer.lines ++ [line] }

def pushRecord (buffer : Buffer) (level : Level) (pieces : List String) : Buffer :=
  buffer.push (recordLine level pieces)

/-- Hands out all lines, oldest first, and empties the ring. The count of losses stays. -/
def drain (buffer : Buffer) : List String × Buffer := (buffer.lines, { buffer with lines := [] })

end Buffer

end DeadlineTimers.Log
