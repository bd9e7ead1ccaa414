import DeadlineTimers.Log.Level

/-!
# Log lines

A stored line has room for 96 bytes of UTF-8. Text arrives in pieces and is written character by
character; the first character without room closes the line, and nothing after it is written, not
even a shorter character that would still fit.
-/

namespace DeadlineTimers.Log

/-- Room of a line in bytes of UTF-8. -/
def lineCapacity : Nat := 96

/-- A line that is being written. -/
structure LineWriter where
  /-- What has been written so far. -/
  text : String := ""
  /-- Set once a character did not fit. -/
  closed : Bool := false
  deriving DecidableEq

namespace LineWriter

/-- Writes a character if the line is open and has room for it, and otherwise closes the line. -/
def put (writer : LineWriter) (char : Char) : LineWriter :=
  if writer.closed then writer
  else if writer.text.utf8ByteSize + char.utf8Size ≤ lineCapacity then
    { writer with text := writer.text.push char }
  else { writer with closed := true }

def write (writer : LineWriter) (piece : String) : LineWriter := piece.toList.foldl put writer

end LineWriter

def lineOfPieces (pieces : List String) : String :=
  (pieces.foldl LineWriter.write {}).text

/-- The line that holds a message of some level: the level in brackets, a blank, the message. -/
def recordLine (level : Level) (pieces : List String) : String :=
  lineOfPieces ("[" :: level.name :: "] " :: pieces)

end DeadlineTimers.Log
