import DeadlineTimers.Log.Buffer

/-!
# The logger

A ring of lines behind a filter. A message is stored exactly when the filter in force at that
moment admits its level. A program installs its logger once; a second attempt changes nothing.
-/

namespace DeadlineTimers.Log

/-- A filter and the ring of lines behind it. -/
structure Logger where
  filter : LevelFilter := .off
  buffer : Buffer := {}
  deriving DecidableEq

inductive InstallError where
  /-- The program has a logger. -/
  | alreadyInstalled
  deriving DecidableEq

namespace Logger

/-- Installs a logger with the given filter, unless the program has one. -/
def install (present : Option Logger) (filter : LevelFilter) : Except InstallError Logger :=
  match present with
  | none => .ok { filter }
  | some _ => .error .alreadyInstalled

/-- Changes the filter. Lines stored before stay. -/
def setFilter (logger : Logger) (filter : LevelFilter) : Logger := { logger with filter }

def accepts (logger : Logger) (level : Level) : Bool := logger.filter.admits level

/-- Stores a message given in pieces if its level is admitted. -/
def record (logger : Logger) (level : Level) (pieces : List String) : Logger :=
  if logger.accepts level then { logger with buffer := logger.buffer.pushRecord level pieces }
  else logger

def drain (logger : Logger) : List String × Logger :=
  (logger.buffer.drain.1, { logger with buffer := logger.buffer.drain.2 })

end Logger

end DeadlineTimers.Log
