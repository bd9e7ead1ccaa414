/-!
# Log levels

Five levels of growing detail. A filter names the most detailed level it still admits, or admits
nothing. Names are written in capitals and read in any case.
-/

namespace DeadlineTimers.Log

/-- How grave or how detailed a message is. -/
inductive Level where
  | error
  | warn
  | info
  | debug
  | trace
  deriving DecidableEq

namespace Level

/-- Position on the scale that runs from grave to detailed. -/
def detail : Level → Nat
  | error => 1
  | warn => 2
  | info => 3
  | debug => 4
  | trace => 5

def name : Level → String
  | error => "ERROR"
  | warn => "WARN"
  | info => "INFO"
  | debug => "DEBUG"
  | trace => "TRACE"

def all : List Level := [error, warn, info, debug, trace]

/-- Reads a name in any mixture of capital and small letters. -/
def ofName? (text : String) : Option Level := all.find? (·.name == text.toUpper)

end Level

/-- Which levels are kept. -/
inductive LevelFilter where
  /-- Keeps nothing. -/
  | off
  /-- Keeps a level and all that are graver. -/
  | upTo (most : Level)
  deriving DecidableEq

namespace LevelFilter

def admits : LevelFilter → Level → Bool
  | off, _ => false
  | upTo most, level => level.detail ≤ most.detail

/-- Reads a filter: the name of a level, or `off`. -/
def ofName? (text : String) : Option LevelFilter :=
  if text.toUpper = "OFF" then some off else (Level.ofName? text).map upTo

end LevelFilter

end DeadlineTimers.Log
