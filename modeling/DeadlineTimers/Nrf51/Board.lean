import DeadlineTimers.Nrf51.Clock
import DeadlineTimers.Nrf51.Nvic
import DeadlineTimers.Nrf51.Timer
import DeadlineTimers.Machine.Execution

/-!
# The nRF51 board

Three TIMER peripherals, the interrupt controller and the clock, each on a page of its own, and the
vectors through which lines reach the devices. A vector does not know its device: it looks up the
route of its line and runs the handler of the device found there.
-/

namespace DeadlineTimers.Nrf51

/-- What can be asked of the board beside the scheduling calls. -/
inductive BoardRequest where
  | access (id : DeviceId) (access : RegisterAccess)
  | readWord (address : Nat)
  | writeWord (address : Nat) (value : UInt32)
  /-- Tests whether all bits of a mask are set in the word at an address. -/
  | testWord (address : Nat) (mask : UInt32)
  /-- Asks the register at an address for its address. -/
  | addressOf (address : Nat)
  /-- Runs the vector of a TIMER. -/
  | vector (id : DeviceId)
  /-- Runs the handler of the device that a line is routed to. -/
  | dispatch (line : IrqLine)
  | route (line : IrqLine)
  | install (line : IrqLine) (priority : UInt8) (device : DeviceId)
  | enable (line : IrqLine)
  | setPending (line : IrqLine)
  deriving DecidableEq

abbrev Nrf51Board := Board Timer Nvic Clock

abbrev Nrf51Scheduler := Scheduler Timer Nvic Clock

abbrev Nrf51Run := Run Timer Nvic Clock BoardRequest

/-- An nRF51 board on which no device was started. -/
def boardAtRest (controller : Nvic) (clock : Clock) : Nrf51Board :=
  .ofLayout DeviceConfig.nrf51 (.replicate maxDevices {}) controller clock

/-! ## Addresses -/

def clockBase : Nat := 0x40000000

def timerBase (id : DeviceId) : Nat := 0x40008000 + pageBytes * id

def controlBase : Nat := 0xE000E000

inductive PageName where
  | clock
  | timer (place : Fin maxDevices)
  | control
  deriving DecidableEq

namespace PageName

/-- All pages, by ascending address. -/
def all : List PageName := clock :: (List.finRange maxDevices).map timer ++ [control]

def base : PageName → Nat
  | clock => clockBase
  | timer place => timerBase place
  | control => controlBase

/-- The page that an address lies in, with the offset in it. -/
def ofAddress? (address : Nat) : Option (PageName × Nat) :=
  (all.find? fun page => page.base ≤ address && address < page.base + pageBytes).map fun page =>
    (page, address - page.base)

end PageName

def page (board : Nrf51Board) : PageName → Page
  | .clock => board.clock.page
  | .timer place => (board.peripherals.get place).page
  | .control => board.controller.page

def writePage (board : Nrf51Board) (offset : Nat) (value : UInt32) : PageName → Nrf51Board
  | .clock => { board with clock := board.clock.write offset value }
  | .timer place =>
    let timer := (board.peripherals.get place).write offset value
    { board with peripherals := board.peripherals.set place timer place.isLt }
  | .control =>
    { board with
      controller := { board.controller with page := board.controller.page.write offset value } }

/-- All words of the board that are not zero, by ascending address. -/
def nonZeroWords (board : Nrf51Board) : List (Nat × UInt32) :=
  PageName.all.flatMap fun name =>
    (page board name).nonZero.map fun (offset, word) => (name.base + offset, word)

/-! ## Requests -/

def findWord (address : Nat) : Nrf51Run (PageName × Nat) :=
  match PageName.ofAddress? address with
  | some place => pure place
  | none => throw (.addressOutOfRange address)

def findTimer (id : DeviceId) : Nrf51Run (Fin maxDevices) :=
  if h : id < maxDevices then pure ⟨id, h⟩ else throw (.peripheralOutOfRange id)

/-- Changes the interrupt controller, unless there is no such line. -/
def changeController (board : BoardId) (line : IrqLine) (change : Nvic → Option Nvic) :
    Nrf51Run Unit :=
  Run.onBoardOrFault board fun scheduler =>
    match change scheduler.board.controller with
    | some controller => (.ok (), { scheduler with board := { scheduler.board with controller } })
    | none => (.error (.lineOutOfRange line), scheduler)

def modifyTimer {α : Type} (board : BoardId) (place : Fin maxDevices)
    (operation : Timer → α × Timer) : Nrf51Run α :=
  Run.onBoard board fun scheduler =>
    let (answer, timer) := operation (scheduler.board.peripherals.get place)
    let peripherals := scheduler.board.peripherals.set place timer place.isLt
    (answer, { scheduler with board := { scheduler.board with peripherals } })

/-- Runs the handler of the device that a line is routed to. -/
def dispatch (interrupt : BoardId → DeviceId → Nrf51Run Nat) (board : BoardId) (line : IrqLine) :
    Nrf51Run Unit := do
  match ← Run.ask board (·.board.controller.route line) with
  | some id => discard (interrupt board id)
  | none => Run.onBoard board fun scheduler => ((), scheduler.note (.unroutedLine line))

instance : Platform Timer Nvic Clock BoardRequest where
  perform interrupt board request :=
    match request with
    | .access id access => do
      .reading <$> modifyTimer board (← findTimer id) access.run
    | .readWord address => do
      let (name, offset) ← findWord address
      let word ← Run.ask board fun scheduler => (page scheduler.board name).read offset
      pure (.number word.toNat)
    | .writeWord address value => do
      let (name, offset) ← findWord address
      Run.onBoard board fun scheduler =>
        ((), { scheduler with board := writePage scheduler.board offset value name })
      pure .done
    | .testWord address mask => do
      let (name, offset) ← findWord address
      .flag <$> Run.ask board fun scheduler => (page scheduler.board name).test offset mask
    | .addressOf address => pure (.number address)
    | .vector id => do
      let place ← findTimer id
      dispatch interrupt board (DeviceConfig.nrf51.get place).line
      pure .done
    | .dispatch line => do
      dispatch interrupt board line
      pure .done
    | .route line => .maybe <$> Run.ask board (·.board.controller.route line)
    | .install line priority device => do
      changeController board line fun nvic => some (nvic.install line priority device)
      pure .done
    | .enable line => do
      changeController board line (·.enable? line)
      pure .done
    | .setPending line => do
      changeController board line (·.setPending? line)
      pure .done

end DeadlineTimers.Nrf51
