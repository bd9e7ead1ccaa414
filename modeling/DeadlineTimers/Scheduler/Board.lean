import DeadlineTimers.Device.Handler

/-!
# Boards

A board is a set of hardware timers with one interrupt controller and one clock, and the table of
the devices registered for them. Device `i` works on hardware timer `i`. A place of the table may be
empty, and its hardware timer exists all the same.
-/

namespace DeadlineTimers

/-- Hardware and registered devices. -/
structure Board (R C K : Type) where
  devices : Vector (Option Device) maxDevices
  peripherals : Vector R maxDevices
  controller : C
  clock : K
  /-- What the platform states about the hardware timers. -/
  layout : Vector DeviceConfig maxDevices

@[simp] theorem get_place {α : Type} (table : Vector α maxDevices) (place : Fin maxDevices) :
    table.get place = getElem table place.val place.isLt := rfl

namespace Board

variable {R C K : Type}

/-- A board on which every hardware timer of the layout is registered. -/
def ofLayout (layout : Vector DeviceConfig maxDevices) (peripherals : Vector R maxDevices)
    (controller : C) (clock : K) : Board R C K where
  devices := layout.map fun config => some (.ofConfig config)
  peripherals := peripherals
  controller := controller
  clock := clock
  layout := layout

/-- The same board with only the devices of a list registered. -/
def registering (board : Board R C K) (ids : List DeviceId) : Board R C K :=
  { board with devices := board.layout.mapFinIdx fun id config _ =>
      if ids.contains id then some (.ofConfig config) else none }

def locate (board : Board R C K) (id : DeviceId) :
    Except TimerError (Fin maxDevices × Device) :=
  if h : id < maxDevices then
    match board.devices[id] with
    | some device => .ok (⟨id, h⟩, device)
    | none => .error (.invalid .deviceMissing)
  else .error (.invalid .deviceOutOfRange)

/-- A device with the hardware that it works on. -/
def port (board : Board R C K) (place : Fin maxDevices) (device : Device) : Port R C :=
  ⟨device, board.peripherals.get place, board.controller⟩

def putPort (board : Board R C K) (place : Fin maxDevices) (port : Port R C) : Board R C K :=
  { board with
    devices := board.devices.set place (some port.device) place.isLt
    peripherals := board.peripherals.set place port.timer place.isLt
    controller := port.controller }

theorem locate_eq_ok_iff (board : Board R C K) (id : DeviceId) (place : Fin maxDevices)
    (device : Device) :
    board.locate id = .ok (place, device) ↔
      place.val = id ∧ board.devices.get place = some device := by
  unfold locate
  split
  · next inside =>
    split <;> constructor
    · rintro ⟨⟩
      exact ⟨rfl, by assumption⟩
    · rintro ⟨rfl, found⟩
      simp_all
    · rintro ⟨⟩
    · rintro ⟨rfl, found⟩
      simp_all
  · next outside =>
    constructor
    · rintro ⟨⟩
    · rintro ⟨rfl, _⟩
      exact absurd place.isLt outside

@[simp] theorem port_putPort_self (board : Board R C K) (place : Fin maxDevices)
    (port : Port R C) : (board.putPort place port).port place port.device = port := by
  simp [Board.port, putPort]

@[simp] theorem locate_putPort_self (board : Board R C K) (place : Fin maxDevices)
    (port : Port R C) :
    (board.putPort place port).locate place = .ok (place, port.device) := by
  rw [locate_eq_ok_iff]
  exact ⟨rfl, by simp [putPort]⟩

def onPort {α : Type} (board : Board R C K) (id : DeviceId)
    (operation : Port R C → α × Port R C) : Except TimerError α × Board R C K :=
  match board.locate id with
  | .error error => (.error error, board)
  | .ok (place, device) =>
    let (answer, port) := operation (board.port place device)
    (.ok answer, board.putPort place port)

/-- Registers a device for the hardware timer that is handed over, which takes the place on the board
as it is. A device that runs, or on which timers wait, cannot be replaced. -/
def register (board : Board R C K) (id : DeviceId) (timer : R) (config : DeviceConfig) :
    Except TimerError Unit × Board R C K :=
  if h : id < maxDevices then
    let replaced := board.putPort ⟨id, h⟩ ⟨.ofConfig config, timer, board.controller⟩
    match board.devices[id] with
    | none => (.ok (), replaced)
    | some present =>
      if present.enabled then (.error (.invalid .alreadyEnabled), board)
      else if present.queue.isEmpty then (.ok (), replaced)
      else (.error (.invalid .timersQueued), board)
  else (.error (.invalid .deviceOutOfRange), board)

/-- Registers a device for the hardware timer that is at its place already. -/
def registerInPlace (board : Board R C K) (id : DeviceId) (config : DeviceConfig) :
    Except TimerError Unit × Board R C K :=
  if h : id < maxDevices then board.register id board.peripherals[id] config
  else (.error (.invalid .deviceOutOfRange), board)

end Board

end DeadlineTimers
