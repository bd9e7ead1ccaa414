import DeadlineTimers.CounterWidth

/-!
# Platform configuration

What a platform states about its hardware timers before any of them runs: how many there are,
which interrupt line and priority each one uses, how wide its counter is and how fast its source
clock runs. The presets describe the nRF51, whose first timer is 32 bits wide and whose other two
are 16 bits wide, all fed from the 16 MHz clock.
-/

namespace DeadlineTimers

/-- Number of a hardware timer in the table of devices. -/
abbrev DeviceId := Nat

abbrev IrqLine := Nat

/-- Number of a software timer. -/
abbrev TimerId := Nat

/-- Name of a device in messages. -/
def DeviceId.label (id : DeviceId) : String := "timer" ++ toString id

def maxDevices : Nat := 3

/-- Frequency of the source clock in Hz. -/
def sourceFrequency : Nat := 16000000

/-- Largest exponent of the prescaler, a division by 512. -/
def maxPrescalerExponent : Nat := 9

/-- Number of timers that can wait on one device. -/
def queueDepth : Nat := 16

def priorityBits : Nat := 2

/-- The least urgent priority, used unless a platform asks for another. -/
def defaultPriority : UInt8 := UInt8.ofNat (1 <<< priorityBits - 1)

/-- What the platform states about one hardware timer. -/
structure DeviceConfig where
  line : IrqLine
  /-- Priority given to the line when the device starts. -/
  priority : UInt8
  width : CounterWidth
  /-- Frequency before division, in Hz. -/
  maxFrequency : Nat
  deriving DecidableEq

namespace DeviceConfig

def nrf51Timer0 : DeviceConfig := ⟨8, defaultPriority, .bits32, sourceFrequency⟩

def nrf51Timer1 : DeviceConfig := ⟨9, defaultPriority, .bits16, sourceFrequency⟩

def nrf51Timer2 : DeviceConfig := ⟨10, defaultPriority, .bits16, sourceFrequency⟩

def nrf51 : Vector DeviceConfig maxDevices := #v[nrf51Timer0, nrf51Timer1, nrf51Timer2]

def withPriority (config : DeviceConfig) (priority : UInt8) : DeviceConfig :=
  { config with priority }

end DeviceConfig

end DeadlineTimers
