import DeadlineTimers.Nrf51.Timer
import DeadlineTimers.Simulated.Timer

/-!
# The prescaler of a hardware timer

The scheduler only ever sets a prescaler and does not read it back. Here it can be seen, on the simulated
timer and on the page of a TIMER peripheral, and nothing but setting it changes the exponent in it.
-/

namespace DeadlineTimers

/-- A hardware timer whose prescaler can be seen. Only setting it changes the exponent. -/
class PrescalerRegister (R : Type) [TimerPeripheral R] where
  /-- The exponent that the prescaler is set to. -/
  exponent : R → Nat
  exponent_setPrescaler (timer : R) (value : UInt8) :
    exponent (TimerPeripheral.setPrescaler timer value) = value.toNat
  exponent_run (timer : R) (access : RegisterAccess)
    (another : ∀ value, access ≠ .setPrescaler value) :
    exponent (access.run timer).2 = exponent timer

namespace PrescalerRegister

attribute [simp] exponent_setPrescaler

variable {R : Type} [TimerPeripheral R] [PrescalerRegister R] (timer : R) (channel : Channel)

@[simp] theorem exponent_capture :
    exponent (TimerPeripheral.capture timer channel).2 = exponent timer :=
  exponent_run timer (.capture channel) nofun

@[simp] theorem exponent_setCompare (value : UInt32) :
    exponent (TimerPeripheral.setCompare timer channel value) = exponent timer :=
  exponent_run timer (.setCompare channel value) nofun

@[simp] theorem exponent_clearEvent :
    exponent (TimerPeripheral.clearEvent timer channel) = exponent timer :=
  exponent_run timer (.clearEvent channel) nofun

@[simp] theorem exponent_enableInterrupt :
    exponent (TimerPeripheral.enableInterrupt timer channel) = exponent timer :=
  exponent_run timer (.enableInterrupt channel) nofun

@[simp] theorem exponent_disableInterrupt :
    exponent (TimerPeripheral.disableInterrupt timer channel) = exponent timer :=
  exponent_run timer (.disableInterrupt channel) nofun

@[simp] theorem exponent_start : exponent (TimerPeripheral.start timer) = exponent timer :=
  exponent_run timer .start nofun

@[simp] theorem exponent_clear : exponent (TimerPeripheral.clear timer) = exponent timer :=
  exponent_run timer .clear nofun

@[simp] theorem exponent_setWidth (width : CounterWidth) :
    exponent (TimerPeripheral.setWidth timer width) = exponent timer :=
  exponent_run timer (.setWidth width) nofun

end PrescalerRegister

instance : PrescalerRegister Simulated.Timer where
  exponent timer := timer.prescaler.toNat
  exponent_setPrescaler _ _ := rfl
  exponent_run timer access another := by
    cases access with
    | setPrescaler value => exact absurd rfl (another value)
    | capture channel =>
      change (timer.advance timer.autoAdvance).prescaler.toNat = _
      unfold Simulated.Timer.advance
      split <;> rfl
    | _ => rfl

instance : PrescalerRegister Nrf51.Timer where
  exponent timer := (timer.page.read Nrf51.Timer.prescaler).toNat
  exponent_setPrescaler timer value := by
    change ((timer.page.write _ _).read _).toNat = _
    rw [Nrf51.Page.read_write_self _ _ (by decide), UInt8.toNat_toUInt32]
  exponent_run timer access another := by
    have kept (page : Nrf51.Page) {offset : Nat} (value : UInt32)
        (elsewhere : offset / 4 ≠ Nrf51.Timer.prescaler / 4) :
        (page.write offset value).read Nrf51.Timer.prescaler = page.read Nrf51.Timer.prescaler :=
      page.read_write_of_ne value elsewhere
    cases access with
    | setPrescaler value => exact absurd rfl (another value)
    | capture channel => exact congrArg UInt32.toNat (kept _ _ (by cases channel <;> decide))
    | setCompare channel value => exact congrArg UInt32.toNat (kept _ _ (by cases channel <;> decide))
    | clearEvent channel => exact congrArg UInt32.toNat (kept _ _ (by cases channel <;> decide))
    | enableInterrupt channel => exact congrArg UInt32.toNat (kept _ _ (by decide))
    | disableInterrupt channel => exact congrArg UInt32.toNat (kept _ _ (by decide))
    | start => exact congrArg UInt32.toNat (kept _ _ (by decide))
    | stop => exact congrArg UInt32.toNat (kept _ _ (by decide))
    | clear => exact congrArg UInt32.toNat (kept _ _ (by decide))
    | setWidth width =>
      exact congrArg UInt32.toNat ((kept _ _ (by decide)).trans (kept _ _ (by decide)))
    | _ => rfl

end DeadlineTimers
