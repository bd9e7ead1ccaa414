import DeadlineTimers.Proofs.PrescalerRegister
import DeadlineTimers.Proofs.Selection
import DeadlineTimers.Scheduler.Handler
import DeadlineTimers.Simulated.Board
import Mathlib.Logic.Relation

/-!
# The frequency of a device that runs

A start writes the selected exponent into the prescaler and remembers the frequency that comes of it. From
then on neither changes as long as the device runs: reading, arming and handling interrupts leave them alone,
a stopped device has to be started again, and a device that runs is not replaced. So whatever operations are
carried out on a scheduler in whatever order, a device that runs has a frequency above zero, which is that of
its source divided as its prescaler says, and asking for the length of its tick never divides by zero.
-/

namespace DeadlineTimers

variable {R C K : Type}

namespace Board

/-- No registered device runs. -/
def AtRest (board : Board R C K) : Prop :=
  ∀ place device, board.devices.get place = some device → device.enabled = false

theorem AtRest.ofLayout (layout : Vector DeviceConfig maxDevices) (peripherals : Vector R maxDevices)
    (controller : C) (clock : K) : (Board.ofLayout layout peripherals controller clock).AtRest := by
  intro place device registered
  have placed : some (Device.ofConfig (layout.get place)) = some device := by
    simpa [Board.ofLayout] using registered
  rw [← Option.some.inj placed]
  rfl

end Board

namespace Scheduler

variable {scheduler : Scheduler R C K}

theorem frequency_of_located {id : DeviceId} {place : Fin maxDevices} {device : Device}
    (found : scheduler.board.locate id = .ok (place, device)) :
    scheduler.frequency id =
      if device.enabled = true then .ok device.frequency else .error (.invalid .notEnabled) := by
  unfold frequency
  rw [found]
  rfl

theorem noteRearming_board (scheduler : Scheduler R C K) (rearmed : Option (Ticks × ArmReport)) :
    (scheduler.noteRearming rearmed).board = scheduler.board := by
  unfold noteRearming
  split <;> rfl

end Scheduler

variable [TimerPeripheral R] [PrescalerRegister R]

open PrescalerRegister

/-! ## Ports -/

namespace Port

variable {port port' last : Port R C} {prescaler : Prescaler}

/-- Nothing that the frequency of a device depends on differs between two ports. -/
structure SameClock (port port' : Port R C) : Prop where
  enabled : port'.device.enabled = port.device.enabled
  config : port'.device.config = port.device.config
  frequency : port'.device.frequency = port.device.frequency
  exponent : exponent port'.timer = exponent port.timer

namespace SameClock

theorem refl (port : Port R C) : port.SameClock port := ⟨rfl, rfl, rfl, rfl⟩

theorem trans (first : port.SameClock port') (second : port'.SameClock last) : port.SameClock last where
  enabled := second.enabled.trans first.enabled
  config := second.config.trans first.config
  frequency := second.frequency.trans first.frequency
  exponent := second.exponent.trans first.exponent

end SameClock

theorem sameClock_withQueue (port : Port R C) (queue : DeadlineQueue queueDepth) :
    port.SameClock { port with device := { port.device with queue } } := ⟨rfl, rfl, rfl, rfl⟩

theorem sameClock_disarm (port : Port R C) : port.SameClock port.disarm :=
  ⟨rfl, rfl, rfl, exponent_disableInterrupt _ _⟩

theorem sameClock_consumeOverflow (port : Port R C) : port.SameClock port.consumeOverflow.2 := by
  unfold consumeOverflow
  dsimp only
  split
  · exact ⟨rfl, rfl, rfl, exponent_clearEvent _ _⟩
  · exact .refl port

theorem sameClock_acknowledge (port : Port R C) : port.SameClock port.acknowledge.2 := by
  let cleared := port.modifyTimer fun timer => TimerPeripheral.clearEvent timer .interrupt
  have unlatched : port.SameClock cleared := ⟨rfl, rfl, rfl, exponent_clearEvent _ _⟩
  have folded := unlatched.trans cleared.sameClock_consumeOverflow
  have counted : port.SameClock (cleared.consumeOverflow.2.modifyDevice fun device =>
      { device with isrs := device.isrs + 1 }) := folded.trans ⟨rfl, rfl, rfl, rfl⟩
  unfold acknowledge
  dsimp only
  split
  · exact counted
  · exact counted.trans (sameClock_disarm _)

section Lines

variable [InterruptController C] (port : Port R C) (line : IrqLine) (expiry : Ticks)

theorem sameClock_setPending : port.SameClock (port.setPending line) := ⟨rfl, rfl, rfl, rfl⟩

theorem sameClock_read : port.SameClock (port.read line).2 := by
  have once := exponent_capture port.timer .read
  have twice := exponent_capture (TimerPeripheral.capture port.timer .read).2 .read
  unfold Port.read
  dsimp only
  split
  · exact ⟨rfl, rfl, rfl, once⟩
  · split
    · exact ⟨rfl, rfl, rfl, (exponent_clearEvent _ _).trans (twice.trans once)⟩
    · exact ⟨rfl, rfl, rfl, once⟩

theorem sameClock_program : port.SameClock (port.program line expiry).2 := by
  have written : port.SameClock (port.modifyTimer fun timer =>
      TimerPeripheral.enableInterrupt (TimerPeripheral.clearEvent (TimerPeripheral.setCompare timer
        .interrupt (expiry &&& port.device.width.counterMask)) .interrupt) .interrupt) :=
    ⟨rfl, rfl, rfl, by simp [modifyTimer]⟩
  unfold program
  dsimp only
  split
  · exact (written.trans (sameClock_read _ line)).trans (sameClock_setPending _ line)
  · exact written.trans (sameClock_read _ line)

theorem sameClock_arm : port.SameClock (port.arm line expiry).2 := by
  unfold arm
  dsimp only
  split
  · split
    · exact port.sameClock_disarm.trans (sameClock_setPending _ line)
    · exact port.sameClock_disarm
  · exact port.sameClock_disarm.trans (sameClock_program _ line expiry)

theorem sameClock_rearm : port.SameClock port.rearm.2 := by
  unfold rearm
  split
  · exact port.sameClock_arm _ _
  · exact port.sameClock_disarm

theorem sameClock_takeDue : port.SameClock port.takeDue.2 :=
  (port.sameClock_read _).trans (sameClock_withQueue _ _)

end Lines

/-- While the device runs, its frequency is that of its source divided as the prescaler says, and is not
zero. -/
def Clocked (port : Port R C) : Prop :=
  port.device.enabled = true → 0 < port.device.frequency ∧
    port.device.frequency = port.device.config.maxFrequency >>> exponent port.timer

theorem clocked_of_stopped (stopped : port.device.enabled = false) : port.Clocked := by
  intro runs
  rw [stopped] at runs
  cases runs

theorem Clocked.same (clocked : port.Clocked) (same : port.SameClock port') : port'.Clocked := by
  intro runs
  rw [same.config, same.frequency, same.exponent]
  exact clocked (same.enabled ▸ runs)

theorem exponent_bringUp (port : Port R C) (within : prescaler.exponent ≤ maxPrescalerExponent) :
    exponent (port.bringUp prescaler).timer = prescaler.exponent := by
  have fits : prescaler.exponent % 256 = prescaler.exponent :=
    Nat.mod_eq_of_lt (within.trans_lt (by decide))
  simp only [bringUp, exponent_start, exponent_clear, exponent_clearEvent]
  split <;> simp [fits]

structure SetTo (port : Port R C) (config : DeviceConfig) (prescaler : Prescaler) : Prop where
  enabled : port.device.enabled = true
  config : port.device.config = config
  frequency : port.device.frequency = prescaler.frequency
  exponent : exponent port.timer = prescaler.exponent

theorem SetTo.same {config : DeviceConfig} (setTo : port.SetTo config prescaler)
    (same : port.SameClock port') : port'.SetTo config prescaler where
  enabled := same.enabled.trans setTo.enabled
  config := same.config.trans setTo.config
  frequency := same.frequency.trans setTo.frequency
  exponent := same.exponent.trans setTo.exponent

/-- A start brings the device up, enables it and arms the compare. -/
theorem setTo_started [InterruptController C] (port : Port R C)
    (within : prescaler.exponent ≤ maxPrescalerExponent) (controller : C) :
    SetTo (rearm { port.bringUp prescaler with
      controller
      device := { (port.bringUp prescaler).device with enabled := true } }).2
      port.device.config prescaler := by
  have enabled : SetTo { port.bringUp prescaler with
      controller
      device := { (port.bringUp prescaler).device with enabled := true } }
      port.device.config prescaler := ⟨rfl, rfl, rfl, port.exponent_bringUp within⟩
  exact enabled.same (sameClock_rearm _)

/-- A device that runs at a selected setting has its frequency. -/
theorem SetTo.clocked {config : DeviceConfig} {request : Nat} (setTo : port.SetTo config prescaler)
    (selected : Prescaler.select config.maxFrequency request = .ok prescaler) : port.Clocked := by
  obtain ⟨-, frequency, positive⟩ := Prescaler.frequency_of_select selected
  intro _
  rw [setTo.frequency, setTo.config, setTo.exponent]
  exact ⟨positive, frequency⟩

end Port

/-! ## Boards -/

namespace Board

variable {board : Board R C K} {place : Fin maxDevices} {device : Device} {port : Port R C}

/-- Every registered device that runs has its frequency. -/
def Clocked (board : Board R C K) : Prop :=
  ∀ place device, board.devices.get place = some device → (board.port place device).Clocked

theorem AtRest.clocked (atRest : board.AtRest) : board.Clocked :=
  fun place device registered => Port.clocked_of_stopped (atRest place device registered)

namespace Clocked

theorem located {id : DeviceId} (clocked : board.Clocked)
    (found : board.locate id = .ok (place, device)) : (board.port place device).Clocked :=
  clocked place device ((locate_eq_ok_iff board id place device).1 found).2

theorem putPort (clocked : board.Clocked) (own : port.Clocked) : (board.putPort place port).Clocked := by
  intro other device registered
  by_cases same : other = place
  · subst same
    obtain rfl : port.device = device := by simpa [Board.putPort] using registered
    rw [port_putPort_self]
    exact own
  · have apart : place.val ≠ other.val := fun equal => same (Fin.ext equal.symm)
    have registered' : board.devices.get other = some device := by
      simpa [Board.putPort, Vector.getElem_set_ne, apart] using registered
    refine (clocked other device registered').same ⟨rfl, rfl, rfl, ?_⟩
    simp [Board.port, Board.putPort, Vector.getElem_set_ne, apart]

/-- A device that was just registered stands still, whatever timer it was registered for. -/
theorem register (clocked : board.Clocked) (id : DeviceId) (timer : R) (config : DeviceConfig) :
    (board.register id timer config).2.Clocked := by
  unfold Board.register
  split
  · next inside =>
    have replaced : Clocked
        (board.putPort ⟨id, inside⟩ ⟨.ofConfig config, timer, board.controller⟩) :=
      clocked.putPort (Port.clocked_of_stopped rfl)
    dsimp only
    split
    · exact replaced
    · split
      · exact clocked
      · split
        · exact replaced
        · exact clocked
  · exact clocked

theorem registerInPlace (clocked : board.Clocked) (id : DeviceId) (config : DeviceConfig) :
    (board.registerInPlace id config).2.Clocked := by
  unfold Board.registerInPlace
  split
  · exact clocked.register id _ config
  · exact clocked

theorem onPort {α : Type} {operation : Port R C → α × Port R C} (clocked : board.Clocked)
    (keeps : ∀ port : Port R C, port.SameClock (operation port).2) (id : DeviceId) :
    (board.onPort id operation).2.Clocked := by
  unfold Board.onPort
  split
  · exact clocked
  · next found => exact clocked.putPort ((clocked.located found).same (keeps _))

end Clocked

end Board

/-! ## Schedulers -/

namespace Scheduler

variable {scheduler : Scheduler R C K}

def Clocked (scheduler : Scheduler R C K) : Prop := scheduler.board.Clocked

namespace Clocked

/-- What holds of the scheduler that an operation leaves, once its answer is known. -/
theorem left {α : Type} {operated : α × Scheduler R C K} {answer : α} (clocked : operated.2.Clocked)
    (did : operated = (answer, scheduler)) : scheduler.Clocked := by
  rw [did] at clocked
  exact clocked

theorem putPort {place : Fin maxDevices} {port : Port R C} (clocked : scheduler.Clocked)
    (own : port.Clocked) : (scheduler.putPort place port).Clocked :=
  Board.Clocked.putPort clocked own

theorem withTimers (clocked : scheduler.Clocked) (timers : TimerTable) :
    Clocked { scheduler with timers } := clocked

theorem note (clocked : scheduler.Clocked) (message : Message) :
    (scheduler.note message).Clocked := clocked

theorem noteIf (clocked : scheduler.Clocked) (condition : Prop) [Decidable condition]
    (message : Message) : Clocked (if condition then scheduler.note message else scheduler) := by
  split
  · exact clocked
  · exact clocked

theorem noteUnlessOwned (clocked : scheduler.Clocked) (owner : Option (Option DeviceId))
    (id : DeviceId) :
    Clocked (match owner with
      | some owner =>
        if owner = some id then scheduler else scheduler.note (.foreignHead id owner)
      | none => scheduler) := by
  split
  · split
    · exact clocked
    · exact clocked
  · exact clocked

theorem noteRearming (clocked : scheduler.Clocked) (rearmed : Option (Ticks × ArmReport)) :
    (scheduler.noteRearming rearmed).Clocked := by
  rw [Clocked, noteRearming_board]
  exact clocked

theorem onPort {α : Type} {operation : Port R C → α × Port R C} (clocked : scheduler.Clocked)
    (keeps : ∀ port : Port R C, port.SameClock (operation port).2) (id : DeviceId) :
    (scheduler.onPort id operation).2.Clocked :=
  Board.Clocked.onPort clocked keeps id

theorem register (clocked : scheduler.Clocked) (id : DeviceId) (timer : R) (config : DeviceConfig) :
    (scheduler.register id timer config).2.Clocked :=
  Board.Clocked.register clocked id timer config

theorem registerInPlace (clocked : scheduler.Clocked) (id : DeviceId) (config : DeviceConfig) :
    (scheduler.registerInPlace id config).2.Clocked :=
  Board.Clocked.registerInPlace clocked id config

theorem deinit (clocked : scheduler.Clocked) (id : DeviceId) :
    (scheduler.deinit id).2.Clocked := by
  unfold Scheduler.deinit
  split
  · exact clocked
  · dsimp only
    split
    · exact clocked.putPort (Port.clocked_of_stopped rfl)
    · exact clocked.putPort (Port.clocked_of_stopped rfl)

theorem acknowledge (clocked : scheduler.Clocked) (id : DeviceId) :
    (scheduler.acknowledge id).2.Clocked := by
  have done := clocked.onPort Port.sameClock_acknowledge id
  unfold Scheduler.acknowledge
  split
  · next did => exact done.left did
  · next did => exact done.left did

/-- A device that runs has a frequency above zero, so asking for the length of its tick has an answer. -/
theorem resolution_eq (clocked : scheduler.Clocked) (id : DeviceId) :
    scheduler.resolution id =
      .ok ((scheduler.frequency id).map fun frequency => 1000000000 / frequency) := by
  have positive {frequency : Nat} (told : scheduler.frequency id = .ok frequency) : frequency ≠ 0 := by
    cases found : scheduler.board.locate id with
    | error error =>
      unfold Scheduler.frequency at told
      rw [found] at told
      cases told
    | ok located =>
      obtain ⟨place, device⟩ := located
      rw [frequency_of_located found] at told
      split_ifs at told with runs
      obtain rfl := Except.ok.inj told
      exact ((Board.Clocked.located clocked found) runs).1.ne'
  unfold Scheduler.resolution
  cases told : scheduler.frequency id with
  | error error => rfl
  | ok frequency =>
    simp only [periodNanoseconds?, if_neg (positive told)]
    rfl

variable [InterruptController C]

theorem tryRead (clocked : scheduler.Clocked) (id : DeviceId) :
    (scheduler.tryRead id).2.Clocked :=
  clocked.onPort (fun port => port.sameClock_read _) id

theorem read (clocked : scheduler.Clocked) (id : DeviceId) : (scheduler.read id).2.Clocked := by
  have tried := clocked.tryRead id
  unfold Scheduler.read
  split
  · next did => exact tried.left did
  · next did => exact tried.left did

theorem spin (clocked : scheduler.Clocked) (id : DeviceId) (deadline : Ticks) (reads : Nat) :
    (scheduler.spin id deadline reads).2.Clocked := by
  induction reads generalizing scheduler with
  | zero => exact clocked
  | succ reads ih =>
    have read := clocked.read id
    unfold Scheduler.spin
    split
    · next did => exact read.left did
    · next did =>
      split
      · exact read.left did
      · exact ih (read.left did)

theorem delay (clocked : scheduler.Clocked) (id : DeviceId) (ticks : Ticks) :
    (scheduler.delay id ticks).2.Clocked := by
  have read := clocked.read id
  unfold Scheduler.delay
  split
  · next did => exact read.left did
  · next did => exact (read.left did).spin _ _ _

/-- A start that ends in a fault, because the interrupt controller has no such line, leaves the device
stopped. -/
theorem init [ClockSource K] (clocked : scheduler.Clocked) (id : DeviceId) (request : Nat) :
    (scheduler.init id request).2.Clocked := by
  unfold Scheduler.init
  split
  · exact clocked
  · next place device found =>
    split
    · exact clocked
    · next stopped =>
      rw [Bool.not_eq_true] at stopped
      dsimp only
      split
      · exact clocked
      · next prescaler selected =>
        split
        · exact clocked
        · next crystalStarted clock ready =>
          let fed : Scheduler R C K := { scheduler with board := { scheduler.board with clock } }
          have steady : fed.Clocked := clocked
          have fed := steady.noteIf (crystalStarted = true) .crystalStarted
          split
          · exact fed.putPort (Port.clocked_of_stopped stopped)
          · split
            · exact fed.putPort (Port.clocked_of_stopped stopped)
            · have within := (Prescaler.frequency_of_select selected).1
              refine (fed.putPort ?_).noteRearming _
              exact (Port.setTo_started _ within _).clocked selected

theorem startAt (clocked : scheduler.Clocked) (timer : TimerId) (expiry : Ticks) :
    (scheduler.startAt timer expiry).2.Clocked := by
  unfold Scheduler.startAt
  dsimp only
  split
  · exact clocked
  · split
    · exact clocked
    · split
      · exact clocked
      · split
        · exact clocked
        · next place device found =>
          have own := Board.Clocked.located clocked found
          split
          · exact clocked
          · next isHead queue inserted =>
            have queued := own.same (Port.sameClock_withQueue _ queue)
            split
            · exact Board.Clocked.putPort clocked (queued.same (Port.sameClock_arm _ _ _))
            · exact Board.Clocked.putPort clocked queued

theorem start (clocked : scheduler.Clocked) (timer : TimerId) (ticks : Ticks) :
    (scheduler.start timer ticks).2.Clocked := by
  unfold Scheduler.start
  split
  · exact clocked
  · split
    · exact clocked
    · next id attached =>
      have read := clocked.tryRead id
      split
      · next did => exact read.left did
      · next did => exact (read.left did).startAt _ _

theorem stop (clocked : scheduler.Clocked) (timer : TimerId) :
    (scheduler.stop timer).2.Clocked := by
  unfold Scheduler.stop
  dsimp only
  split
  · exact clocked
  · split
    · exact clocked
    · next id attached =>
      split
      · exact clocked
      · next place device found =>
        have unqueued := (Board.Clocked.located clocked found).same
          (Port.sameClock_withQueue _ (device.queue.remove timer).2)
        let slot := scheduler.timers.get timer
        have unlinked := clocked.withTimers (scheduler.timers.set timer { slot with linked := false })
        have unlinked := (unlinked.noteIf ((device.queue.remove timer).1.isNone = true)
          (.strayTimer id)).note (.stopped id slot.expiry)
        split
        · split
          · have rearmed := unqueued.same (Port.sameClock_rearm _)
            exact noteRearming (putPort (noteUnlessOwned unlinked _ _) rearmed) _
          · exact putPort (noteUnlessOwned unlinked _ _) unqueued
        · exact putPort unlinked unqueued

theorem attach (clocked : scheduler.Clocked) (id : DeviceId) (timer : TimerId)
    (callback : CallbackId) (arg : Nat) : (scheduler.attach id timer callback arg).2.Clocked := by
  unfold Scheduler.attach
  split
  · exact clocked
  · have stopped := clocked.stop timer
    split
    · next did => exact stopped.left did
    · next did => exact (stopped.left did).withTimers _

theorem takeDue (clocked : scheduler.Clocked) (id : DeviceId) :
    (scheduler.takeDue id).2.Clocked := by
  have done := clocked.onPort Port.sameClock_takeDue id
  unfold Scheduler.takeDue
  split
  · next did => exact (done.left did).withTimers _
  · next did => exact done.left did
  · next did => exact done.left did

theorem finish (clocked : scheduler.Clocked) (id : DeviceId) (fired : Nat) :
    (scheduler.finish id fired).Clocked := by
  have done := clocked.onPort Port.sameClock_rearm id
  unfold Scheduler.finish
  split
  · next did => exact (done.left did).noteRearming _
  · next did => exact done.left did

end Clocked

section Starting

variable [InterruptController C] [ClockSource K] {after : Scheduler R C K}

/-- A start that succeeds programs the exponent that is selected for the source of the device, and the device
runs at the frequency that goes with it. -/
theorem init_ok {id : DeviceId} {place : Fin maxDevices} {device : Device} {request : Nat}
    (found : scheduler.board.locate id = .ok (place, device))
    (did : scheduler.init id request = (.ok (.ok ()), after)) :
    ∃ prescaler, Prescaler.select device.config.maxFrequency request = .ok prescaler ∧
      after.frequency id = .ok prescaler.frequency ∧
      exponent (after.board.peripherals.get place) = prescaler.exponent := by
  simp only [init, found] at did
  split at did
  · cases congrArg Prod.fst did
  · split at did
    · cases congrArg Prod.fst did
    · next prescaler selected =>
      split at did
      · cases congrArg Prod.fst did
      · split at did
        · cases congrArg Prod.fst did
        · split at did
          · cases congrArg Prod.fst did
          · have within := (Prescaler.frequency_of_select selected).1
            have started : ∃ (base : Scheduler R C K) (port : Port R C)
                (rearmed : Option (Ticks × ArmReport)) (message : Message),
                after = ((base.putPort place port).noteRearming rearmed).note message ∧
                  port.SetTo device.config prescaler :=
              ⟨_, _, _, _, (Prod.mk.inj did).2.symm, Port.setTo_started _ within _⟩
            obtain ⟨base, port, rearmed, message, rfl, setTo⟩ := started
            have here := ((Board.locate_eq_ok_iff _ _ _ _).1 found).1
            have board : (((base.putPort place port).noteRearming rearmed).note message).board =
                base.board.putPort place port := noteRearming_board _ _
            refine ⟨prescaler, selected, ?_, ?_⟩
            · have found' := board ▸ Board.locate_putPort_self base.board place port
              rw [← here, frequency_of_located found', if_pos setTo.enabled, setTo.frequency]
            · rw [board]
              simpa [Board.putPort] using setTo.exponent

end Starting

/-! ## Operations one after another -/

variable [InterruptController C] [ClockSource K]

/-- What leads from one state of a scheduler to the next: an operation of it, a step of the interrupt handler,
or something around it, which leaves the registered devices and the prescalers alone. Counters move, lines
are marked, and other boards work with the timers and the log. Questions change nothing. -/
inductive Step (scheduler : Scheduler R C K) : Scheduler R C K → Prop where
  | register (id : DeviceId) (timer : R) (config : DeviceConfig) :
      Step scheduler (scheduler.register id timer config).2
  | init (id : DeviceId) (request : Nat) : Step scheduler (scheduler.init id request).2
  | deinit (id : DeviceId) : Step scheduler (scheduler.deinit id).2
  | attach (id : DeviceId) (timer : TimerId) (callback : CallbackId) (arg : Nat) :
      Step scheduler (scheduler.attach id timer callback arg).2
  | start (timer : TimerId) (ticks : Ticks) : Step scheduler (scheduler.start timer ticks).2
  | startAt (timer : TimerId) (expiry : Ticks) : Step scheduler (scheduler.startAt timer expiry).2
  | stop (timer : TimerId) : Step scheduler (scheduler.stop timer).2
  | tryRead (id : DeviceId) : Step scheduler (scheduler.tryRead id).2
  | read (id : DeviceId) : Step scheduler (scheduler.read id).2
  | delay (id : DeviceId) (ticks : Ticks) : Step scheduler (scheduler.delay id ticks).2
  | acknowledge (id : DeviceId) : Step scheduler (scheduler.acknowledge id).2
  | takeDue (id : DeviceId) : Step scheduler (scheduler.takeDue id).2
  | finish (id : DeviceId) (fired : Nat) : Step scheduler (scheduler.finish id fired)
  | around {after : Scheduler R C K} (devices : after.board.devices = scheduler.board.devices)
      (exponents : ∀ place, exponent (after.board.peripherals.get place) =
        exponent (scheduler.board.peripherals.get place)) : Step scheduler after

theorem Step.clocked {after : Scheduler R C K} (step : Step scheduler after)
    (clocked : scheduler.Clocked) : after.Clocked := by
  cases step with
  | register id timer config => exact clocked.register id timer config
  | init id request => exact clocked.init id request
  | deinit id => exact clocked.deinit id
  | attach id timer callback arg => exact clocked.attach id timer callback arg
  | start timer ticks => exact clocked.start timer ticks
  | startAt timer expiry => exact clocked.startAt timer expiry
  | stop timer => exact clocked.stop timer
  | tryRead id => exact clocked.tryRead id
  | read id => exact clocked.read id
  | delay id ticks => exact clocked.delay id ticks
  | acknowledge id => exact clocked.acknowledge id
  | takeDue id => exact clocked.takeDue id
  | finish id fired => exact clocked.finish id fired
  | around devices exponents =>
    intro place device registered
    rw [devices] at registered
    exact (clocked place device registered).same ⟨rfl, rfl, rfl, exponents place⟩

/-- From a scheduler on which no device runs, whatever was done. -/
theorem clocked_of_steps {first : Scheduler R C K} (atRest : first.board.AtRest)
    (steps : Relation.ReflTransGen Step first scheduler) : scheduler.Clocked := by
  induction steps with
  | refl => exact atRest.clocked
  | tail _ step ih => exact step.clocked ih

/-- The selection of a prescaler does what is asked of it for every source and every request. A start that
succeeds programs what is selected, and whatever is done to a scheduler on which no device runs at first, a
device that runs has a frequency above zero, that of its source divided as its prescaler says. So the length
of a tick is computed without a division by zero. -/
theorem selected_frequencies :
    (∀ source request, Prescaler.Specified source request) ∧
      (∀ (scheduler after : Scheduler R C K) id place device request,
        scheduler.board.locate id = .ok (place, device) →
          scheduler.init id request = (.ok (.ok ()), after) →
            ∃ prescaler, Prescaler.select device.config.maxFrequency request = .ok prescaler ∧
              after.frequency id = .ok prescaler.frequency ∧
              exponent (after.board.peripherals.get place) = prescaler.exponent) ∧
      ∀ first scheduler : Scheduler R C K, first.board.AtRest →
        Relation.ReflTransGen Step first scheduler →
          (∀ place device, scheduler.board.devices.get place = some device → device.enabled = true →
            0 < device.frequency ∧ device.frequency =
              device.config.maxFrequency >>> exponent (scheduler.board.peripherals.get place)) ∧
          ∀ id, scheduler.resolution id =
            .ok ((scheduler.frequency id).map fun frequency => 1000000000 / frequency) := by
  refine ⟨Prescaler.specified, fun _ _ _ _ _ _ found did => init_ok found did,
    fun first scheduler atRest steps => ?_⟩
  have clocked : scheduler.Clocked := clocked_of_steps atRest steps
  exact ⟨clocked, clocked.resolution_eq⟩

/-- A source of 1 kHz is registered for a new timer, and started at 3 Hz. -/
theorem selected_frequency_3_Hz :
    let first : Scheduler Simulated.Timer Simulated.Nvic Simulated.Clock :=
      ⟨Simulated.boardOfLayout DeviceConfig.nrf51, {}, {}⟩
    let config : DeviceConfig := ⟨9, 3, .bits16, 1000⟩
    let hardware : Simulated.Timer := { width := .bits16 }
    let registered := (first.register 1 hardware config).2
    let started := (registered.init 1 3).2
    first.board.AtRest ∧ (registered.init 1 3).1 = .ok (.ok ()) ∧ started.frequency 1 = .ok 3 ∧
      exponent (started.board.peripherals.get ⟨1, by decide⟩) = 8 ∧
      started.resolution 1 = .ok (.ok 333333333) := by
  intro first config hardware registered started
  have atRest : first.board.AtRest := .ofLayout _ _ _ _
  have steps : Relation.ReflTransGen Step first started :=
    .tail (.single (.register 1 hardware config)) (.init 1 3)
  have ok : (registered.init 1 3).1 = .ok (.ok ()) := by decide +kernel
  have found : registered.board.locate 1 = .ok (⟨1, by decide⟩, .ofConfig config) := by
    decide +kernel
  obtain ⟨prescaler, selected, frequency, programmed⟩ :=
    selected_frequencies.2.1 registered started 1 _ _ 3 found (Prod.ext ok rfl)
  obtain ⟨-, periods⟩ := selected_frequencies.2.2 first started atRest steps
  have computed : Prescaler.select config.maxFrequency 3 = .ok ⟨8, 3⟩ := by decide +kernel
  obtain rfl : ⟨8, 3⟩ = prescaler := Except.ok.inj (computed.symm.trans selected)
  refine ⟨atRest, ok, frequency, programmed, ?_⟩
  rw [periods, frequency]
  rfl

end Scheduler

end DeadlineTimers
