import DeadlineTimers.Proofs.Awaits
import DeadlineTimers.Proofs.Queues

/-!
# Steps of a port

`PortStep` lists what one scheduling operation does to a device with its hardware, be it an operation
on this device or on another one. The three steps of the interrupt handler are not in the list, because
between them the compare interrupt need not fit the queue; a device is settled when it does.
-/

namespace DeadlineTimers

namespace Port

open Simulated

/-- A port after a timer was queued: a new head of a device that runs is armed. -/
def enqueued (port : SimPort) (expiry : Ticks) (isHead : Bool)
    (queue : DeadlineQueue queueDepth) : SimPort :=
  if isHead && port.device.enabled then
    ((port.withQueue queue).arm port.device.config.line expiry).2
  else port.withQueue queue

/-- A port after a timer was taken out of its queue: if the head of a device that runs is gone, the
next one is armed. -/
def dequeued (port : SimPort) (timer : TimerId) : SimPort :=
  let removed := port.withQueue (port.device.queue.remove timer).2
  if port.device.queue.isHead timer && port.device.enabled then removed.rearm.2 else removed

/-- What a scheduling operation does to a port that it neither starts nor stops. -/
inductive PortUse : SimPort → SimPort → Prop where
  | elsewhere (port : SimPort) {controller : Nvic}
      (raises : port.controller.Raises controller) : PortUse port { port with controller }
  | enqueue (port : SimPort) {timer : TimerId} {expiry : Ticks} {isHead : Bool}
      {queue : DeadlineQueue queueDepth}
      (inserted : port.device.queue.insert timer expiry = .ok (isHead, queue)) :
      PortUse port (port.enqueued expiry isHead queue)
  | dequeue (port : SimPort) (timer : TimerId) : PortUse port (port.dequeued timer)
  | read (port : SimPort) : PortUse port (port.read port.device.config.line).2
  | advance (port : SimPort) (ticks : UInt32) : PortUse port (port.modifyTimer (·.advance ticks))
  | setAutoAdvance (port : SimPort) (ticks : UInt32) :
      PortUse port (port.modifyTimer (·.setAutoAdvance ticks))

inductive PortStep : SimPort → SimPort → Prop where
  | use {port port' : SimPort} (use : PortUse port port') : PortStep port port'
  | launch (port : SimPort) (prescaler : Prescaler) (id : DeviceId) {installed controller : Nvic}
      (stopped : port.device.enabled = false)
      (install : InterruptController.install port.controller port.device.config.line
        port.device.config.priority id = some installed)
      (enable : InterruptController.enable installed port.device.config.line = some controller) :
      PortStep port (port.launched prescaler controller).rearm.2
  | shutDown (port : SimPort) : PortStep port port.shutDown

variable {port port' : SimPort}

/-! ## What a step keeps -/

theorem ticks_enqueued (port : SimPort) (expiry : Ticks) (isHead : Bool)
    (queue : DeadlineQueue queueDepth) : TickEvents port (port.enqueued expiry isHead queue) := by
  have queued : TickEvents port (port.withQueue queue) := .single (.aside (port.aside_withQueue _))
  unfold enqueued
  split
  · exact queued.trans (ticks_arm _ _ _)
  · exact queued

theorem ticks_dequeued (port : SimPort) (timer : TimerId) :
    TickEvents port (port.dequeued timer) := by
  have removed : TickEvents port (port.withQueue (port.device.queue.remove timer).2) :=
    .single (.aside (port.aside_withQueue _))
  unfold dequeued
  dsimp only
  split
  · exact removed.trans (ticks_rearm _)
  · exact removed

/-- A use is a sequence of events of the tick. -/
theorem PortUse.ticks (use : PortUse port port') : TickEvents port port' := by
  cases use with
  | elsewhere raises =>
    exact .single (.aside ⟨rfl, rfl, rfl, rfl, rfl, fun line => (raises line).2⟩)
  | enqueue inserted => exact port.ticks_enqueued _ _ _
  | dequeue timer => exact port.ticks_dequeued timer
  | read => exact .single (.read port _)
  | advance ticks => exact .single (.advance port ticks)
  | setAutoAdvance ticks => exact .single (.aside ⟨rfl, rfl, rfl, rfl, rfl, fun _ => id⟩)

theorem PortUse.raises (use : PortUse port port') :
    port.controller.Raises port'.controller := by
  cases use with
  | elsewhere raises => exact raises
  | @enqueue timer expiry isHead queue inserted =>
    unfold enqueued
    split
    · exact raises_arm (port.withQueue queue) port.device.config.line expiry
    · exact .refl port.controller
  | dequeue timer =>
    unfold dequeued
    dsimp only
    split
    · exact raises_rearm (port.withQueue (port.device.queue.remove timer).2)
    · exact .refl port.controller
  | read => exact port.raises_read port.device.config.line
  | advance ticks => exact .refl port.controller
  | setAutoAdvance ticks => exact .refl port.controller

theorem PortStep.config_eq (step : PortStep port port') :
    port'.device.config = port.device.config := by
  cases step with
  | use use => exact config_eq_of_ticks use.ticks
  | @launch prescaler id installed controller stopped install enable =>
    have rearmed := config_eq_of_ticks (ticks_rearm (port.launched prescaler controller))
    exact rearmed
  | shutDown => rfl

theorem PortStep.raises (step : PortStep port port') :
    port.controller.Raises port'.controller := by
  cases step with
  | use use => exact use.raises
  | launch prescaler id stopped install enable =>
    exact ((Nvic.raises_install install).trans (Nvic.raises_enable enable).1).trans
      (raises_rearm (port.launched prescaler _))
  | shutDown => exact .refl port.controller

theorem Sound.launched (sound : port.Sound) (prescaler : Prescaler) {controller : Nvic}
    (lineEnabled : controller.isEnabled port.device.config.line = true) :
    Sound (port.launched prescaler controller) := by
  refine ⟨?_, fun _ => port.running_launched prescaler lineEnabled⟩
  rw [(port.launched_timer prescaler controller).2.2.2.2.1]
  exact sound.readSilent

theorem Sound.shutDown (sound : port.Sound) : Sound port.shutDown :=
  ⟨sound.readSilent, fun enabled => Bool.noConfusion enabled⟩

theorem PortStep.sound (step : PortStep port port') (sound : port.Sound) : port'.Sound := by
  cases step with
  | use use => exact sound.events use.ticks
  | launch prescaler id stopped install enable =>
    exact (sound.launched prescaler (Nvic.raises_enable enable).2).events (ticks_rearm _)
  | shutDown => exact sound.shutDown

/-! ## Settled devices -/

/-- The compare interrupt of a device fits the head of its queue. -/
structure Settled (port : SimPort) : Prop where
  idle : port.device.queue.nextExpiry = none →
    port.timer.channels.interrupt.interruptEnabled = false
  compare : ∀ expiry, port.device.queue.nextExpiry = some expiry →
    port.timer.channels.interrupt.interruptEnabled = true →
      port.timer.channels.interrupt.compare = expiry &&& port.device.width.counterMask
  awaits : ∀ expiry, port.device.queue.nextExpiry = some expiry → port.Awaits expiry

theorem settled_arm (running : port.Running) {expiry : Ticks}
    (head : port.device.queue.nextExpiry = some expiry) :
    Settled (port.arm port.device.config.line expiry).2 := by
  have device := port.arm_device port.device.config.line expiry
  have queue : (port.arm port.device.config.line expiry).2.device.queue = port.device.queue := by
    rw [device]
  have width : (port.arm port.device.config.line expiry).2.device.width = port.device.width := by
    rw [device]
  constructor
  · intro none
    rw [queue, head] at none
    cases none
  · intro expiry' head' enabled
    rw [queue, head] at head'
    obtain rfl := Option.some.inj head'
    rw [width]
    exact arm_compare running _ _ enabled
  · intro expiry' head'
    rw [queue, head] at head'
    obtain rfl := Option.some.inj head'
    exact awaits_arm running expiry

theorem settled_rearm (running : port.Running) : Settled port.rearm.2 := by
  unfold Port.rearm
  split
  · next expiry head => exact settled_arm running head
  · next none =>
    have empty : ∀ expiry, port.device.queue.nextExpiry ≠ some expiry := by simp [none]
    exact ⟨fun _ => rfl, fun expiry head => absurd head (empty expiry),
      fun expiry head => absurd head (empty expiry)⟩

theorem lineActive_elsewhere {controller : Nvic} (raises : port.controller.Raises controller)
    (active : port.lineActive = true) : lineActive { port with controller } = true := by
  rw [lineActive, Bool.or_eq_true] at active ⊢
  exact active.imp_left (raises _).1

theorem Settled.withQueue {queue : DeadlineQueue queueDepth} (settled : port.Settled)
    (same : queue.nextExpiry = port.device.queue.nextExpiry) :
    Settled (port.withQueue queue) where
  idle none := settled.idle (same ▸ none)
  compare expiry head := settled.compare expiry (same ▸ head)
  awaits expiry head := (settled.awaits expiry (same ▸ head)).of_same rfl rfl rfl rfl rfl id

theorem Settled.use (use : PortUse port port') (sound : port.Sound)
    (settled : port.device.enabled = true → port.Settled)
    (enabled : port'.device.enabled = true) : port'.Settled := by
  cases use with
  | elsewhere raises =>
    have settled := settled enabled
    exact ⟨settled.idle, settled.compare,
      fun expiry head => (settled.awaits expiry head).of_same rfl rfl rfl rfl rfl
        (lineActive_elsewhere raises)⟩
  | @enqueue timer expiry isHead queue inserted =>
    unfold enqueued at enabled ⊢
    split
    · next arms =>
      obtain ⟨rfl, runs⟩ := Bool.and_eq_true_iff.1 arms
      have running := (sound.running runs).aside (port.aside_withQueue queue)
      exact settled_arm running (DeadlineQueue.nextExpiry_of_insert_head inserted)
    · next behind =>
      rw [if_neg behind] at enabled
      have runs : port.device.enabled = true := enabled
      rw [runs, Bool.and_true, Bool.not_eq_true] at behind
      subst behind
      exact (settled runs).withQueue (DeadlineQueue.nextExpiry_of_insert_behind inserted)
  | dequeue timer =>
    unfold dequeued at enabled ⊢
    dsimp only at enabled ⊢
    split
    · next arms =>
      have runs := (Bool.and_eq_true_iff.1 arms).2
      exact settled_rearm ((sound.running runs).aside (port.aside_withQueue _))
    · next behind =>
      rw [if_neg behind] at enabled
      have runs : port.device.enabled = true := enabled
      rw [runs, Bool.and_true, Bool.not_eq_true] at behind
      exact (settled runs).withQueue (DeadlineQueue.nextExpiry_of_remove_behind behind)
  | read =>
    have device := port.read_device port.device.config.line
    have interrupt := port.read_interrupt port.device.config.line
    rw [device] at enabled
    have settled := settled enabled
    constructor
    · intro none
      rw [device] at none
      rw [interrupt.2]
      exact settled.idle none
    · intro expiry head
      rw [device] at head
      rw [interrupt.1, interrupt.2, device]
      exact settled.compare expiry head
    · intro expiry head
      rw [device] at head
      exact (settled.awaits expiry head).read (sound.running enabled)
  | advance ticks =>
    have compares := port.timer.advance_compare ticks .interrupt
    have enables := port.timer.advance_interruptEnabled ticks .interrupt
    have settled := settled enabled
    constructor
    · exact fun none => enables.trans (settled.idle none)
    · exact fun expiry head enabled =>
        compares.trans (settled.compare expiry head (enables.symm.trans enabled))
    · exact fun expiry head => (settled.awaits expiry head).advance (sound.running ‹_›) ticks
  | setAutoAdvance ticks =>
    have settled := settled enabled
    exact ⟨settled.idle, settled.compare,
      fun expiry head => (settled.awaits expiry head).of_same rfl rfl rfl rfl rfl id⟩

theorem Settled.step (step : PortStep port port') (sound : port.Sound)
    (settled : port.device.enabled = true → port.Settled)
    (enabled : port'.device.enabled = true) : port'.Settled := by
  cases step with
  | use use => exact .use use sound settled enabled
  | launch prescaler id stopped install enable =>
    exact settled_rearm (port.running_launched prescaler (Nvic.raises_enable enable).2)
  | shutDown => exact Bool.noConfusion enabled

end Port

end DeadlineTimers
