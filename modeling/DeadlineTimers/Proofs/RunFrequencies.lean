import DeadlineTimers.Nrf51.Board
import DeadlineTimers.Proofs.Frequencies
import DeadlineTimers.Proofs.Moments

/-!
# No run divides by zero

What the operations of a scheduler keep is kept by everything that a user can do with a machine: on all of
its boards the devices that run have their frequencies, after commands that were answered and after those
that ended in a fault, and in callbacks as well. So no call for the length of a tick, by whomever it is made,
ends in a division by zero. This holds on simulated boards and on boards of the nRF51, as long as no request
goes past the scheduler and sets a prescaler.
-/

namespace DeadlineTimers

variable {R C K X : Type} {α β : Type} [TimerPeripheral R]

/-! ## Faults of operations -/

/-- A fault that is no division by zero is none whatever the answer would have been. -/
theorem error_ne_divisionByZero {fault : Fault}
    (another : (.error fault : Except Fault α) ≠ .error .divisionByZero) :
    (.error fault : Except Fault β) ≠ .error .divisionByZero :=
  fun same => another (congrArg Except.error (Except.error.inj same))

namespace Scheduler

variable [InterruptController C] (scheduler : Scheduler R C K) (id : DeviceId)

theorem read_ne_divisionByZero : (scheduler.read id).1 ≠ .error .divisionByZero := by
  unfold Scheduler.read
  split
  · nofun
  · nofun

theorem spin_ne_divisionByZero (deadline : Ticks) (reads : Nat) :
    (scheduler.spin id deadline reads).1 ≠ .error .divisionByZero := by
  induction reads generalizing scheduler with
  | zero => nofun
  | succ reads ih =>
    have another := scheduler.read_ne_divisionByZero id
    unfold Scheduler.spin
    split
    · next did =>
      rw [did] at another
      exact error_ne_divisionByZero another
    · split
      · nofun
      · exact ih _

theorem delay_ne_divisionByZero (ticks : Ticks) :
    (scheduler.delay id ticks).1 ≠ .error .divisionByZero := by
  have another := scheduler.read_ne_divisionByZero id
  unfold Scheduler.delay
  split
  · next did =>
    rw [did] at another
    exact error_ne_divisionByZero another
  · exact spin_ne_divisionByZero _ _ _ _

theorem init_ne_divisionByZero [ClockSource K] (request : Nat) :
    (scheduler.init id request).1 ≠ .error .divisionByZero := by
  unfold Scheduler.init
  dsimp only
  split
  · nofun
  · split
    · nofun
    · split
      · nofun
      · split
        · nofun
        · split
          · nofun
          · split
            · nofun
            · nofun

end Scheduler

/-! ## Runs that keep the frequencies -/

variable [PrescalerRegister R]

def Machine.Clocked (machine : Machine R C K X) : Prop := ∀ board ∈ machine.boards, board.Clocked

theorem Machine.Clocked.withScheduler {machine : Machine R C K X} {scheduler : Scheduler R C K}
    (clocked : machine.Clocked) (board : BoardId) (own : scheduler.Clocked) :
    (machine.withScheduler board scheduler).Clocked := by
  intro other among
  rcases Array.mem_or_eq_of_mem_setIfInBounds among with before | rfl
  · exact clocked other before
  · exact own

def Request.Permitted (allowed : X → Prop) : Request X → Prop
  | .platform request => allowed request
  | _ => True

namespace Run

/-- From a machine on which the devices that run have their frequencies, the run leads to such a machine,
with an answer or a fault, and the fault is no division by zero. -/
def KeepsClocks (run : Run R C K X α) : Prop :=
  ∀ machine, machine.Clocked →
    (outcome run machine).2.Clocked ∧ (outcome run machine).1 ≠ .error .divisionByZero

namespace KeepsClocks

variable {run : Run R C K X α}

theorem pure (answer : α) : KeepsClocks (Pure.pure answer : Run R C K X α) :=
  fun _ clocked => ⟨clocked, nofun⟩

theorem throw {fault : Fault} (another : fault ≠ .divisionByZero) :
    KeepsClocks (MonadExcept.throw fault : Run R C K X α) :=
  fun _ clocked => ⟨clocked, fun same => another (Except.error.inj same)⟩

theorem get : KeepsClocks (MonadState.get : Run R C K X (Machine R C K X)) :=
  fun _ clocked => ⟨clocked, nofun⟩

theorem note (event : Event X) : KeepsClocks (Run.note event : Run R C K X Unit) :=
  fun _ clocked => ⟨clocked, nofun⟩

/-- The rest of a run need keep the frequencies only for the answers that the first part comes to. -/
theorem bind_of_outcome {next : α → Run R C K X β} (first : KeepsClocks run)
    (rest : ∀ machine answer between, outcome run machine = (.ok answer, between) →
      KeepsClocks (next answer)) : KeepsClocks (run >>= next) := by
  intro machine clocked
  have done := first machine clocked
  rw [outcome_bind]
  split
  · next answer between ran =>
    rw [ran] at done
    exact rest machine answer between ran between done.1
  · next fault between ran =>
    rw [ran] at done
    exact ⟨done.1, error_ne_divisionByZero done.2⟩

theorem bind {next : α → Run R C K X β} (first : KeepsClocks run)
    (rest : ∀ answer, KeepsClocks (next answer)) : KeepsClocks (run >>= next) :=
  first.bind_of_outcome fun _ answer _ _ => rest answer

theorem map (change : α → β) (keeps : KeepsClocks run) : KeepsClocks (change <$> run) := by
  rw [← bind_pure_comp]
  exact keeps.bind fun _ => .pure _

theorem onBoard {operation : Scheduler R C K → α × Scheduler R C K} (board : BoardId)
    (keeps : ∀ scheduler, scheduler.Clocked → (operation scheduler).2.Clocked) :
    KeepsClocks (Run.onBoard board operation : Run R C K X α) := by
  intro machine clocked
  cases found : machine.boards[board]? with
  | none =>
    rw [outcome_onBoard_of_missing found]
    exact ⟨clocked, nofun⟩
  | some present =>
    have own := keeps ⟨present, machine.timers, machine.logger⟩
      (clocked present (Array.mem_of_getElem? found))
    rw [outcome_onBoard_of_present found]
    exact ⟨clocked.withScheduler board own, nofun⟩

theorem onBoardOrFault {operation : Scheduler R C K → Except Fault α × Scheduler R C K}
    (board : BoardId)
    (keeps : ∀ scheduler, scheduler.Clocked →
      (operation scheduler).2.Clocked ∧ (operation scheduler).1 ≠ .error .divisionByZero) :
    KeepsClocks (Run.onBoardOrFault board operation : Run R C K X α) := by
  intro machine clocked
  rw [Run.onBoardOrFault, outcome_bind]
  cases found : machine.boards[board]? with
  | none =>
    rw [outcome_onBoard_of_missing found]
    exact ⟨clocked, fun same => by cases same⟩
  | some present =>
    obtain ⟨own, another⟩ := keeps ⟨present, machine.timers, machine.logger⟩
      (clocked present (Array.mem_of_getElem? found))
    rw [outcome_onBoard_of_present found]
    have left := clocked.withScheduler board own
    dsimp only
    cases result : (operation ⟨present, machine.timers, machine.logger⟩).1 with
    | ok answer => exact ⟨left, fun same => by cases same⟩
    | error fault =>
      rw [result] at another
      exact ⟨left, error_ne_divisionByZero another⟩

theorem ask (board : BoardId) (question : Scheduler R C K → α) :
    KeepsClocks (Run.ask board question : Run R C K X α) :=
  onBoard board fun _ clocked => clocked

end KeepsClocks

/-! ## Running a machine -/

theorem keepsClocks_register (board : BoardId) (id : DeviceId) (timer : R) (config : DeviceConfig) :
    KeepsClocks (register board id timer config : Run R C K X Reply) :=
  (KeepsClocks.onBoard board fun _ clocked => clocked.register id timer config).map _

section Machine

variable [InterruptController C] {fire : Firing → Run R C K X Unit}

theorem keepsClocks_dispatch (fires : ∀ firing, KeepsClocks (fire firing)) (board : BoardId)
    (id : DeviceId) (limit : Nat) : KeepsClocks (dispatch fire board id limit) := by
  induction limit with
  | zero => exact .throw nofun
  | succ limit ih =>
    refine (KeepsClocks.onBoard board fun _ clocked => clocked.takeDue id).bind fun due => ?_
    match due with
    | none => exact .pure 0
    | some ⟨_, _, none⟩ => exact ih
    | some ⟨_, _, some _⟩ => exact (fires _).bind fun _ => ih.bind fun others => .pure (others + 1)

theorem keepsClocks_interrupt (fires : ∀ firing, KeepsClocks (fire firing)) (limit : Nat)
    (board : BoardId) (id : DeviceId) : KeepsClocks (interrupt fire limit board id) := by
  refine (KeepsClocks.onBoard board fun _ clocked => clocked.acknowledge id).bind fun runs => ?_
  cases runs with
  | false => exact .pure 0
  | true =>
    refine (keepsClocks_dispatch fires board id limit).bind fun fired => ?_
    exact (KeepsClocks.onBoard board fun _ clocked => clocked.finish id fired).bind fun _ =>
      .pure fired

variable [ClockSource K] [Platform R C K X]

def PlatformKeepsClocks (R C K : Type) {X : Type} [TimerPeripheral R] [PrescalerRegister R]
    [Platform R C K X] (allowed : X → Prop) : Prop :=
  ∀ interrupt : BoardId → DeviceId → Run R C K X Nat,
    (∀ board id, KeepsClocks (interrupt board id)) → ∀ board request, allowed request →
      KeepsClocks (Platform.perform interrupt board request)

variable {allowed : X → Prop}

theorem keepsClocks_perform (platform : PlatformKeepsClocks R C K allowed)
    (fires : ∀ firing, KeepsClocks (fire firing)) (limit : Nat) (call : Call X)
    (permitted : call.request.Permitted allowed) : KeepsClocks (perform fire limit call) := by
  obtain ⟨board, request⟩ := call
  cases request with
  | init id frequency =>
    exact (KeepsClocks.onBoardOrFault board fun scheduler clocked =>
      ⟨clocked.init id frequency, scheduler.init_ne_divisionByZero id frequency⟩).map _
  | deinit id => exact (KeepsClocks.onBoard board fun _ clocked => clocked.deinit id).map _
  | attach id timer callback arg =>
    exact (KeepsClocks.onBoard board fun _ clocked => clocked.attach id timer callback arg).map _
  | start timer ticks =>
    exact (KeepsClocks.onBoard board fun _ clocked => clocked.start timer ticks).map _
  | startAt timer expiry =>
    exact (KeepsClocks.onBoard board fun _ clocked => clocked.startAt timer expiry).map _
  | stop timer => exact (KeepsClocks.onBoard board fun _ clocked => clocked.stop timer).map _
  | read id =>
    exact (KeepsClocks.onBoardOrFault board fun scheduler clocked =>
      ⟨clocked.read id, scheduler.read_ne_divisionByZero id⟩).map _
  | tryRead id => exact (KeepsClocks.onBoard board fun _ clocked => clocked.tryRead id).map _
  | delay id ticks =>
    exact (KeepsClocks.onBoardOrFault board fun scheduler clocked =>
      ⟨clocked.delay id ticks, scheduler.delay_ne_divisionByZero id ticks⟩).map _
  | resolution id =>
    refine (KeepsClocks.onBoardOrFault board fun scheduler clocked => ⟨clocked, ?_⟩).map _
    rw [clocked.resolution_eq]
    nofun
  | frequency id => exact (KeepsClocks.ask board _).map _
  | isrCount id => exact (KeepsClocks.ask board _).map _
  | pending id => exact (KeepsClocks.ask board _).map _
  | isEnabled id => exact (KeepsClocks.ask board _).map _
  | nextDeadline id => exact (KeepsClocks.ask board _).map _
  | interrupt id => exact (keepsClocks_interrupt fires limit board id).map _
  | timer timer => exact (KeepsClocks.ask board _).map _
  | platform request => exact platform _ (keepsClocks_interrupt fires limit) board request permitted

theorem keepsClocks_runProgram (platform : PlatformKeepsClocks R C K allowed)
    (fires : ∀ firing, KeepsClocks (fire firing)) (limit caller : Nat) {program : Program X}
    (makes : program.Makes (·.Permitted allowed)) :
    KeepsClocks (runProgram fire limit caller program) := by
  induction program with
  | finished => exact .pure ()
  | call call next ih =>
    refine (keepsClocks_perform platform fires limit call makes.1).bind fun reply => ?_
    exact (KeepsClocks.note _).bind fun _ => ih reply (makes.2 reply)

variable {client : Client X}

theorem keepsClocks_fire (platform : PlatformKeepsClocks R C K allowed)
    (makes : client.Makes (·.Permitted allowed)) (limit depth : Nat) (firing : Firing) :
    KeepsClocks (Run.fire client limit depth firing : Run R C K X Unit) := by
  induction depth generalizing firing with
  | zero => exact .throw nofun
  | succ depth ih =>
    refine (KeepsClocks.note _).bind fun _ => KeepsClocks.get.bind fun machine => ?_
    exact keepsClocks_runProgram platform ih limit _ (makes machine.history firing)

def Permits (allowed : X → Prop) : Command X → Prop
  | .call call => call.request.Permitted allowed
  | .register .. => True

theorem keepsClocks_execute (platform : PlatformKeepsClocks R C K allowed)
    (makes : client.Makes (·.Permitted allowed)) (bounds : Bounds) {command : Command X}
    (permits : Permits allowed command) :
    KeepsClocks (execute client bounds command : Run R C K X Reply) := by
  cases command with
  | call call =>
    have fires := keepsClocks_fire platform makes bounds.dispatch bounds.depth
    refine (keepsClocks_perform platform fires bounds.dispatch call permits).bind fun reply => ?_
    exact (KeepsClocks.note _).bind fun _ => .pure reply
  | register board id config =>
    exact (KeepsClocks.onBoard board fun _ clocked => clocked.registerInPlace id config).map _

end Machine

end Run

/-! ## Platforms -/

open PrescalerRegister

/-- Putting a hardware timer in the place of another with the same exponent keeps the frequencies. -/
theorem Scheduler.Clocked.withPeripheral {scheduler : Scheduler R C K} (clocked : scheduler.Clocked)
    (place : Fin maxDevices) {timer : R}
    (same : exponent timer = exponent (scheduler.board.peripherals.get place)) :
    Scheduler.Clocked { scheduler with board := { scheduler.board with
      peripherals := scheduler.board.peripherals.set place timer place.isLt } } := by
  intro other device registered
  refine (clocked other device registered).same ⟨rfl, rfl, rfl, ?_⟩
  by_cases here : other = place
  · subst here
    simpa [Board.port] using same
  · have apart : place.val ≠ other.val := fun equal => here (Fin.ext equal.symm)
    simp [Board.port, Vector.getElem_set_ne, apart]

namespace Simulated

open Run

def LeavesPrescaler : BoardRequest → Prop
  | .access _ (.register (.setPrescaler _)) => False
  | _ => True

theorem exponent_advance (timer : Timer) (ticks : UInt32) :
    exponent (timer.advance ticks) = exponent timer := by
  unfold Timer.advance
  split <;> rfl

theorem exponent_access (timer : Timer) {id : DeviceId} {access : TimerAccess}
    (leaves : LeavesPrescaler (.access id access)) : exponent (access.run timer).2 = exponent timer := by
  cases access with
  | register access =>
    refine PrescalerRegister.exponent_run timer access ?_
    rintro value rfl
    exact leaves
  | advance ticks => exact exponent_advance timer ticks
  | setAutoAdvance ticks => rfl
  | setCounter value => rfl

variable {interrupt : BoardId → DeviceId → SimRun Nat}

theorem keepsClocks_findPeripheral (id : DeviceId) : KeepsClocks (findPeripheral id) := by
  unfold findPeripheral
  split
  · exact .pure _
  · exact .throw nofun

theorem keepsClocks_takeActive (board : BoardId) (place : Fin maxDevices) :
    KeepsClocks (onBoard board (SimScheduler.takeActive place) : SimRun Bool) := by
  refine .onBoard board fun scheduler clocked => ?_
  unfold SimScheduler.takeActive
  dsimp only
  split
  · exact clocked
  · exact clocked

theorem keepsClocks_advance (board : BoardId) (place : Fin maxDevices) (ticks : Ticks) :
    KeepsClocks (advance board place ticks) :=
  .onBoard board fun _ clocked => clocked.withPeripheral place (exponent_advance _ ticks)

section Service

variable (handles : ∀ board id, KeepsClocks (interrupt board id)) (board : BoardId)
include handles

theorem keepsClocks_servicePass (place : Fin maxDevices) (passes : Nat) :
    KeepsClocks (servicePass interrupt board place passes) := by
  induction passes with
  | zero => exact .pure 0
  | succ passes ih =>
    refine (keepsClocks_takeActive board place).bind fun active => ?_
    cases active with
    | false => exact .pure 0
    | true => exact (handles board place).bind fun fired => ih.bind fun others => .pure (fired + others)

theorem keepsClocks_stepTicks (place : Fin maxDevices) (ticks : Nat) :
    KeepsClocks (stepTicks interrupt board place ticks) := by
  induction ticks with
  | zero => exact .pure 0
  | succ ticks ih =>
    exact (keepsClocks_advance board place 1).bind fun _ =>
      (keepsClocks_servicePass handles board place servicePasses).bind fun fired =>
        ih.bind fun others => .pure (fired + others)

theorem keepsClocks_jump (place : Fin maxDevices) (ticks : Ticks) :
    KeepsClocks (jump interrupt board place ticks) :=
  (keepsClocks_advance board place ticks).bind fun _ =>
    keepsClocks_servicePass handles board place servicePasses

theorem keepsClocks_jumps (id : DeviceId) (ticks : Ticks) (times : Nat) :
    KeepsClocks (jumps interrupt board id ticks times) := by
  induction times with
  | zero => exact .pure 0
  | succ times ih =>
    exact (keepsClocks_findPeripheral id).bind fun place =>
      (keepsClocks_jump handles board place ticks).bind fun fired =>
        ih.bind fun others => .pure (fired + others)

end Service

theorem platformKeepsClocks : PlatformKeepsClocks Timer Nvic Clock LeavesPrescaler := by
  intro interrupt handles board request leaves
  cases request with
  | access id access =>
    exact (keepsClocks_findPeripheral id).bind fun place =>
      (KeepsClocks.onBoard board fun _ clocked =>
        clocked.withPeripheral place (exponent_access _ leaves)).map _
  | setPending line =>
    exact (KeepsClocks.onBoard board fun _ clocked => clocked).bind fun _ => .pure _
  | takePending line => exact (KeepsClocks.onBoard board fun _ clocked => clocked).map _
  | service id =>
    exact (keepsClocks_findPeripheral id).bind fun place =>
      (keepsClocks_servicePass handles board place servicePasses).map _
  | step id ticks =>
    exact (keepsClocks_findPeripheral id).bind fun place =>
      ((keepsClocks_servicePass handles board place servicePasses).bind fun fired =>
        (keepsClocks_stepTicks handles board place ticks.toNat).bind fun others =>
          .pure (fired + others)).map _
  | jump id ticks =>
    exact (keepsClocks_findPeripheral id).bind fun place =>
      (keepsClocks_jump handles board place ticks).map _
  | jumps id ticks times => exact (keepsClocks_jumps handles board id ticks times).map _

end Simulated

namespace Nrf51

open Run

/-- A request that does not write a prescaler past the scheduler. -/
def LeavesPrescaler : BoardRequest → Prop
  | .access _ (.setPrescaler _) => False
  | .writeWord address _ => ∀ place offset,
      PageName.ofAddress? address = some (.timer place, offset) → offset / 4 ≠ Timer.prescaler / 4
  | _ => True

variable {interrupt : BoardId → DeviceId → Nrf51Run Nat}

theorem keepsClocks_findTimer (id : DeviceId) : KeepsClocks (findTimer id) := by
  unfold findTimer
  split
  · exact .pure _
  · exact .throw nofun

theorem keepsClocks_findWord (address : Nat) : KeepsClocks (findWord address) := by
  unfold findWord
  split
  · exact .pure _
  · exact .throw nofun

theorem ofAddress_of_findWord {address : Nat} {found : PageName × Nat}
    {machine between : Machine Timer Nvic Clock BoardRequest}
    (ran : outcome (findWord address) machine = (.ok found, between)) :
    PageName.ofAddress? address = some found := by
  unfold findWord at ran
  split at ran
  · next place lies =>
    obtain rfl := Except.ok.inj (congrArg Prod.fst ran)
    exact lies
  · cases congrArg Prod.fst ran

/-- A word that holds no exponent can be written. -/
theorem clocked_writePage {scheduler : Nrf51Scheduler} (clocked : scheduler.Clocked) {offset : Nat}
    {name : PageName} (value : UInt32)
    (elsewhere : ∀ place, name = .timer place → offset / 4 ≠ Timer.prescaler / 4) :
    Scheduler.Clocked
      { scheduler with board := writePage scheduler.board offset value name } := by
  cases name with
  | clock => exact clocked
  | control => exact clocked
  | timer place =>
    refine clocked.withPeripheral place ?_
    exact congrArg UInt32.toNat (Page.read_write_of_ne _ value (elsewhere place rfl))

theorem keepsClocks_changeController (board : BoardId) (line : IrqLine) (change : Nvic → Option Nvic) :
    KeepsClocks (changeController board line change) := by
  refine .onBoardOrFault board fun scheduler clocked => ?_
  dsimp only
  split
  · exact ⟨clocked, nofun⟩
  · exact ⟨clocked, nofun⟩

theorem keepsClocks_dispatchLine (handles : ∀ board id, KeepsClocks (interrupt board id)) (board : BoardId)
    (line : IrqLine) : KeepsClocks (dispatch interrupt board line) := by
  refine (KeepsClocks.ask board _).bind fun route => ?_
  cases route with
  | none => exact .onBoard board fun _ clocked => clocked
  | some id => exact (handles board id).map _

theorem platformKeepsClocks : PlatformKeepsClocks Timer Nvic Clock LeavesPrescaler := by
  intro interrupt handles board request leaves
  cases request with
  | access id access =>
    have another : ∀ value, access ≠ .setPrescaler value := by
      rintro value rfl
      exact leaves
    exact (keepsClocks_findTimer id).bind fun place =>
      (KeepsClocks.onBoard board fun _ clocked =>
        clocked.withPeripheral place (exponent_run _ access another)).map _
  | readWord address =>
    exact (keepsClocks_findWord address).bind fun found =>
      (KeepsClocks.ask board _).bind fun word => .pure _
  | writeWord address value =>
    refine (keepsClocks_findWord address).bind_of_outcome fun machine found between ran => ?_
    refine (KeepsClocks.onBoard board fun _ clocked => ?_).bind fun _ => .pure _
    refine clocked_writePage clocked value fun place named => leaves place found.2 ?_
    rw [ofAddress_of_findWord ran, ← named]
  | testWord address mask =>
    exact (keepsClocks_findWord address).bind fun found => (KeepsClocks.ask board _).map _
  | addressOf address => exact .pure _
  | vector id =>
    exact (keepsClocks_findTimer id).bind fun place =>
      (keepsClocks_dispatchLine handles board _).bind fun _ => .pure _
  | dispatch line => exact (keepsClocks_dispatchLine handles board line).bind fun _ => .pure _
  | route line => exact (KeepsClocks.ask board _).map _
  | install line priority device =>
    exact (keepsClocks_changeController board line _).bind fun _ => .pure _
  | enable line => exact (keepsClocks_changeController board line _).bind fun _ => .pure _
  | setPending line => exact (keepsClocks_changeController board line _).bind fun _ => .pure _

end Nrf51

/-! ## Commands one after another -/

section Commands

open Run

variable [InterruptController C] [ClockSource K] [Platform R C K X] {allowed : X → Prop}
  {machine : Machine R C K X}

/-- The machines that commands lead to from boards at rest, whether they end with an answer or in a fault.
Between them any hardware timer may be registered. -/
inductive Machine.Reached (allowed : X → Prop) : Machine R C K X → Prop where
  | start (boards : Array (Board R C K)) (logger : Log.Logger)
      (atRest : ∀ board ∈ boards, board.AtRest) : Reached allowed (.ofBoards X boards logger)
  | command {machine : Machine R C K X} (reached : Reached allowed machine) (client : Client X)
      (bounds : Bounds) (command : Command X) (makes : client.Makes (·.Permitted allowed))
      (permits : Permits allowed command) :
      Reached allowed (outcome (execute client bounds command) machine).2
  | register {machine : Machine R C K X} (reached : Reached allowed machine) (board : BoardId)
      (id : DeviceId) (timer : R) (config : DeviceConfig) :
      Reached allowed (outcome (Run.register board id timer config) machine).2

theorem Machine.Reached.clocked (reached : machine.Reached allowed)
    (platform : PlatformKeepsClocks R C K allowed) : machine.Clocked := by
  induction reached with
  | start boards logger atRest => exact fun board among => (atRest board among).clocked
  | command _ client bounds command makes permits ih =>
    exact (keepsClocks_execute platform makes bounds permits _ ih).1
  | register _ board id timer config ih =>
    exact (keepsClocks_register board id timer config _ ih).1

/-- Whatever came before, no command ends in a division by zero, nor does a call that a callback makes
meanwhile. -/
theorem Machine.Reached.execute_ne_divisionByZero (reached : machine.Reached allowed)
    (platform : PlatformKeepsClocks R C K allowed) {client : Client X}
    (makes : client.Makes (·.Permitted allowed)) (bounds : Bounds) {command : Command X}
    (permits : Permits allowed command) :
    (outcome (execute client bounds command) machine).1 ≠ .error .divisionByZero :=
  (keepsClocks_execute platform makes bounds permits machine (reached.clocked platform)).2

theorem Simulated.execute_ne_divisionByZero {machine : Machine Timer Nvic Clock BoardRequest}
    (reached : machine.Reached LeavesPrescaler) {client : Client BoardRequest}
    (makes : client.Makes (·.Permitted LeavesPrescaler)) (bounds : Bounds)
    {command : Command BoardRequest} (permits : Permits LeavesPrescaler command) :
    (outcome (execute client bounds command) machine).1 ≠ .error .divisionByZero :=
  reached.execute_ne_divisionByZero platformKeepsClocks makes bounds permits

theorem Nrf51.execute_ne_divisionByZero {machine : Machine Timer Nvic Clock BoardRequest}
    (reached : machine.Reached LeavesPrescaler) {client : Client BoardRequest}
    (makes : client.Makes (·.Permitted LeavesPrescaler)) (bounds : Bounds)
    {command : Command BoardRequest} (permits : Permits LeavesPrescaler command) :
    (outcome (execute client bounds command) machine).1 ≠ .error .divisionByZero :=
  reached.execute_ne_divisionByZero platformKeepsClocks makes bounds permits

end Commands

end DeadlineTimers
