import DeadlineTimers.Nrf51.Board
import DeadlineTimers.Proofs.Outcome
import Mathlib.Logic.Basic

/-!
# A priority for every line

Four lines share a word of priorities, and installing a line reads the word and writes it back with the
byte of that line replaced. Whatever the words held and however often lines are installed, each line ends
with the priority and the route of its last installation, and no other byte on the board changes. So it
does not matter in which order two lines are installed.
-/

namespace DeadlineTimers.Nrf51

/-! ## Bytes of words -/

/-- The byte of a word at a place, the lowest byte first. -/
def wordByte (word : UInt32) (lane : Nat) : UInt8 := (word >>> UInt32.ofNat (8 * lane)).toUInt8

section WordByte

variable {lane bit : Nat}

theorem getLsbD_wordByte (word : UInt32) (inside : lane < 4) (within : bit < 8) :
    (wordByte word lane).toBitVec.getLsbD bit = word.toBitVec.getLsbD (8 * lane + bit) := by
  have small : 8 * lane % 32 = 8 * lane := Nat.mod_eq_of_lt (by omega)
  simp [wordByte, within, small]

theorem eq_of_wordByte {word word' : UInt32}
    (same : ∀ lane < 4, wordByte word lane = wordByte word' lane) : word = word' := by
  apply UInt32.toBitVec_inj.1
  apply BitVec.eq_of_getLsbD_eq
  intro bit within
  have inside : bit / 8 < 4 := by omega
  have rest : bit % 8 < 8 := Nat.mod_lt _ (by decide)
  have bits := congrArg (fun byte : UInt8 => byte.toBitVec.getLsbD (bit % 8)) (same (bit / 8) inside)
  simpa only [getLsbD_wordByte _ inside rest, Nat.div_add_mod] using bits

theorem getLsbD_lowByte (bit : Nat) : (255#32).getLsbD bit = decide (bit < 8) := by
  rw [show 255#32 = BitVec.ofNat 32 (2 ^ 8 - 1) from rfl, BitVec.getLsbD_ofNat,
    Nat.testBit_two_pow_sub_one]
  by_cases within : bit < 8
  · simp [within]
    omega
  · simp [within]

def replaceByte (word : UInt32) (lane : Nat) (byte : UInt32) : UInt32 :=
  word &&& ~~~(0xFF <<< UInt32.ofNat (8 * lane)) ||| (byte &&& 0xFF) <<< UInt32.ofNat (8 * lane)

theorem getLsbD_replaceByte (word byte : UInt32) (inside : lane < 4) (within : bit < 32) :
    (replaceByte word lane byte).toBitVec.getLsbD bit =
      if bit / 8 = lane then byte.toBitVec.getLsbD (bit % 8) else word.toBitVec.getLsbD bit := by
  have small : 8 * lane % 32 = 8 * lane := Nat.mod_eq_of_lt (by omega)
  simp only [replaceByte, UInt32.toBitVec_or, UInt32.toBitVec_and, UInt32.toBitVec_not,
    UInt32.toBitVec_shiftLeft, UInt32.toBitVec_ofNat, BitVec.getLsbD_or, BitVec.getLsbD_and,
    BitVec.getLsbD_not, BitVec.shiftLeft_eq', BitVec.getLsbD_shiftLeft, getLsbD_lowByte, within]
  split
  · next own =>
    have notBelow : ¬bit < 8 * lane := by omega
    have place : bit - 8 * lane = bit % 8 := by omega
    have low : bit % 8 < 8 := Nat.mod_lt _ (by decide)
    simp [small, notBelow, place, low]
  · next other =>
    have outside : bit < 8 * lane ∨ ¬bit - 8 * lane < 8 := by omega
    rcases outside with below | above
    · simp [small, below]
    · simp [small, above]

theorem wordByte_replaceByte (word byte : UInt32) {other : Nat} (inside : lane < 4)
    (inside' : other < 4) :
    wordByte (replaceByte word lane byte) other =
      if other = lane then byte.toUInt8 else wordByte word other := by
  apply UInt8.toBitVec_inj.1
  apply BitVec.eq_of_getLsbD_eq
  intro bit within
  have lane_of_bit : (8 * other + bit) / 8 = other := by omega
  have bit_of_bit : (8 * other + bit) % 8 = bit := by omega
  rw [getLsbD_wordByte _ inside' within, getLsbD_replaceByte _ _ inside (by omega), lane_of_bit,
    bit_of_bit]
  split
  · simp [within]
  · rw [getLsbD_wordByte _ inside' within]

end WordByte

/-! ## Bytes of pages -/

namespace Page

def byte (page : Page) (offset : Nat) : UInt8 := wordByte (page.read offset) (offset % 4)

variable {page page' : Page} {offset other : Nat}

theorem read_congr (same : offset / 4 = other / 4) : page.read offset = page.read other := by
  rw [read, read, same]

theorem eq_of_byte (same : ∀ offset, page.byte offset = page'.byte offset) : page = page' := by
  have words (index : Nat) : page.read (4 * index) = page'.read (4 * index) := by
    apply eq_of_wordByte
    intro lane inside
    have within : (4 * index + lane) / 4 = 4 * index / 4 := by omega
    have place : (4 * index + lane) % 4 = lane := by omega
    have bytes := same (4 * index + lane)
    rwa [byte, byte, read_congr within, read_congr within, place] at bytes
  obtain ⟨list⟩ := page
  obtain ⟨list'⟩ := page'
  congr 1
  apply Vector.ext
  intro index inside
  simpa [read, inside] using words index

end Page

/-! ## Installing one line -/

namespace Nvic

variable {nvic nvic' : Nvic} {line : IrqLine}

def priorityOffset (line : IrqLine) : Nat := 0x400 + line

/-- What the hardware implements of a priority. -/
def implemented (priority : UInt8) : UInt8 := (priority.toUInt32 <<< 6).toUInt8

theorem implemented_toNat (priority : UInt8) :
    (implemented priority).toNat = priority.toNat <<< 6 &&& 0xFF := by
  have bound := priority.toNat_lt
  have wide : priority.toNat <<< 6 < 2 ^ 32 := by
    rw [Nat.shiftLeft_eq]
    omega
  rw [implemented, UInt32.toNat_toUInt8, UInt32.toNat_shiftLeft, UInt8.toNat_toUInt32,
    show 0xFF = 2 ^ 8 - 1 from rfl, Nat.and_two_pow_sub_one_eq_mod]
  exact congrArg (· % 2 ^ 8) (Nat.mod_eq_of_lt wide)

theorem priorityWord_lt {line : Nat} (inRange : line < lineCount) : priorityWord line < pageBytes := by
  simp only [priorityWord, pageBytes, pageWords, lineCount] at *
  omega

theorem byte_install (inRange : line < lineCount) (priority : UInt8) (device : DeviceId) (offset : Nat) :
    (nvic.install line priority device).page.byte offset =
      if offset = priorityOffset line then implemented priority else nvic.page.byte offset := by
  change (nvic.page.write (priorityWord line) (replaceByte (nvic.page.read (priorityWord line)) (line % 4)
    (priority.toUInt32 <<< 6))).byte offset = _
  have lane (n : Nat) : n % 4 < 4 := Nat.mod_lt n (by decide)
  by_cases here : offset / 4 = priorityWord line / 4
  · have own : offset % 4 = line % 4 ↔ offset = priorityOffset line := by
      simp only [priorityWord, priorityOffset] at here ⊢
      omega
    rw [Page.byte, Page.read_congr here, Page.read_write_self _ _ (priorityWord_lt inRange),
      wordByte_replaceByte _ _ (lane line) (lane offset), Page.byte, Page.read_congr here]
    exact if_congr own rfl rfl
  · have elsewhere : offset ≠ priorityOffset line := by
      simp only [priorityWord, priorityOffset] at here ⊢
      omega
    rw [if_neg elsewhere, Page.byte, Page.byte, Page.read_write_of_ne _ _ (Ne.symm here)]

theorem route_install (inRange : line < lineCount) (priority : UInt8) (device : DeviceId)
    (other : IrqLine) :
    (nvic.install line priority device).route other =
      if other = line then some device else nvic.route other := by
  by_cases same : other = line
  · simp [route, install, same, inRange]
  · simp [route, install, same, Ne.symm same, setPriority]

theorem eq_of_bytes_of_routes (bytes : ∀ offset, nvic.page.byte offset = nvic'.page.byte offset)
    (routes : ∀ line, nvic.route line = nvic'.route line) : nvic = nvic' := by
  have table : nvic.routes = nvic'.routes := by
    apply Vector.ext
    intro line inside
    simpa [route, inside] using routes line
  have page := Page.eq_of_byte bytes
  cases nvic
  cases nvic'
  simp_all

end Nvic

/-! ## Installing line after line -/

structure Installation where
  line : IrqLine
  priority : UInt8
  device : DeviceId

def lastOn (line : IrqLine) (installations : List Installation) : Option Installation :=
  installations.findRev? (line == ·.line)

/-- What is overwritten by some of the steps of a run shows what the last of these wrote. -/
theorem observe_foldl {σ ι α : Type} {step : σ → ι → σ} (observe : σ → α) {touches : ι → Bool}
    {value : ι → α} {items : List ι}
    (each : ∀ state, ∀ item ∈ items,
      observe (step state item) = if touches item then value item else observe state) (state : σ) :
    observe (items.foldl step state) = (items.findRev? touches).elim (observe state) value := by
  induction items generalizing state with
  | nil => rfl
  | cons first rest ih =>
    rw [List.foldl_cons, ih (fun state item among => each state item (List.mem_cons_of_mem _ among)),
      each state first List.mem_cons_self, List.findRev?]
    cases rest.findRev? touches with
    | some last => rfl
    | none => cases touches first <;> rfl

namespace Nvic

variable {nvic : Nvic} {line : IrqLine} {installations : List Installation}

def installAll (nvic : Nvic) (installations : List Installation) : Nvic :=
  installations.foldl (fun nvic next => nvic.install next.line next.priority next.device) nvic

theorem installAll_append (nvic : Nvic) (first second : List Installation) :
    nvic.installAll (first ++ second) = (nvic.installAll first).installAll second :=
  List.foldl_append

variable (inRange : ∀ installation ∈ installations, installation.line < lineCount)

include inRange

theorem byte_installAll (nvic : Nvic) (offset : Nat) :
    (nvic.installAll installations).page.byte offset =
      (installations.findRev? (offset == priorityOffset ·.line)).elim (nvic.page.byte offset)
        (implemented ·.priority) := by
  refine observe_foldl (fun nvic : Nvic => nvic.page.byte offset) ?_ nvic
  intro nvic next among
  rw [byte_install (inRange next among)]
  exact if_congr beq_iff_eq.symm rfl rfl

theorem route_installAll (nvic : Nvic) (line : IrqLine) :
    (nvic.installAll installations).route line =
      (lastOn line installations).elim (nvic.route line) (some ·.device) := by
  refine observe_foldl (fun nvic : Nvic => nvic.route line) ?_ nvic
  intro nvic next among
  rw [route_install (inRange next among)]
  exact if_congr beq_iff_eq.symm rfl rfl

theorem byte_installAll_priorityOffset (nvic : Nvic) (line : IrqLine) :
    (nvic.installAll installations).page.byte (priorityOffset line) =
      (lastOn line installations).elim (nvic.page.byte (priorityOffset line))
        (implemented ·.priority) := by
  have same_line : (fun next : Installation => priorityOffset line == priorityOffset next.line) =
      fun next => line == next.line := by
    funext next
    rw [Bool.eq_iff_iff, beq_iff_eq, beq_iff_eq]
    exact Nat.add_right_inj
  rw [byte_installAll inRange, same_line, lastOn]

theorem byte_installAll_of_untouched (nvic : Nvic) {offset : Nat}
    (untouched : ∀ installation ∈ installations, offset ≠ priorityOffset installation.line) :
    (nvic.installAll installations).page.byte offset = nvic.page.byte offset := by
  have none : installations.findRev? (offset == priorityOffset ·.line) = none := by
    rw [List.findRev?_eq_find?_reverse, List.find?_eq_none]
    intro installation among
    rw [beq_iff_eq]
    exact untouched installation (List.mem_reverse.1 among)
  rw [byte_installAll inRange, none]
  rfl

omit inRange

theorem install_comm {first second : Installation} (inRange : first.line < lineCount)
    (inRange' : second.line < lineCount) (different : first.line ≠ second.line) (nvic : Nvic) :
    nvic.installAll [first, second] = nvic.installAll [second, first] := by
  have apart : priorityOffset first.line ≠ priorityOffset second.line :=
    fun same => different (Nat.add_left_cancel same)
  simp only [installAll, List.foldl_cons, List.foldl_nil]
  apply eq_of_bytes_of_routes
  · intro offset
    simp only [byte_install inRange, byte_install inRange']
    by_cases own : offset = priorityOffset first.line
    · simp [own, apart]
    · simp [own]
  · intro line
    simp only [route_install inRange, route_install inRange']
    by_cases own : line = first.line
    · simp [own, different]
    · simp [own]

end Nvic

/-! ## Installing lines of a board -/

open Run

section Machine

variable (interrupt : BoardId → DeviceId → Nrf51Run Nat)
  {machine : Machine Timer Nvic Clock BoardRequest} {board : BoardId} {present : Nrf51Board}

def withController (machine : Machine Timer Nvic Clock BoardRequest) (board : BoardId)
    (present : Nrf51Board) (controller : Nvic) : Machine Timer Nvic Clock BoardRequest :=
  machine.withScheduler board ⟨{ present with controller }, machine.timers, machine.logger⟩

/-- Asks a board for installations one after another. -/
def requestAll (board : BoardId) (installations : List Installation) : Nrf51Run (List Reply) :=
  installations.mapM fun next =>
    Platform.perform interrupt board (.install next.line next.priority next.device)

theorem getElem?_withController (found : machine.boards[board]? = some present) (controller : Nvic) :
    (withController machine board present controller).boards[board]? =
      some { present with controller } :=
  Machine.getElem?_withScheduler found _

theorem outcome_install (found : machine.boards[board]? = some present) (next : Installation) :
    outcome (Platform.perform interrupt board (.install next.line next.priority next.device)) machine =
      (.ok .done, withController machine board present
        (present.controller.install next.line next.priority next.device)) := by
  have changed : outcome (changeController board next.line
      fun nvic => some (nvic.install next.line next.priority next.device)) machine =
        (.ok (), withController machine board present
          (present.controller.install next.line next.priority next.device)) := by
    rw [changeController, onBoardOrFault, outcome_bind_of_ok (outcome_onBoard_of_present found _)]
    rfl
  exact outcome_bind_of_ok changed

theorem outcome_requestAll (found : machine.boards[board]? = some present)
    (installations : List Installation) :
    outcome (requestAll interrupt board installations) machine =
      (.ok (installations.map fun _ => .done), withController machine board present
        (present.controller.installAll installations)) := by
  induction installations generalizing machine present with
  | nil =>
    rw [requestAll, List.mapM_nil, outcome_pure]
    exact congrArg _ (Machine.withScheduler_self found).symm
  | cons first rest ih =>
    have installed := outcome_install interrupt found first
    have others := ih (getElem?_withController found
      (present.controller.install first.line first.priority first.device))
    rw [requestAll] at others ⊢
    rw [List.mapM_cons, outcome_bind_of_ok installed, outcome_bind_of_ok others, outcome_pure]
    exact congrArg _ (Machine.withScheduler_withScheduler _ _)

end Machine

/-- Whatever lines are installed one after another on a board, each of them has the priority and the route
of its last installation, as far as the hardware implements the priority, and every other byte of the board
is what it was. Two lines can be installed in either order, also if they share a word. -/
theorem installs_per_line (interrupt : BoardId → DeviceId → Nrf51Run Nat)
    (machine : Machine Timer Nvic Clock BoardRequest) (board : BoardId) (present : Nrf51Board)
    (found : machine.boards[board]? = some present) (installations : List Installation)
    (inRange : ∀ installation ∈ installations, installation.line < lineCount) :
    ∃ after : Nrf51Board,
      outcome (requestAll interrupt board installations) machine =
        (.ok (installations.map fun _ => .done),
          machine.withScheduler board ⟨after, machine.timers, machine.logger⟩) ∧
      after = { present with controller := after.controller } ∧
      (∀ line < lineCount,
        let offset := 0x400 + 4 * (line / 4) + line % 4
        match lastOn line installations with
        | some last =>
          (after.controller.page.byte offset).toNat = last.priority.toNat <<< 6 &&& 0xFF ∧
            after.controller.route line = some last.device
        | none =>
          after.controller.page.byte offset = present.controller.page.byte offset ∧
            after.controller.route line = present.controller.route line) ∧
      (∀ name offset,
        (name = .control → ∀ installation ∈ installations, offset ≠ 0x400 + installation.line) →
          (page after name).byte offset = (page present name).byte offset) ∧
      ∀ first second : Installation, first.line < lineCount → second.line < lineCount →
        first.line ≠ second.line →
          outcome (requestAll interrupt board (installations ++ [first, second])) machine =
            outcome (requestAll interrupt board (installations ++ [second, first])) machine := by
  refine ⟨{ present with controller := present.controller.installAll installations },
    outcome_requestAll interrupt found installations, rfl, fun line _ => ?_, fun name offset untouched => ?_,
    fun first second first_inRange second_inRange different => ?_⟩
  · have offset : 0x400 + 4 * (line / 4) + line % 4 = Nvic.priorityOffset line := by
      rw [Nvic.priorityOffset, Nat.add_assoc, Nat.div_add_mod]
    have byte := Nvic.byte_installAll_priorityOffset inRange present.controller line
    have route := Nvic.route_installAll inRange present.controller line
    rw [offset]
    cases last : lastOn line installations with
    | some installation =>
      rw [last] at byte route
      exact ⟨(congrArg UInt8.toNat byte).trans (Nvic.implemented_toNat _), route⟩
    | none =>
      rw [last] at byte route
      exact ⟨byte, route⟩
  · cases name with
    | clock => rfl
    | timer place => rfl
    | control => exact Nvic.byte_installAll_of_untouched inRange _ (untouched rfl)
  · have reordered := Nvic.install_comm first_inRange second_inRange different
      (present.controller.installAll installations)
    rw [outcome_requestAll interrupt found, outcome_requestAll interrupt found, Nvic.installAll_append,
      Nvic.installAll_append, reordered, List.map_append, List.map_append]
    rfl

/-- Two lines that share a word, one of them installed twice and both at priorities with more bits than the
hardware has. The other two bytes of the word stay. -/
theorem installs_two_of_a_word :
    let present := boardAtRest { page := ({} : Page).write 0x408 0xAABBCCDD } .running
    let machine : Machine Timer Nvic Clock BoardRequest := .ofBoards BoardRequest #[present] {}
    let installations : List Installation := [⟨8, 3, 0⟩, ⟨9, 0x41, 1⟩, ⟨8, 0xFE, 2⟩]
    machine.boards[0]? = some present ∧
      (∀ installation ∈ installations, installation.line < lineCount) ∧
      ∃ after : Nrf51Board,
        outcome (requestAll (fun _ _ => pure 0) 0 installations) machine =
          (.ok [.done, .done, .done],
            machine.withScheduler 0 ⟨after, machine.timers, machine.logger⟩) ∧
        (after.controller.page.byte 0x408).toNat = 0x80 ∧
        (after.controller.page.byte 0x409).toNat = 0x40 ∧
        after.controller.page.byte 0x40A = 0xBB ∧ after.controller.page.byte 0x40B = 0xAA ∧
        after.controller.route 8 = some 2 ∧ after.controller.route 9 = some 1 ∧
        after.controller.route 10 = none := by
  intro present machine installations
  have inRange : ∀ installation ∈ installations, installation.line < lineCount := by decide
  obtain ⟨after, ran, -, lines, -, -⟩ :=
    installs_per_line (fun _ _ => pure 0) machine 0 present rfl installations inRange
  have twice := lines 8 (by decide)
  have once := lines 9 (by decide)
  have never := lines 10 (by decide)
  have never' := lines 11 (by decide)
  exact ⟨rfl, inRange, after, ran, twice.1, once.1, never.1.trans (by decide +kernel),
    never'.1.trans (by decide +kernel), twice.2, once.2, never.2.trans (by decide +kernel)⟩

end DeadlineTimers.Nrf51
