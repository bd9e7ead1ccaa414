import DeadlineTimers.Log.Buffer

/-!
# Where a line is cut

A record is written in pieces, character by character, and the first character without room closes the
line. What is left is the longest beginning of the whole text that has room. How the text was divided into
pieces makes no difference, and a character after the cut is lost even if it is short enough for what room
was left.
-/

namespace DeadlineTimers.Log

variable {capacity : Nat} {text line line' : String} {char : Char} {rest : List Char}

/-- The line is what a text leaves when it is cut to a number of bytes between two of its characters. -/
structure IsCut (capacity : Nat) (text line : String) : Prop where
  begins : line.toList <+: text.toList
  fits : line.utf8ByteSize ≤ capacity
  longest : ∀ beginning : String, beginning.toList <+: text.toList →
    beginning.utf8ByteSize ≤ capacity → beginning.toList <+: line.toList

theorem utf8ByteSize_of_append (split : text.toList = line.toList ++ char :: rest) :
    text.utf8ByteSize = line.utf8ByteSize + char.utf8Size + (String.ofList rest).utf8ByteSize := by
  have joined : text = line.push char ++ String.ofList rest := by
    apply String.toList_injective
    simp [split]
  rw [joined, String.utf8ByteSize_append, String.utf8ByteSize_push]

theorem isCut_self (fits : text.utf8ByteSize ≤ capacity) : IsCut capacity text text :=
  ⟨List.prefix_rfl, fits, fun _ begins _ => begins⟩

/-- A beginning of the text is the cut if the character that follows it has no room. -/
theorem isCut_of_full (fits : line.utf8ByteSize ≤ capacity)
    (split : text.toList = line.toList ++ char :: rest)
    (noRoom : capacity < line.utf8ByteSize + char.utf8Size) : IsCut capacity text line := by
  have ofText : line.toList <+: text.toList := split ▸ List.prefix_append _ _
  refine ⟨ofText, fits, fun beginning begins fits' => ?_⟩
  rcases List.prefix_or_prefix_of_prefix begins ofText with shorter | ⟨beyond, longer⟩
  · exact shorter
  -- A longer beginning would have to hold the character without room.
  cases beyond with
  | nil =>
    have same : beginning.toList = line.toList := longer.symm.trans (List.append_nil _)
    exact same ▸ List.prefix_rfl
  | cons next others =>
    obtain ⟨left, whole⟩ := begins
    rw [← longer, split, List.append_assoc, List.append_cancel_left_eq, List.cons_append,
      List.cons.injEq] at whole
    obtain ⟨rfl, -⟩ := whole
    have size := utf8ByteSize_of_append longer.symm
    omega

namespace IsCut

/-- There is only one place to cut. -/
theorem unique (cut : IsCut capacity text line) (cut' : IsCut capacity text line') : line = line' := by
  have shorter := cut'.longest line cut.begins cut.fits
  have longer := cut.longest line' cut'.begins cut'.fits
  exact String.toList_injective (shorter.eq_of_length_le longer.length_le)

theorem stops (cut : IsCut capacity text line) (split : text.toList = line.toList ++ char :: rest) :
    capacity < line.utf8ByteSize + char.utf8Size := by
  apply Nat.lt_of_not_le
  intro room
  have begins : (line.push char).toList <+: text.toList := ⟨rest, by simp [split]⟩
  have fits : (line.push char).utf8ByteSize ≤ capacity := by rwa [String.utf8ByteSize_push]
  have shorter := (cut.longest _ begins fits).length_le
  rw [String.toList_push, List.length_append, List.length_singleton] at shorter
  omega

end IsCut

/-! ## Writing character by character -/

variable {writer : LineWriter} {chars : List Char}

/-- What a writer that was given these characters holds: all of them while it is open, and once it is
closed those before one that had no room. -/
structure Written (chars : List Char) (writer : LineWriter) : Prop where
  fits : writer.text.utf8ByteSize ≤ lineCapacity
  whole : writer.closed = false → chars = writer.text.toList
  stopped : writer.closed = true → ∃ char rest, chars = writer.text.toList ++ char :: rest ∧
    lineCapacity < writer.text.utf8ByteSize + char.utf8Size

namespace Written

theorem start : Written [] {} := ⟨Nat.zero_le _, fun _ => rfl, nofun⟩

theorem put (written : Written chars writer) (char : Char) :
    Written (chars ++ [char]) (writer.put char) := by
  unfold LineWriter.put
  cases closed : writer.closed with
  | true =>
    obtain ⟨first, rest, given, noRoom⟩ := written.stopped closed
    refine ⟨written.fits, fun opened => ?_, fun _ => ⟨first, rest ++ [char], ?_, noRoom⟩⟩
    · exact absurd (closed.symm.trans opened) Bool.noConfusion
    · simp [given]
  | false =>
    have given := written.whole closed
    by_cases room : writer.text.utf8ByteSize + char.utf8Size ≤ lineCapacity
    · rw [if_neg Bool.false_ne_true, if_pos room]
      refine ⟨?_, fun _ => ?_, nofun⟩
      · rwa [String.utf8ByteSize_push]
      · rw [String.toList_push, given]
    · rw [if_neg Bool.false_ne_true, if_neg room]
      refine ⟨written.fits, nofun, fun _ => ⟨char, [], ?_, Nat.lt_of_not_le room⟩⟩
      rw [given]

theorem foldl_put (written : Written chars writer) (more : List Char) :
    Written (chars ++ more) (more.foldl LineWriter.put writer) := by
  induction more generalizing chars writer with
  | nil => rwa [List.append_nil]
  | cons char rest ih =>
    rw [List.append_cons]
    exact ih (written.put char)

theorem isCut (written : Written text.toList writer) : IsCut lineCapacity text writer.text := by
  cases closed : writer.closed with
  | false =>
    have all : text = writer.text := String.toList_injective (written.whole closed)
    rw [all]
    exact isCut_self written.fits
  | true =>
    obtain ⟨char, rest, split, noRoom⟩ := written.stopped closed
    exact isCut_of_full written.fits split noRoom

end Written

theorem isCut_lineOfPieces (pieces : List String) :
    IsCut lineCapacity (String.join pieces) (lineOfPieces pieces) := by
  have written := Written.start.foldl_put (pieces.flatMap String.toList)
  rw [List.foldl_flatMap, List.nil_append, ← String.toList_join] at written
  exact written.isCut

def recordText (level : Level) (message : String) : String := "[" ++ level.name ++ "] " ++ message

theorem isCut_recordLine (level : Level) (pieces : List String) :
    IsCut lineCapacity (recordText level (String.join pieces)) (recordLine level pieces) := by
  have text : String.join ("[" :: level.name :: "] " :: pieces) =
      recordText level (String.join pieces) := by
    simp [recordText, String.append_assoc]
  rw [← text]
  exact isCut_lineOfPieces _

theorem getLast?_push (buffer : Buffer) (line : String) :
    (buffer.push line).lines.getLast? = some line := by
  unfold Buffer.push
  split <;> exact List.getLast?_concat

/-- The line that a record leaves in the ring is its text, cut to 96 bytes before the first character that
has no room, and so it is the same for all ways to divide the message into pieces. -/
theorem Buffer.stores_cut (buffer : Buffer) (level : Level) (pieces : List String) :
    ∃ line, (buffer.pushRecord level pieces).lines.getLast? = some line ∧
      IsCut 96 (recordText level (String.join pieces)) line ∧
      (∀ char rest, (recordText level (String.join pieces)).toList = line.toList ++ char :: rest →
        96 < line.utf8ByteSize + char.utf8Size) ∧
      ∀ others, String.join others = String.join pieces →
        buffer.pushRecord level others = buffer.pushRecord level pieces := by
  have cut := isCut_recordLine level pieces
  refine ⟨recordLine level pieces, getLast?_push buffer _, cut, fun char rest => cut.stops, ?_⟩
  intro others same
  have cut' := isCut_recordLine level others
  rw [same] at cut'
  exact congrArg buffer.push (cut'.unique cut)

/-- A character of two bytes meets one free byte, and the single byte after it is lost. -/
example : recordLine .info [String.ofList (List.replicate 88 'x'), "éy", "z"] =
    "[INFO] " ++ String.ofList (List.replicate 88 'x') := by
  decide +kernel

end DeadlineTimers.Log
