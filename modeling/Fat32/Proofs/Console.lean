import Fat32.Console.Command
import Fat32.Proofs.Scan.Views
import Fat32.Proofs.Text

/-!
What the console writes onto a sink that may be full. Every renderer writes a text in order and
ends where a write fails (`Render.Writes`), so a sink with a capacity holds the longest part of the
text, from its start on, that fits.
-/

namespace Fat32.Console

/-- The longest part of a text, from its start on, that takes at most `limit` bytes. -/
structure LongestFront (limit : Nat) (text front : String) : Prop where
  front_of : front.toList <+: text.toList
  fits : front.utf8ByteSize ≤ limit
  longest : ∀ other, other <+: text.toList → Text.utf8Size other ≤ limit → other <+: front.toList

namespace Sink

variable (sink : Sink)

theorem writeChars_append (front rest : List Char) :
    sink.writeChars (front ++ rest) =
      match sink.writeChars front with
      | (sink, true) => sink.writeChars rest
      | (sink, false) => (sink, false) := by
  induction front generalizing sink with
  | nil => rfl
  | cons c front ih =>
    rw [List.cons_append, writeChars, writeChars]
    split
    · exact ih (sink.push c)
    · rfl

def append (text : List Char) : Sink := { sink with written := sink.written ++ .ofList text }

theorem append_nil : sink.append [] = sink := by
  rw [append, String.ofList_nil, String.append_empty]

theorem append_cons (c : Char) (text : List Char) :
    sink.append (c :: text) = (sink.push c).append text := by
  have same : sink.written ++ String.ofList (c :: text) =
      sink.written.push c ++ String.ofList text := by
    rw [← String.toList_inj]
    simp
  rw [append, same]
  rfl

theorem writeChars_unlimited {sink : Sink} (unlimited : sink.capacity = none) (text : List Char) :
    sink.writeChars text = (sink.append text, true) := by
  induction text generalizing sink with
  | nil => rw [writeChars, append_nil]
  | cons c rest ih =>
    have room : sink.fits c = true := by
      rw [fits, unlimited]
      rfl
    have still : (sink.push c).capacity = none := unlimited
    rw [writeChars, if_pos room, append_cons]
    exact ih still

theorem writeChars_limited {sink : Sink} {limit : Nat} (limited : sink.capacity = some limit)
    (within : sink.written.utf8ByteSize ≤ limit) (text : List Char) :
    ∃ taken left, text = taken ++ left ∧
      sink.writeChars text = (sink.append taken, left.isEmpty) ∧
      sink.written.utf8ByteSize + Text.utf8Size taken ≤ limit ∧
      ∀ c rest, left = c :: rest →
        limit < sink.written.utf8ByteSize + Text.utf8Size taken + c.utf8Size := by
  induction text generalizing sink with
  | nil =>
    refine ⟨[], [], rfl, ?_, within, nofun⟩
    rw [append_nil]
    rfl
  | cons c rest ih =>
    have room : sink.fits c = true ↔ sink.written.utf8ByteSize + c.utf8Size ≤ limit := by
      rw [fits, limited, Option.all_some, decide_eq_true_iff]
    have size : (sink.push c).written.utf8ByteSize = sink.written.utf8ByteSize + c.utf8Size :=
      String.utf8ByteSize_push
    by_cases fits : sink.written.utf8ByteSize + c.utf8Size ≤ limit
    · have still : (sink.push c).capacity = some limit := limited
      obtain ⟨taken, left, rfl, written, inside, full⟩ := ih still (size ▸ fits)
      rw [size, Nat.add_assoc] at inside full
      refine ⟨c :: taken, left, rfl, ?_, inside, full⟩
      rw [writeChars, if_pos (room.mpr fits), written, append_cons]
    · refine ⟨[], c :: rest, rfl, ?_, within, ?_⟩
      · rw [writeChars, if_neg (mt room.mp fits), append_nil]
        rfl
      · intro other others same
        cases same
        exact Nat.lt_of_not_le fits

/-- A sink with a capacity takes the longest front of a text that fits, and says whether that is
the whole text. -/
theorem writeChars_ofCapacity (limit : Nat) (text : List Char) :
    let outcome := (Sink.ofCapacity (some limit)).writeChars text
    LongestFront limit (.ofList text) outcome.1.written ∧
      (outcome.2 = true ↔ Text.utf8Size text ≤ limit) := by
  obtain ⟨taken, left, rfl, written, inside, full⟩ :=
    writeChars_limited (rfl : (Sink.ofCapacity (some limit)).capacity = _) (Nat.zero_le limit) text
  have nothing : (Sink.ofCapacity (some limit)).written.utf8ByteSize = 0 := rfl
  have front : ((Sink.ofCapacity (some limit)).append taken).written = .ofList taken :=
    String.empty_append
  rw [nothing, Nat.zero_add] at inside full
  -- Whatever goes on behind what was taken begins with the character that did not fit.
  have tooLong (more : List Char) (begins : more <+: left) (some : more ≠ []) :
      limit < Text.utf8Size (taken ++ more) := by
    obtain ⟨c, others, rfl⟩ := List.exists_cons_of_ne_nil some
    obtain ⟨rest, rfl⟩ := begins
    have first := full c _ rfl
    rw [Text.utf8Size_append, Text.utf8Size]
    omega
  rw [written]
  dsimp only
  rw [front]
  refine ⟨⟨?_, ?_, fun other begins fits => ?_⟩, ?_⟩
  · rw [String.toList_ofList, String.toList_ofList]
    exact List.prefix_append taken left
  · rw [Text.utf8ByteSize_ofList]
    exact inside
  · rw [String.toList_ofList] at begins ⊢
    rcases List.prefix_or_prefix_of_prefix begins (List.prefix_append taken left) with
      inside | ⟨more, rfl⟩
    · exact inside
    · rw [List.prefix_append_right_inj] at begins
      by_cases nothing : more = []
      · simp [nothing]
      · exact absurd fits (Nat.not_le_of_lt (tooLong more begins nothing))
  · rw [List.isEmpty_iff]
    refine ⟨fun done => ?_, fun fits => ?_⟩
    · rw [done, List.append_nil]
      exact inside
    · by_contra nonempty
      exact absurd fits (Nat.not_le_of_lt (tooLong left List.prefix_rfl nonempty))

end Sink

namespace Render

variable {ι κ α β : Type} {medium : Medium}

/-- On a fixed device the renderer writes the text, piece after piece. It gives its value when the
sink takes all of it, and fails where the sink takes no more. -/
def Writes (medium : Medium) (render : Render κ α) (text : String) (value : α) : Prop :=
  ∀ sink, (render.run.run sink).result medium =
    match sink.writeChars text.toList with
    | (sink, true) => (.ok value, sink)
    | (sink, false) => (.error .full, sink)

theorem writes_chars (chars : List Char) :
    Writes medium (writeChars chars : Render κ Unit) (.ofList chars) () := by
  intro sink
  have run : (writeChars chars : Render κ Unit).run.run sink =
      match sink.writeChars chars with
      | (sink, true) => .done (.ok (), sink)
      | (sink, false) => .done (.error .full, sink) := rfl
  rw [run, String.toList_ofList]
  generalize sink.writeChars chars = outcome
  obtain ⟨sink, _ | _⟩ := outcome <;> rfl

theorem writes_str (text : String) : Writes medium (writeStr text : Render κ Unit) text () := by
  have written : Writes medium (writeStr text : Render κ Unit) _ () := writes_chars text.toList
  rwa [String.ofList_toList] at written

namespace Writes

variable {render : Render κ α} {text : String} {value : α}

theorem pure (value : α) : Writes medium (Pure.pure value : Render κ α) "" value := fun _ => rfl

theorem ofScan (scan : Scan κ α) : Writes medium (.ofScan scan) "" (scan.result medium) := by
  intro sink
  have run : (Render.ofScan scan).run.run sink =
      (scan.bind fun value => .done (value, sink)).bind fun outcome =>
        .done (.ok outcome.1, outcome.2) := rfl
  rw [run, Scan.result_bind, Scan.result_bind]
  rfl

theorem bind {next : α → Render κ β} {rest : String} {last : β}
    (first : Writes medium render text value) (second : Writes medium (next value) rest last) :
    Writes medium (render >>= next) (text ++ rest) last := by
  intro sink
  have run : ((render >>= next).run.run sink).result medium =
      ((ExceptT.bindCont next ((render.run.run sink).result medium).1).run
        ((render.run.run sink).result medium).2).result medium :=
    Scan.result_bind medium _ _
  rw [run, first sink, String.toList_append, Sink.writeChars_append]
  generalize sink.writeChars text.toList = outcome
  obtain ⟨sink, _ | _⟩ := outcome
  · rfl
  · exact second sink

theorem result_onto {render : Render κ Unit} (writes : Writes medium render text ()) (sink : Sink) :
    (render.onto sink).result medium = sink.writeChars text.toList := by
  unfold onto
  rw [Scan.bind_eq, Scan.result_bind, writes sink]
  generalize sink.writeChars text.toList = outcome
  obtain ⟨sink, _ | _⟩ := outcome <;> rfl

end Writes

theorem writes_each_char (chars : List Char) :
    Writes medium (writeEach chars : Render κ Unit) (.ofList chars) () := by
  induction chars with
  | nil => exact .pure ()
  | cons c rest ih =>
    have written : Writes medium (writeEach (c :: rest) : Render κ Unit) _ () :=
      (writes_chars [c]).bind ih
    rwa [← String.ofList_append] at written

theorem writes_each {line : ι → Render κ Unit} {last : Error → Render κ Unit}
    {lineText : ι → String} {lastText : Error → String}
    (lines : ∀ value, Writes medium (line value) (lineText value) ())
    (ends : ∀ cause, Writes medium (last cause) (lastText cause) ())
    (scan : Scan ι (Except Error Unit)) :
    Writes medium (each line last scan)
      (String.join ((scan.itemsOn medium).map lineText) ++
        match scan.result medium with
        | .ok () => ""
        | .error cause => lastText cause) () := by
  induction scan with
  | done result =>
    cases result with
    | ok => exact .pure ()
    | error cause =>
      rw [Scan.itemsOn_done, List.map_nil, String.join_nil, String.empty_append]
      exact ends cause
  | item value rest ih =>
    rw [Scan.itemsOn_item, List.map_cons, String.join_cons, String.append_assoc]
    exact (lines value).bind ih
  | read lba next ih => exact ih (medium lba)
  | report diagnostic rest ih => exact ih

end Render

/-! The texts of the renderers. -/

open Render

variable {κ : Type} {medium : Medium}

def errorText (message : String) : String := red ++ "ERROR" ++ reset ++ " " ++ message ++ "\n"

def promptText (fs : Filesystem) : String := fs.current.path ++ "> "

def entryText (entry : Entry) : String :=
  if entry.isDirectory then blue ++ entry.name ++ "/" ++ reset ++ "\n"
  else entry.name ++ "  " ++ toString entry.size ++ "\n"

def barText (used total width : Nat) : String :=
  let filled := filledCells used total width
  "[" ++ .ofList (List.replicate filled '#' ++ List.replicate (width - filled) ' ') ++ "]"

def diskText (usage : Usage) : String :=
  let used := usage.usedMebibytes
  let total := usage.totalMebibytes
  magenta ++ "Disk" ++ reset ++ "   " ++ barText used total barWidth ++
    " " ++ toString used ++ "MB / " ++ toString total ++ "MB\n"

/-- Bytes as text: as UTF-8 if they are that, else one character for each byte. -/
def decode (bytes : List UInt8) : String :=
  (String.fromUTF8? ⟨bytes.toArray⟩).getD (String.ofList (bytes.map Text.latin1))

def lineEnd (bytes : List UInt8) : String :=
  if bytes.isEmpty || bytes.getLast? == some 0x0A then "" else "\n"

theorem writes_errorLine (message : String) :
    Writes medium (errorLine message : Render κ Unit) (errorText message) () := by
  unfold errorText
  simp only [String.append_assoc]
  exact (writes_str _).bind <| (writes_str _).bind <| (writes_str _).bind <|
    (writes_str _).bind <| (writes_str _).bind <| writes_str _

theorem writes_error (cause : Error) :
    Writes medium (error cause : Render κ Unit) (errorText cause.message) () :=
  writes_errorLine _

theorem writes_bytes (bytes : List UInt8) :
    Writes medium (writeBytes bytes : Render κ Unit) (decode bytes) () := by
  unfold writeBytes decode
  cases String.fromUTF8? ⟨bytes.toArray⟩ with
  | none => exact writes_each_char _
  | some text => exact writes_str text

theorem writes_prompt (fs : Filesystem) :
    Writes medium (prompt fs : Render κ Unit) (promptText fs) () :=
  (writes_str _).bind (writes_str _)

theorem writes_entryLine (entry : Entry) :
    Writes medium (entryLine entry : Render κ Unit) (entryText entry) () := by
  unfold entryLine entryText
  simp only [String.append_assoc]
  split
  · exact (writes_str _).bind <| (writes_str _).bind <| (writes_str _).bind <|
      (writes_str _).bind <| writes_str _
  · exact (writes_str _).bind <| (writes_str _).bind <| (writes_str _).bind <| writes_str _

theorem writes_cells (filled cell count : Nat) :
    Writes medium (cells filled cell count : Render κ Unit)
      (.ofList (List.replicate (min (filled - cell) count) '#' ++
        List.replicate (count - (filled - cell)) ' ')) () := by
  induction count generalizing cell with
  | zero =>
    rw [Nat.min_zero, Nat.zero_sub]
    exact .pure ()
  | succ count ih =>
    have row : Writes medium (cells filled cell (count + 1) : Render κ Unit) _ () :=
      (writes_chars [if cell < filled then '#' else ' ']).bind (ih (cell + 1))
    rw [← String.ofList_append] at row
    by_cases before : cell < filled
    · obtain ⟨more, left⟩ : min (filled - cell) (count + 1) = min (filled - (cell + 1)) count + 1 ∧
          count + 1 - (filled - cell) = count - (filled - (cell + 1)) := by omega
      rw [if_pos before] at row
      rwa [more, left, List.replicate_succ]
    · obtain ⟨here, next⟩ : filled - cell = 0 ∧ filled - (cell + 1) = 0 := by omega
      rw [if_neg before, next, Nat.zero_min, Nat.sub_zero] at row
      rwa [here, Nat.zero_min, Nat.sub_zero, List.replicate_succ]

theorem filledCells_le (used total width : Nat) : filledCells used total width ≤ width := by
  unfold filledCells
  split
  · exact Nat.zero_le width
  · exact Nat.div_le_of_le_mul (Nat.mul_le_mul_right width (Nat.min_le_right used total))

theorem writes_bar (used total width : Nat) :
    Writes medium (bar used total width : Render κ Unit) (barText used total width) () := by
  have row : Writes medium (cells (filledCells used total width) 0 width : Render κ Unit) _ () :=
    writes_cells _ 0 width
  rw [Nat.sub_zero, Nat.min_eq_left (filledCells_le used total width)] at row
  unfold barText
  rw [String.append_assoc]
  exact (writes_str "[").bind (row.bind (writes_str "]"))

theorem writes_diskLine (usage : Usage) :
    Writes medium (diskLine usage : Render κ Unit) (diskText usage) () := by
  unfold diskText
  simp only [String.append_assoc]
  exact (writes_str _).bind <| (writes_str _).bind <| (writes_str _).bind <|
    (writes_str _).bind <| (writes_bar _ _ _).bind <| (writes_str _).bind <|
    (writes_str _).bind <| (writes_str _).bind <| (writes_str _).bind <| writes_str _

def psText : Except Error Usage → String
  | .ok usage => diskText usage
  | .error cause => errorText cause.message

theorem writes_ps (fs : Filesystem) :
    Writes medium (ps fs : Render κ Unit)
      (psText ((fs.volume.usage : Attempt κ _).run.result medium)) () := by
  rw [← @String.empty_append (psText _)]
  refine (Writes.ofScan _).bind ?_
  cases (fs.volume.usage : Attempt κ _).run.result medium with
  | ok usage => exact writes_diskLine usage
  | error cause => exact writes_error cause

def catText : List UInt8 → Except Error Nat → String
  | bytes, .ok _ => decode bytes ++ lineEnd bytes
  | _, .error cause => errorText cause.message

theorem writes_cat (fs : Filesystem) (path : String) (limit : Nat) :
    Writes medium (cat fs path limit : Render κ Unit)
      (catText ((fs.fileContents path limit).run.itemsOn medium).flatten
        ((fs.fileContents path limit).run.result medium)) () := by
  rw [← @String.empty_append (catText _ _)]
  refine (Writes.ofScan _).bind ?_
  rw [Scan.result_toList]
  dsimp only
  generalize ((fs.fileContents path limit).run.itemsOn medium).flatten = bytes
  cases (fs.fileContents path limit).run.result medium with
  | error cause => exact writes_error cause
  | ok count =>
    refine (writes_bytes bytes).bind ?_
    unfold lineEnd
    split
    · exact .pure ()
    · exact writes_str "\n"

def lsText (entries : List Entry) (ending : Except Error Unit) : String :=
  String.join (entries.map entryText) ++
    match ending with
    | .ok () => ""
    | .error cause => errorText cause.message

theorem writes_ls (fs : Filesystem) :
    Writes medium (ls fs : Render κ Unit)
      (lsText (fs.list.run.itemsOn medium) (fs.list.run.result medium)) () :=
  writes_each writes_entryLine writes_error _

namespace Command

/-- What a command has to say on a fixed device. -/
def text (medium : Medium) (fs : Filesystem) : Command → String
  | error cause => errorText cause.message
  | prompt => promptText fs
  | ls => lsText (fs.list.run.itemsOn medium) (fs.list.run.result medium)
  | cd path =>
    match (fs.changeDirectory path : Attempt Empty _).run.result medium with
    | .ok _ => ""
    | .error .notFound => errorText ("no such directory: " ++ path)
    | .error cause => errorText cause.message
  | cat path limit =>
    catText ((fs.fileContents path limit).run.itemsOn medium).flatten
      ((fs.fileContents path limit).run.result medium)
  | ps => psText ((fs.volume.usage : Attempt Empty _).run.result medium)
  | bar used total width => barText used total width

def after (medium : Medium) (fs : Filesystem) : Command → Filesystem
  | cd path => ((fs.changeDirectory path : Attempt Empty _).run.result medium).toOption.getD fs
  | _ => fs

/-- A command writes its text, and leaves a state that does not depend on how much of it fits. -/
theorem result_run (medium : Medium) (fs : Filesystem) (sink : Sink) (command : Command) :
    (command.run fs sink : Scan Empty _).result medium =
      (command.after medium fs, sink.writeChars (command.text medium fs).toList) := by
  have rendered {render : Render Empty Unit} {text : String} (writes : Writes medium render text ())
      (next : Filesystem) : ((render.onto sink).bind fun outcome => .done (next, outcome)).result
        medium = (next, sink.writeChars text.toList) := by
    rw [Scan.result_bind, writes.result_onto]
    rfl
  cases command with
  | error cause => exact rendered (writes_error cause) fs
  | prompt => exact rendered (writes_prompt fs) fs
  | ls => exact rendered (writes_ls fs) fs
  | cat path limit => exact rendered (writes_cat fs path limit) fs
  | ps => exact rendered (writes_ps fs) fs
  | bar used total width => exact rendered (writes_bar used total width) fs
  | cd path =>
    rw [run, Console.cd, Scan.bind_eq, Scan.result_bind, after, text]
    cases (fs.changeDirectory path : Attempt Empty _).run.result medium with
    | ok next => rfl
    | error cause =>
      cases cause
      case notFound => exact rendered (writes_errorLine _) fs
      all_goals exact rendered (writes_error _) fs

end Command

/-- A command that writes onto a sink without a capacity is done, whatever goes wrong on the volume.
Onto a sink with a capacity it writes the longest front of the same text that fits, it is done if
that is the whole text, and it leaves the same state. -/
theorem commands_write_longest_front (medium : Medium) (fs : Filesystem) (command : Command)
    (limit : Nat) :
    let (whole, text, finished) :=
      (command.run fs (.ofCapacity none) : Scan Empty _).result medium
    let (cut, front, complete) :=
      (command.run fs (.ofCapacity (some limit)) : Scan Empty _).result medium
    finished = true ∧ LongestFront limit text.written front.written ∧
      (complete = true ↔ text.written.utf8ByteSize ≤ limit) ∧ cut = whole := by
  rw [Command.result_run, Command.result_run]
  generalize command.text medium fs = text
  obtain ⟨longest, complete⟩ := Sink.writeChars_ofCapacity limit text.toList
  have whole := Sink.writeChars_unlimited (rfl : (Sink.ofCapacity none).capacity = none) text.toList
  have written : ((Sink.ofCapacity none).append text.toList).written = .ofList text.toList :=
    String.empty_append
  rw [whole]
  dsimp only
  rw [written, Text.utf8ByteSize_ofList]
  exact ⟨rfl, longest, complete, rfl⟩

end Fat32.Console
