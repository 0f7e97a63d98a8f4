import Mathlib.Algebra.GroupWithZero.Nat
import Fat32.Filesystem.Content
import Fat32.Proofs.Path.Walks
import Fat32.Scan.Basic

/-!
The text of a directory, which has the names in it line by line. A directory is
listed twice for it, once to measure the text and once to write it. On a fixed
device both listings are the same, so a text that was measured and fits is
written as a whole (`readNames_of_fits`), and one that does not fit is not begun.
-/

namespace Fat32

namespace Directory

def text (entries : List Entry) : List UInt8 :=
  entries.flatMap fun entry => entry.name.toUTF8.data.toList ++ [0x0A]

theorem nameLine_eq (entry : Entry) :
    Filesystem.nameLine entry = entry.name.toUTF8.data.toList ++ [0x0A] := by
  have appended : (entry.name ++ "\n").toUTF8 = entry.name.toUTF8 ++ "\n".toUTF8 :=
    String.toByteArray_append
  unfold Filesystem.nameLine
  rw [appended, ByteArray.data_append, Array.toList_append]
  rfl

theorem text_eq_flatMap (entries : List Entry) :
    text entries = entries.flatMap Filesystem.nameLine :=
  congrArg entries.flatMap (funext fun entry => (nameLine_eq entry).symm)

theorem text_cons (entry : Entry) (rest : List Entry) :
    text (entry :: rest) = Filesystem.nameLine entry ++ text rest := by
  rw [nameLine_eq]
  rfl

theorem length_text (entries : List Entry) :
    (text entries).length = (entries.map fun entry => entry.name.utf8ByteSize + 1).sum := by
  have line (entry : Entry) :
      (Filesystem.nameLine entry).length = entry.name.utf8ByteSize + 1 := by
    rw [nameLine_eq, List.length_append]
    rfl
  induction entries with
  | nil => rfl
  | cons entry rest ih =>
    rw [text_cons, List.length_append, line, ih, List.map_cons, List.sum_cons]

end Directory

namespace Filesystem

variable {ι : Type} (medium : Medium) (fs : Filesystem)

def writeLine (limit size : Nat) (entry : Entry) : Attempt (List UInt8) (Step Nat Empty) := do
  let line := nameLine entry
  if limit < size + line.length then throw .bufferTooSmall
  Attempt.emit line
  return .more (size + line.length)

theorem writeLine_of_fits {limit size : Nat} {entry : Entry}
    (fits : size + (nameLine entry).length ≤ limit) :
    (writeLine limit size entry).run.result medium =
        .ok (.more (size + (nameLine entry).length)) ∧
      (writeLine limit size entry).run.itemsOn medium = [nameLine entry] := by
  unfold writeLine
  dsimp only
  rw [if_neg (Nat.not_lt_of_le fits)]
  exact ⟨rfl, rfl⟩

theorem visitList_lines {limit size : Nat} {visitor : Nat → Entry → Except Error (Step Nat Empty)}
    (goesOn : ∀ size entry, size + (nameLine entry).length ≤ limit →
      visitor size entry = .ok (.more (size + (nameLine entry).length)))
    {entries : List Entry} (fits : size + (Directory.text entries).length ≤ limit)
    (ending : Except Error Unit) :
    Attempt.visitList visitor entries ending size =
      ending.map fun () => .more (size + (Directory.text entries).length) := by
  induction entries generalizing size with
  | nil => rfl
  | cons entry rest ih =>
    rw [Directory.text_cons, List.length_append, ← Nat.add_assoc] at fits ⊢
    rw [Attempt.visitList, goesOn size entry (Nat.le_of_add_right_le fits)]
    exact ih fits

theorem visitItems_writeLine {limit size : Nat} {entries : List Entry}
    (fits : size + (Directory.text entries).length ≤ limit) :
    Attempt.visitItems medium (writeLine limit) entries size = entries.map nameLine := by
  induction entries generalizing size with
  | nil => rfl
  | cons entry rest ih =>
    rw [Directory.text_cons, List.length_append, ← Nat.add_assoc] at fits
    obtain ⟨result, items⟩ := writeLine_of_fits medium (Nat.le_of_add_right_le fits)
    rw [Attempt.visitItems, result, items]
    exact congrArg (nameLine entry :: ·) (ih fits)

theorem result_measureNames (cluster : UInt32) :
    (fs.measureNames cluster : Attempt ι Nat).run.result medium =
      ((fs.directory cluster).run.result medium).map fun () =>
        (Directory.text ((fs.directory cluster).run.itemsOn medium)).length := by
  unfold measureNames
  rw [Attempt.result_bind, Attempt.result_visit]
  simp only [Attempt.result_pure]
  rw [visitList_lines (fun _ _ _ => rfl) (Nat.le_refl _)]
  cases (fs.directory cluster).run.result medium with
  | error error => rfl
  | ok => exact congrArg Except.ok (Nat.zero_add _)

theorem itemsOn_measureNames (cluster : UInt32) :
    (fs.measureNames cluster : Attempt ι Nat).run.itemsOn medium = [] := by
  unfold measureNames
  rw [Attempt.itemsOn_bind, Attempt.itemsOn_visit,
    Attempt.visitItems_eq_nil medium _ fun _ _ => rfl]
  split
  · split
    rfl
  · rfl

theorem readNames_of_fits {cluster : UInt32} {limit : Nat}
    (fits : (Directory.text ((fs.directory cluster).run.itemsOn medium)).length ≤ limit) :
    let entries := (fs.directory cluster).run.itemsOn medium
    (fs.readNames cluster limit).run.itemsOn medium = entries.map nameLine ∧
      (fs.readNames cluster limit).run.result medium =
        ((fs.directory cluster).run.result medium).map fun () =>
          (Directory.text entries).length := by
  intro entries
  rw [← Nat.zero_add (Directory.text _).length] at fits
  have goesOn (size : Nat) (entry : Entry) (fits : size + (nameLine entry).length ≤ limit) :=
    (writeLine_of_fits medium fits).1
  have visitor : fs.readNames cluster limit =
    (fs.directory cluster).visit (writeLine limit) 0 >>= _ := rfl
  rw [visitor, Attempt.itemsOn_bind, Attempt.result_bind, Attempt.itemsOn_visit,
    Attempt.result_visit, visitItems_writeLine medium fits, visitList_lines goesOn fits]
  cases (fs.directory cluster).run.result medium with
  | error error => exact ⟨List.append_nil _, rfl⟩
  | ok => exact ⟨List.append_nil _, congrArg Except.ok (Nat.zero_add _)⟩

/-- The two listings behind one another, as far as the first one lets it come. -/
theorem measured_readNames (cluster : UInt32) (limit : Nat) :
    let entries := (fs.directory cluster).run.itemsOn medium
    let reading : Attempt (List UInt8) Nat := do
      if limit < (← fs.measureNames cluster) then throw .bufferTooSmall
      fs.readNames cluster limit
    (reading.run.itemsOn medium, reading.run.result medium) =
      match (fs.directory cluster).run.result medium with
      | .error error => ([], .error error)
      | .ok () =>
        if (Directory.text entries).length ≤ limit then
          (entries.map nameLine, .ok (Directory.text entries).length)
        else ([], .error .bufferTooSmall) := by
  intro entries reading
  unfold reading
  rw [Attempt.itemsOn_bind, Attempt.result_bind, itemsOn_measureNames, result_measureNames]
  cases ended : (fs.directory cluster).run.result medium with
  | error error => rfl
  | ok =>
    simp only [Except.map, List.nil_append]
    by_cases fits : (Directory.text entries).length ≤ limit
    · obtain ⟨items, result⟩ := fs.readNames_of_fits medium fits
      rw [if_pos fits, if_neg (Nat.not_lt_of_le fits), items, result, ended]
      rfl
    · rw [if_neg fits, if_pos (Nat.lt_of_not_le fits)]
      rfl

end Filesystem

/-- A read of a directory into a buffer gives the whole text of the directory, if that was listed
without an error and fits. Else it fails and leaves the buffer as it was. Where there is no
directory, the read is one of a file. -/
theorem directory_reads_all_or_nothing (medium : Medium) (fs : Filesystem) (path : String)
    (buffer : List UInt8) :
    (Scan.fill buffer (fs.pathContents path buffer.length).run : Scan Empty _).result medium =
      match (fs.resolve path : Attempt Empty _).run.result medium with
      | .ok location =>
        match ((fs.directory location.cluster).items : Scan Empty _).result medium with
        | (entries, .ok ()) =>
          let total := (entries.map fun entry => entry.name.utf8ByteSize + 1).sum
          if total ≤ buffer.length then (Directory.text entries ++ buffer.drop total, .ok total)
          else (buffer, .error .bufferTooSmall)
        | (_, .error error) => (buffer, .error error)
      | .error .notFound =>
        (Scan.fill buffer (fs.fileContents path buffer.length).run : Scan Empty _).result medium
      | .error error => (buffer, .error error) := by
  have read : (fs.pathContents path buffer.length).run = (fs.resolve path).run.bind _ := rfl
  rw [Scan.result_fill, read, Scan.itemsOn_bind, Scan.result_bind, Filesystem.itemsOn_resolve,
    Filesystem.result_resolve, Filesystem.result_resolve, List.nil_append]
  cases fs.resolveOn medium path with
  | error error =>
    cases error with
    | notFound => exact (Scan.result_fill medium buffer _).symm
    | _ => rfl
  | ok location =>
    let written (handed : List (List UInt8) × Except Error Nat) :=
      (overlay buffer handed.1.flatten, handed.2)
    have listed : ((fs.directory location.cluster).items : Scan Empty _).result medium =
      ((fs.directory location.cluster).run.itemsOn medium,
        (fs.directory location.cluster).run.result medium) := Scan.result_toList medium _
    refine (congrArg written (fs.measured_readNames medium location.cluster buffer.length)).trans ?_
    dsimp only
    rw [listed]
    cases (fs.directory location.cluster).run.result medium with
    | error error => rfl
    | ok =>
      dsimp only
      rw [← Directory.length_text]
      split
      · unfold written overlay
        rw [← List.flatMap_def, ← Directory.text_eq_flatMap]
      · rfl

end Fat32
