import Fat32.Proofs.Handle.Mounts
import Fat32.Proofs.Handle.Readers

/-!
What reads leave in the buffer of their caller, however they end. Both readers
copy piece by piece before they know whether the rest of a file can be read, so
a read that fails may have written a part. It is the start of what was asked
for, and the rest of the buffer is as it was (`reads_leave_no_foreign_bytes`).
-/

namespace Fat32

/-- A buffer behind a read that came by `count` bytes of a file, from `offset` on. -/
structure Volume.Fills (volume : Volume) (medium : Medium) (start : UInt32) (offset count : Nat)
    (buffer filled : List UInt8) : Prop where
  fits : count ≤ buffer.length
  written : (filled.take count).map some =
    (List.range' offset count).map (volume.byteOn medium start)
  kept : filled.drop count = buffer.drop count

section Fills

variable {volume : Volume} {medium : Medium} {start : UInt32}

theorem Volume.fills_nothing (offset : Nat) (buffer : List UInt8) :
    volume.Fills medium start offset 0 buffer buffer :=
  ⟨Nat.zero_le _, rfl, rfl⟩

/-- What a reading hands out is all that it changes in a buffer. -/
theorem Volume.HandsOut.exists_fills {first last : Nat} {parts : List (List UInt8)}
    {answer : Except Error Nat}
    (handsOut : volume.HandsOut medium start first last (parts, answer.map fun _ => ()))
    (counted : ∀ n, answer = .ok n → n = last - first) {buffer : List UInt8}
    (room : last - first ≤ buffer.length) :
    ∃ count ≤ last - first,
      volume.Fills medium start first count buffer (overlay buffer parts.flatten) ∧
      ∀ n, answer = .ok n → n = count := by
  obtain ⟨count, within, inRow, all⟩ := handsOut
  have length : parts.flatten.length = count := by
    have lengths := congrArg List.length inRow
    rwa [List.length_map, List.length_map, List.length_range'] at lengths
  refine ⟨count, within, ⟨by omega, ?_, ?_⟩, ?_⟩
  · rw [take_overlay buffer length]
    exact inRow
  · rw [overlay, List.drop_left' length, length]
  · rintro n rfl
    exact (counted n rfl).trans (all rfl).symm

end Fills

theorem Filesystem.fills_entryContents (medium : Medium) {fs : Filesystem}
    (wellFormed : fs.volume.WellFormed) (entry : Entry) (buffer : List UInt8) :
    let reading := (fs.entryContents entry buffer.length).run
    ∃ count ≤ entry.size.toNat,
      fs.volume.Fills medium entry.cluster 0 count buffer
        (overlay buffer (reading.itemsOn medium).flatten) ∧
      ∀ n, reading.result medium = .ok n → n = count := by
  intro reading
  have handsOut := handsOut_entryContents medium fs entry buffer.length wellFormed
  obtain ⟨count, within, filled⟩ := handsOut.exists_fills
    (fun n => entryContents_eq_ok medium fs entry buffer.length) (Nat.min_le_right _ _)
  exact ⟨count, Nat.le_trans within (Nat.min_le_left _ _), filled⟩

theorem OpenFile.fills_readOn {volume : Volume} (medium : Medium) (wellFormed : volume.WellFormed)
    (start size : UInt32) (offset : Nat) (buffer : List UInt8) :
    let reading := readOn volume medium start size offset buffer.length
    ∃ count ≤ size.toNat - offset,
      volume.Fills medium start offset count buffer (overlay buffer reading.1.flatten) ∧
      ∀ n, reading.2 = .ok n → n = count := by
  intro reading
  by_cases wanted : buffer = []
  · have nothing : reading = ([], .ok 0) := by
      unfold reading readOn
      rw [wanted]
      rfl
    rw [nothing]
    exact ⟨0, Nat.zero_le _, Volume.fills_nothing offset buffer, fun n same => by cases same; rfl⟩
  · by_cases inFile : offset < size.toNat
    · have handsOut :=
        handsOut_readOn medium wellFormed start (List.length_pos_iff.mpr wanted) inFile
      have counted : ∀ n, reading.2 = .ok n →
          n = min size.toNat (offset + buffer.length) - offset := by
        intro n succeeded
        have taken := (readOn_eq_ok wellFormed wanted succeeded).1
        omega
      have room : min size.toNat (offset + buffer.length) - offset ≤ buffer.length := by omega
      obtain ⟨count, within, filled⟩ := handsOut.exists_fills counted room
      exact ⟨count, by omega, filled⟩
    · have behind : reading = ([], .error .endOfFile) := by
        unfold reading readOn
        rw [if_neg (mt List.length_eq_zero_iff.mp wanted), if_pos (Nat.le_of_not_lt inFile)]
      rw [behind]
      exact ⟨0, Nat.zero_le _, Volume.fills_nothing offset buffer, fun n same => by cases same⟩

/-- Whatever the device answers and however a read ends, what it leaves in the buffer of its caller
is the start of what was asked for, and behind that the buffer as it was. Where there is no file to
read from, the buffer is as it was. -/
theorem reads_leave_no_foreign_bytes {medium : Medium} {fs : Filesystem} {ledger : Ledger}
    (reachable : Reachable medium fs ledger) (buffer : List UInt8) :
    (∀ path,
      let reading := (Scan.fill buffer (fs.fileContents path buffer.length).run :
        Scan Empty _).result medium
      match (fs.lookup path : Attempt Empty _).run.result medium with
      | .error error => reading = (buffer, .error error)
      | .ok entry =>
        if entry.isDirectory then reading = (buffer, .error .notAFile)
        else ∃ count ≤ entry.size.toNat,
          fs.volume.Fills medium entry.cluster 0 count buffer reading.1 ∧
          ∀ n, reading.2 = .ok n → n = count) ∧
    ∀ handle offset,
      let reading := (fs.readInto handle offset buffer : Scan Empty _).result medium
      if (fs.files.get? handle).isSome then
        ∃ entry, ledger handle = some entry ∧ ∃ count ≤ entry.size.toNat - offset,
          fs.volume.Fills medium entry.cluster offset count buffer reading.1 ∧
          ∀ n, reading.2.2 = .ok n → n = count
      else reading = (buffer, fs, .error .badHandle) := by
  have wellFormed := reachable.kept.wellFormed
  constructor
  · intro path reading
    have looked : (fs.lookup path : Attempt Empty _).run.result medium = fs.lookupOn medium path :=
      Filesystem.result_lookup medium fs path
    have filled : reading =
        (overlay buffer ((fs.fileContents path buffer.length).run.itemsOn medium).flatten,
          (fs.fileContents path buffer.length).run.result medium) := Scan.result_fill medium _ _
    rw [looked, filled]
    unfold Filesystem.fileContents
    rw [Attempt.itemsOn_bind, Attempt.result_bind, Filesystem.itemsOn_lookupFile,
      Filesystem.result_lookupFile, Filesystem.lookupFileOn, List.nil_append]
    cases fs.lookupOn medium path with
    | error error => rfl
    | ok entry =>
      cases directory : entry.isDirectory with
      | true => simp [directory]; rfl
      | false => simpa [directory] using Filesystem.fills_entryContents medium wellFormed entry buffer
  · intro handle offset reading
    cases held : fs.files.get? handle with
    | none =>
      have shut := Filesystem.readInto_of_shut (ι := Empty) held offset buffer
      unfold reading
      rw [shut]
      rfl
    | some file =>
      obtain ⟨entry, recorded, sound⟩ := reachable.kept.sound handle file held
      obtain ⟨after, answer⟩ := Filesystem.readInto_eq_readOn (κ := Empty) held sound offset buffer
      refine ⟨entry, recorded, ?_⟩
      unfold reading
      rw [after, answer]
      exact OpenFile.fills_readOn medium wellFormed entry.cluster entry.size offset buffer

/-- The device with the small volume, where the second cluster of the file cannot be read. -/
def Volume.tornMedium : Medium := fun lba =>
  if lba = 4 then .error .readError else smallMedium lba

/-- A read across the border of the two clusters fails behind two bytes. -/
theorem reads_leave_no_foreign_bytes_torn :
    let fs : Filesystem := ⟨.small, ⟨2, "/", []⟩, HandleTable.empty.put 0 (.atStart 3 600)⟩
    let reading := (fs.readInto 0 510 [7, 7, 7, 7] : Scan Empty _).result Volume.tornMedium
    ∃ ledger entry,
      Reachable Volume.tornMedium fs ledger ∧
      (fs.files.get? 0).isSome = true ∧
      ledger 0 = some entry ∧
      reading.1 = [1, 1, 7, 7] ∧
      reading.2.2 = .error (.device .readError) ∧
      ∃ count ≤ entry.size.toNat - 510,
        Volume.small.Fills Volume.tornMedium entry.cluster 510 count [7, 7, 7, 7] reading.1 := by
  intro fs reading
  have mounted : Reachable Volume.tornMedium ⟨.small, ⟨2, "/", []⟩, .empty⟩ .empty :=
    .small rfl rfl (by decide)
  have reachable := mounted.called (.openFile "a.txt")
  have state : ((Call.run ⟨.small, ⟨2, "/", []⟩, .empty⟩ (.openFile "a.txt") :
      Scan Empty _).result Volume.tornMedium).1 = fs := by decide +kernel
  rw [state] at reachable
  obtain ⟨-, reads⟩ := reads_leave_no_foreign_bytes reachable [7, 7, 7, 7]
  have read := reads 0 510
  have isOpen : (fs.files.get? 0).isSome = true := rfl
  dsimp only at read
  rw [if_pos isOpen] at read
  obtain ⟨entry, recorded, count, within, fills, -⟩ := read
  have failed : reading.2.2 = .error (.device .readError) := by decide +kernel
  exact ⟨_, entry, reachable, isOpen, recorded, by decide +kernel, failed, count, within, fills⟩

end Fat32
