import Fat32.Proofs.Handle.Bound
import Fat32.Proofs.Path.Walks

/-!
The two readers of a file. One copies sectors along the chain, the other seeks,
loads whole clusters and cuts spans out of them. On a device that answers they
end alike and hand out the same bytes, and a client that reads on through a
handle piece by piece comes by the file as a whole.
-/

namespace Fat32

theorem eq_of_map_some {bytes others : List UInt8} (same : bytes.map some = others.map some) :
    bytes = others :=
  List.map_injective_iff.mpr (Option.some_injective _) same

theorem take_overlay {written : List UInt8} (buffer : List UInt8) {count : Nat}
    (counted : written.length = count) : (overlay buffer written).take count = written := by
  rw [overlay, List.take_left' counted]

theorem overlay_of_length_le {buffer written : List UInt8}
    (covers : buffer.length ≤ written.length) : overlay buffer written = written := by
  rw [overlay, List.drop_eq_nil_of_le covers, List.append_nil]

namespace OpenFile

variable {volume : Volume} {medium : Medium}

theorem handsOut_readOn (medium : Medium) (wellFormed : volume.WellFormed) (start : UInt32)
    {size : UInt32} {offset count : Nat} (wanted : 0 < count) (inFile : offset < size.toNat) :
    let reading := readOn volume medium start size offset count
    volume.HandsOut medium start offset (min size.toNat (offset + count))
      (reading.1, reading.2.map fun _ => ()) := by
  have handsOut := Volume.handsOut_cover medium start wellFormed.clusterBytes
    wellFormed.bytesPerCluster_pos (show offset < min size.toNat (offset + count) by omega)
  unfold readOn
  rw [if_neg (Nat.ne_of_gt wanted), if_neg (Nat.not_le_of_lt inFile)]
  dsimp only
  generalize volume.spansOn medium start (Span.cover volume.bytesPerCluster.toNat offset
    (min size.toNat (offset + count))) = reading at *
  obtain ⟨parts, ending⟩ := reading
  cases ending <;> exact handsOut

end OpenFile

namespace Filesystem

variable {ι κ : Type} {medium : Medium} {fs : Filesystem}

/-- Read into one buffer after the other, each time from where the last read ended, up to the first
read that fails. What is left are the bytes that each read gave, and the error. -/
def readOnward (handle : Handle) :
    List (List UInt8) → Nat → Filesystem → Scan κ (List (List UInt8) × Option Error)
  | [], _, _ => return ([], none)
  | buffer :: rest, offset, fs => do
    let (filled, fs, answer) ← fs.readInto handle offset buffer
    match answer with
    | .error error => return ([], some error)
    | .ok count =>
      let (parts, ending) ← readOnward handle rest (offset + count) fs
      return (filled.take count :: parts, ending)

section Steps

variable {handle : Handle} {buffer : List UInt8} {offset : Nat} (rest : List (List UInt8))

theorem result_readOnward_of_error {error : Error}
    (failed : ((fs.readInto handle offset buffer : Scan κ _).result medium).2.2 = .error error) :
    (readOnward handle (buffer :: rest) offset fs : Scan κ _).result medium = ([], some error) := by
  rw [readOnward, Scan.bind_eq, Scan.result_bind]
  dsimp only
  rw [failed]
  rfl

theorem result_readOnward_of_ok {count : Nat}
    (read : ((fs.readInto handle offset buffer : Scan κ _).result medium).2.2 = .ok count) :
    (readOnward handle (buffer :: rest) offset fs : Scan κ _).result medium =
      (((fs.readInto handle offset buffer : Scan κ _).result medium).1.take count ::
        ((readOnward handle rest (offset + count)
          ((fs.readInto handle offset buffer : Scan κ _).result medium).2.1 :
            Scan κ _).result medium).1,
        ((readOnward handle rest (offset + count)
          ((fs.readInto handle offset buffer : Scan κ _).result medium).2.1 :
            Scan κ _).result medium).2) := by
  rw [readOnward, Scan.bind_eq, Scan.result_bind]
  dsimp only
  rw [read]
  dsimp only
  rw [Scan.bind_eq, Scan.result_bind]
  rfl

end Steps

/-- A state in which a handle is open for a file of the volume. -/
structure Reads (volume : Volume) (medium : Medium) (start size : UInt32) (handle : Handle)
    (fs : Filesystem) : Prop where
  mounted : fs.volume = volume
  isOpen : ∃ file, fs.files.get? handle = some file ∧ file.Sound volume medium start size

section Reads

variable {volume : Volume} {start size : UInt32} {handle : Handle} {offset : Nat}
  (reads : fs.Reads volume medium start size handle)

include reads

theorem Reads.readInto (offset : Nat) (buffer : List UInt8) :
    let reading := (fs.readInto handle offset buffer : Scan κ _).result medium
    let expected := OpenFile.readOn volume medium start size offset buffer.length
    reading.2.1.Reads volume medium start size handle ∧
      reading.1 = overlay buffer expected.1.flatten ∧ reading.2.2 = expected.2 := by
  obtain ⟨rfl, file, isOpen, sound⟩ := reads
  obtain ⟨next, state, kept⟩ := readInto_of_sound (κ := κ) isOpen sound offset buffer
  refine ⟨?_, readInto_eq_readOn isOpen sound offset buffer⟩
  rw [state]
  exact ⟨rfl, next, HandleTable.get?_put_self _ _ (HandleTable.lt_of_get? _ isOpen), kept⟩

variable (wellFormed : volume.WellFormed) (faultless : volume.Faultless medium)
  (reaches : 0 < size.toNat → ∃ cluster, volume.clusterAt medium start
    ((size.toNat - 1) / volume.bytesPerCluster.toNat) = .ok cluster)

include wellFormed faultless reaches

theorem Reads.readInto_before {buffer : List UInt8} (wanted : buffer ≠ [])
    (before : offset < size.toNat) :
    let reading := (fs.readInto handle offset buffer : Scan κ _).result medium
    let count := min buffer.length (size.toNat - offset)
    reading.2.2 = .ok count ∧
      (reading.1.take count).map some =
        (List.range' offset count).map (volume.byteOn medium start) := by
  intro reading count
  have positive : 0 < buffer.length := List.length_pos_iff.mpr wanted
  have handsOut := OpenFile.handsOut_readOn medium wellFormed start positive before
  have ended := OpenFile.result_readOn wellFormed faultless start positive before
  obtain ⟨last, located⟩ := reaches (Nat.zero_lt_of_lt before)
  have notBehind : min size.toNat (offset + buffer.length) - 1 ≤ size.toNat - 1 := by omega
  obtain ⟨cluster, here⟩ := Volume.clusterAt_ok_of_le (Nat.div_le_div_right notBehind) located
  have counts : min size.toNat (offset + buffer.length) - offset = count := by omega
  dsimp only at handsOut ended
  rw [here, counts] at ended
  rw [ended] at handsOut
  have bytes := handsOut.complete
  have counted := handsOut.length_flatten
  rw [counts] at bytes counted
  obtain ⟨-, filled, answered⟩ := reads.readInto (κ := κ) offset buffer
  refine ⟨answered.trans ended, ?_⟩
  unfold reading
  rw [filled, take_overlay buffer counted]
  exact bytes

/-- A client that reads on comes by the bytes up to the end of the file. It gets there when it
brings more buffers than there are bytes left. -/
theorem Reads.readOnward {buffers : List (List UInt8)} (nonempty : ∀ buffer ∈ buffers, buffer ≠ [])
    (inFile : offset ≤ size.toNat) :
    let onward := (readOnward handle buffers offset fs : Scan κ _).result medium
    (onward.2 = none ∧ buffers.length ≤ size.toNat - offset) ∨
      (onward.2 = some .endOfFile ∧
        onward.1.flatten.map some =
          (List.range' offset (size.toNat - offset)).map (volume.byteOn medium start)) := by
  -- Only `reads` is carried from read to read. Which cluster the handle holds by then does not
  -- matter.
  induction buffers generalizing fs offset with
  | nil => exact .inl ⟨rfl, Nat.zero_le _⟩
  | cons buffer rest ih =>
    have wanted := nonempty buffer List.mem_cons_self
    have positive : 0 < buffer.length := List.length_pos_iff.mpr wanted
    obtain ⟨kept, -, atEnd⟩ := reads.readInto (κ := κ) offset buffer
    intro onward
    unfold onward
    rcases Nat.eq_or_lt_of_le inFile with rfl | before
    · unfold OpenFile.readOn at atEnd
      rw [if_neg positive.ne', if_pos (Nat.le_refl _)] at atEnd
      rw [result_readOnward_of_error rest atEnd, Nat.sub_self]
      exact .inr ⟨rfl, rfl⟩
    · obtain ⟨answered, bytes⟩ :=
        reads.readInto_before (κ := κ) wellFormed faultless reaches wanted before
      have stillInside : offset + min buffer.length (size.toNat - offset) ≤ size.toNat := by omega
      have further := ih kept (fun other later => nonempty other (List.mem_cons_of_mem _ later))
        stillInside
      rw [result_readOnward_of_ok rest answered]
      rcases further with ⟨unfinished, atMost⟩ | ⟨finished, behind⟩
      · exact .inl ⟨unfinished, by rw [List.length_cons]; omega⟩
      · refine .inr ⟨finished, ?_⟩
        have left : min buffer.length (size.toNat - offset) +
            (size.toNat - (offset + min buffer.length (size.toNat - offset))) =
          size.toNat - offset := by omega
        rw [List.flatten_cons, List.map_append, bytes, behind, ← List.map_append,
          List.range'_append_1, left]

end Reads

theorem clusterAt_of_entryContents (wellFormed : fs.volume.WellFormed)
    (faultless : fs.volume.Faultless medium) {entry : Entry} {limit count : Nat}
    (copied : (fs.entryContents entry limit).run.result medium = .ok count)
    (positive : 0 < min entry.size.toNat limit) :
    ∃ cluster, fs.volume.clusterAt medium entry.cluster
      ((min entry.size.toNat limit - 1) / fs.volume.bytesPerCluster.toNat) = .ok cluster := by
  by_cases started : entry.cluster = 0
  · rw [(entryContents_eq medium fs entry limit positive).2, Volume.chain, if_pos started] at copied
    cases copied
  · rw [result_entryContents medium fs entry limit wellFormed faultless positive started] at copied
    split at copied
    · cases located : fs.volume.clusterAt medium entry.cluster
        ((min entry.size.toNat limit - 1) / fs.volume.bytesPerCluster.toNat) with
      | ok cluster => exact ⟨cluster, rfl⟩
      | error error =>
        rw [located] at copied
        cases copied
    · cases located : fs.volume.clusterAt medium entry.cluster fs.volume.clusterCount.toNat with
      | ok cluster =>
        rw [located] at copied
        cases copied
      | error error =>
        rw [located] at copied
        cases copied

/-- A copy along the chain and a read from the start end alike, as far as the chain walker may
go. -/
theorem result_entryContents_eq_readOn (wellFormed : fs.volume.WellFormed)
    (faultless : fs.volume.Faultless medium) {entry : Entry} {limit : Nat}
    (started : entry.cluster ≠ 0) (positive : 0 < min entry.size.toNat limit)
    (inBound : min entry.size.toNat limit ≤
      fs.volume.clusterCount.toNat * fs.volume.bytesPerCluster.toNat) :
    (fs.entryContents entry limit).run.result medium =
        (OpenFile.readOn fs.volume medium entry.cluster entry.size 0 limit).2 ∧
      (fs.entryContents entry limit).run.result medium =
        (fs.volume.clusterAt medium entry.cluster
          ((min entry.size.toNat limit - 1) / fs.volume.bytesPerCluster.toNat)).map
            fun _ => min entry.size.toNat limit := by
  have within : (min entry.size.toNat limit - 1) / fs.volume.bytesPerCluster.toNat <
      fs.volume.clusterCount.toNat := by
    rw [Nat.div_lt_iff_lt_mul wellFormed.bytesPerCluster_pos]
    omega
  have copied := result_entryContents medium fs entry limit wellFormed faultless positive started
  have wanted : 0 < limit := by omega
  have inFile : 0 < entry.size.toNat := by omega
  have read := OpenFile.result_readOn wellFormed faultless entry.cluster wanted inFile
  dsimp only at copied read
  rw [if_pos within] at copied
  rw [Nat.zero_add, Nat.sub_zero] at read
  exact ⟨copied.trans read.symm, copied⟩

theorem itemsOn_entryContents_eq_readOn (wellFormed : fs.volume.WellFormed) {entry : Entry}
    {limit count : Nat} (positive : 0 < min entry.size.toNat limit)
    (copied : (fs.entryContents entry limit).run.result medium = .ok count)
    (read : (OpenFile.readOn fs.volume medium entry.cluster entry.size 0 limit).2 = .ok count) :
    ((fs.entryContents entry limit).run.itemsOn medium).flatten =
      (OpenFile.readOn fs.volume medium entry.cluster entry.size 0 limit).1.flatten := by
  have wanted : 0 < limit := by omega
  have inFile : 0 < entry.size.toNat := by omega
  have one := handsOut_entryContents medium fs entry limit wellFormed
  have two := OpenFile.handsOut_readOn medium wellFormed entry.cluster wanted inFile
  dsimp only at one two
  rw [copied] at one
  rw [read, Nat.zero_add] at two
  exact eq_of_map_some (one.complete.trans two.complete.symm)

theorem fill_fileContents {path : String} {entry : Entry}
    (found : (fs.lookup path : Attempt Empty _).run.result medium = .ok entry)
    (isFile : entry.isDirectory = false) (buffer : List UInt8) :
    (Scan.fill buffer (fs.fileContents path buffer.length).run : Scan κ _).result medium =
      (overlay buffer ((fs.entryContents entry buffer.length).run.itemsOn medium).flatten,
        (fs.entryContents entry buffer.length).run.result medium) := by
  rw [result_lookup] at found
  unfold fileContents
  rw [Scan.result_fill]
  simp [lookupFileOn, found, isFile]

theorem overlay_entryContents (wellFormed : fs.volume.WellFormed) {entry : Entry} {count : Nat}
    {buffer : List UInt8} (fits : buffer.length = entry.size.toNat)
    (copied : (fs.entryContents entry buffer.length).run.result medium = .ok count) :
    (overlay buffer ((fs.entryContents entry buffer.length).run.itemsOn medium).flatten).map some =
      (List.range' 0 entry.size.toNat).map (fs.volume.byteOn medium entry.cluster) := by
  have handsOut := handsOut_entryContents medium fs entry buffer.length wellFormed
  dsimp only at handsOut
  rw [copied, fits, Nat.min_self] at handsOut
  have counted := handsOut.length_flatten
  have bytes := handsOut.complete
  rw [Nat.sub_zero] at counted bytes
  rw [fits, overlay_of_length_le (by omega)]
  exact bytes

end Filesystem

/-- The two readers of a file agree. Into any buffer, as far as the chain walker may go, they read
the same bytes, or they fail alike because the chain is broken. And if the whole file can be read
along its chain, then whoever reads on through a handle, with any buffers, comes to the end of the
file and has read the same bytes. -/
theorem readers_agree {medium : Medium} {fs : Filesystem} {ledger : Ledger}
    (reachable : Reachable medium fs ledger) (faultless : fs.volume.Faultless medium)
    {path : String} {entry : Entry}
    (found : (fs.lookup path : Attempt Empty _).run.result medium = .ok entry)
    (isFile : entry.isDirectory = false) {handle : Handle}
    (isOpen : (fs.files.get? handle).isSome = true) (opened : ledger handle = some entry) :
    (∀ buffer : List UInt8,
      let wanted := min entry.size.toNat buffer.length
      entry.cluster ≠ 0 → 0 < wanted →
      wanted ≤ fs.volume.clusterCount.toNat * fs.volume.bytesPerCluster.toNat →
      let whole := (Scan.fill buffer (fs.fileContents path buffer.length).run :
        Scan Empty _).result medium
      let reading := (fs.readInto handle 0 buffer : Scan Empty _).result medium
      (whole.2 = .ok wanted ∧ reading.2.2 = .ok wanted ∧ whole.1 = reading.1) ∨
        ∃ error, whole.2 = .error error ∧ reading.2.2 = .error error ∧
          (error = .incompleteRead ∨ error = .corruptChain)) ∧
    ∀ buffer : List UInt8, buffer.length = entry.size.toNat →
      let whole := (Scan.fill buffer (fs.fileContents path buffer.length).run :
        Scan Empty _).result medium
      ∀ count, whole.2 = .ok count →
      ∀ buffers : List (List UInt8), (∀ piece ∈ buffers, piece ≠ []) →
        let onward := (Filesystem.readOnward handle buffers 0 fs : Scan Empty _).result medium
        (onward.2 = none ∧ buffers.length ≤ entry.size.toNat) ∨
          (onward.2 = some .endOfFile ∧ onward.1.flatten = whole.1) := by
  obtain ⟨file, held⟩ := Option.isSome_iff_exists.mp isOpen
  have wellFormed := reachable.kept.wellFormed
  obtain ⟨recorded, same, sound⟩ := reachable.kept.sound handle file held
  rw [opened] at same
  cases same
  have reads : fs.Reads fs.volume medium entry.cluster entry.size handle :=
    ⟨rfl, file, held, sound⟩
  constructor
  · intro buffer wanted started positive inBound whole reading
    obtain ⟨-, filled, answered⟩ := reads.readInto (κ := Empty) 0 buffer
    obtain ⟨alike, ended⟩ := Filesystem.result_entryContents_eq_readOn wellFormed faultless started
      positive inBound
    unfold whole reading
    rw [Filesystem.fill_fileContents found isFile, filled, answered, ← alike]
    cases located : fs.volume.clusterAt medium entry.cluster
      ((min entry.size.toNat buffer.length - 1) / fs.volume.bytesPerCluster.toNat) with
    | error error =>
      rw [located] at ended
      exact .inr ⟨error, ended, ended, Volume.clusterAt_faultless wellFormed faultless located⟩
    | ok cluster =>
      rw [located] at ended
      have bytes := Filesystem.itemsOn_entryContents_eq_readOn wellFormed positive ended
        (alike.symm.trans ended)
      exact .inl ⟨ended, ended, congrArg (overlay buffer) bytes⟩
  · intro buffer fits whole count copied buffers nonempty onward
    unfold whole at copied ⊢
    rw [Filesystem.fill_fileContents found isFile] at copied ⊢
    have reaches : 0 < entry.size.toNat → ∃ cluster, fs.volume.clusterAt medium entry.cluster
        ((entry.size.toNat - 1) / fs.volume.bytesPerCluster.toNat) = .ok cluster := by
      intro positive
      have located := Filesystem.clusterAt_of_entryContents wellFormed faultless copied
        (by rwa [fits, Nat.min_self])
      rwa [fits, Nat.min_self] at located
    have bytes := Filesystem.overlay_entryContents wellFormed fits copied
    rcases reads.readOnward (κ := Empty) wellFormed faultless reaches nonempty (Nat.zero_le _) with
      unfinished | ⟨finished, read⟩
    · exact .inl unfinished
    · exact .inr ⟨finished, eq_of_map_some (read.trans bytes.symm)⟩

/-- The device with the small volume and the file of 600 bytes, where every sector answers. -/
def Volume.answeringMedium : Medium := fun lba =>
  match smallMedium lba with
  | .ok sector => .ok sector
  | .error _ => .ok (Bytes.zero 512)

/-- A file of two clusters is read into four bytes, and with more buffers than it has bytes. -/
theorem readers_agree_small :
    let medium := Volume.answeringMedium
    let entry : Entry := { Entry.looped with size := 600 }
    let fs : Filesystem := ⟨.small, ⟨2, "/", []⟩, HandleTable.empty.put 0 (.atStart 3 600)⟩
    let whole (buffer : List UInt8) :=
      (Scan.fill buffer (fs.fileContents "a.txt" buffer.length).run : Scan Empty _).result medium
    let reading := (fs.readInto 0 0 [7, 7, 7, 7] : Scan Empty _).result medium
    ∃ ledger,
      Reachable medium fs ledger ∧
      fs.volume.Faultless medium ∧
      (fs.lookup "a.txt" : Attempt Empty _).run.result medium = .ok entry ∧
      entry.isDirectory = false ∧
      (fs.files.get? 0).isSome = true ∧
      ledger 0 = some entry ∧
      entry.cluster ≠ 0 ∧
      ((whole [7, 7, 7, 7]).2 = .ok 4 ∧ reading.2.2 = .ok 4 ∧
        (whole [7, 7, 7, 7]).1 = reading.1) ∧
      (whole (.replicate 600 0)).2 = .ok 600 ∧
      ∀ buffers : List (List UInt8), (∀ piece ∈ buffers, piece ≠ []) → 600 < buffers.length →
        let onward := (Filesystem.readOnward 0 buffers 0 fs : Scan Empty _).result medium
        onward.2 = some .endOfFile ∧ onward.1.flatten = (whole (.replicate 600 0)).1 := by
  intro medium entry fs whole reading
  have mounted : Reachable medium ⟨.small, ⟨2, "/", []⟩, .empty⟩ .empty :=
    .small rfl rfl (by decide)
  have reachable := mounted.called (.openFile "a.txt")
  have state : ((Call.run ⟨.small, ⟨2, "/", []⟩, .empty⟩ (.openFile "a.txt") :
      Scan Empty _).result medium).1 = fs := by decide +kernel
  rw [state] at reachable
  have faultless : fs.volume.Faultless medium := by
    intro lba _
    unfold medium Volume.answeringMedium
    split <;> exact ⟨_, rfl⟩
  have found : (fs.lookup "a.txt" : Attempt Empty _).run.result medium = .ok entry :=
    eq_ok_of_toOption (by decide +kernel)
  have opened : (Call.openFile "a.txt").track medium ⟨.small, ⟨2, "/", []⟩, .empty⟩ .empty 0 =
    some entry := by decide +kernel
  have isFile : entry.isDirectory = false := by decide
  obtain ⟨bounded, onward⟩ := readers_agree reachable faultless found isFile rfl opened
  have copied : (whole (.replicate 600 0)).2 = .ok 600 := eq_ok_of_toOption (by decide +kernel)
  have some : (whole [7, 7, 7, 7]).2 = .ok 4 := eq_ok_of_toOption (by decide +kernel)
  refine ⟨_, reachable, faultless, found, isFile, rfl, opened, by decide, ?_, copied, ?_⟩
  · rcases bounded [7, 7, 7, 7] (by decide) (by decide) (by decide) with alike | ⟨error, failed, -⟩
    · exact alike
    · rw [some] at failed
      cases failed
  · intro buffers nonempty more
    rcases onward (.replicate 600 0) List.length_replicate 600 copied buffers nonempty with
      ⟨-, atMost⟩ | finished
    · exact absurd more (Nat.not_lt_of_le atMost)
    · exact finished

end Fat32
