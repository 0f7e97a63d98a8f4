import Fat32.Proofs.Content
import Fat32.Proofs.Handle.History

/-!
How far reads from open files go. On a device that answers, a read succeeds
when the chain has a cluster for its last byte (`result_readOn`). Nothing bounds
the way there, so a file whose chain goes round is read on for ever, while the
chain walker and the whole-file reader call its chain corrupt.
-/

namespace Fat32

theorem Scan.result_sectors_of_answers {medium : Medium} {block count : Nat}
    (answers : ∀ index < count, ∃ sector, medium (.ofNat (block + index)) = .ok sector)
    (inWord : block + count ≤ Word.limit) :
    (sectors block count).result medium = .ok () := by
  induction count generalizing block with
  | zero => rfl
  | succ count ih =>
    obtain ⟨sector, answered⟩ := answers 0 (Nat.succ_pos count)
    rw [Nat.add_zero] at answered
    rw [sectors, if_pos (by omega), result_read, answered]
    refine ih (fun index below => ?_) (by omega)
    have next := answers (index + 1) (Nat.succ_lt_succ below)
    rwa [Nat.add_comm index, ← Nat.add_assoc] at next

namespace Volume

variable {volume : Volume} {medium : Medium} {start : UInt32}

theorem clusterAt_eq_error_of_le {index later : Nat} (ordered : index ≤ later) {error : Error}
    (failed : volume.clusterAt medium start index = .error error) :
    volume.clusterAt medium start later = .error error := by
  unfold clusterAt at *
  split at failed
  · rename_i valid
    rw [if_pos valid, travel_eq_error_of_le ordered failed]
  · rename_i unfit
    rw [if_neg unfit, failed]

theorem clusterAt_ok_of_le {index later : Nat} (ordered : index ≤ later) {cluster : UInt32}
    (located : volume.clusterAt medium start later = .ok cluster) :
    ∃ before, volume.clusterAt medium start index = .ok before := by
  cases reached : volume.clusterAt medium start index with
  | ok before => exact ⟨before, rfl⟩
  | error error =>
    rw [clusterAt_eq_error_of_le ordered reached] at located
    cases located

variable (wellFormed : volume.WellFormed) (faultless : volume.Faultless medium)

include wellFormed faultless

theorem contentOn_faultless {cluster : UInt32} (valid : volume.isCluster cluster = true) :
    ∃ bytes, volume.contentOn medium cluster = .ok bytes := by
  have ends := wellFormed.extent_end_le valid
  have length := wellFormed.extent_length valid
  have starts := wellFormed.toNat_clusterStart valid
  have inWord := wellFormed.inWord
  have loaded : (Scan.sectors (volume.clusterStart cluster).toNat
      volume.sectorsPerCluster.toNat).result medium = .ok () := by
    apply Scan.result_sectors_of_answers
    · intro index inCluster
      rw [UInt32.ofNat_add, UInt32.ofNat_toNat]
      exact wellFormed.answers_cluster faultless valid index inCluster
    · omega
  unfold contentOn
  dsimp only
  rw [loaded]
  exact ⟨_, rfl⟩

theorem clusterAt_faultless {index : Nat} {error : Error}
    (failed : volume.clusterAt medium start index = .error error) :
    error = .incompleteRead ∨ error = .corruptChain := by
  unfold clusterAt at failed
  split at failed
  · rename_i valid
    exact wellFormed.travel_faultless faultless valid failed
  · cases failed
    exact .inr rfl

theorem ending_spansOn_cons (span : Span) (rest : List Span) :
    (volume.spansOn medium start (span :: rest)).2 =
      (volume.clusterAt medium start span.index).bind fun _ =>
        (volume.spansOn medium start rest).2 := by
  rw [spansOn]
  cases located : volume.clusterAt medium start span.index with
  | error error => rfl
  | ok cluster =>
    obtain ⟨bytes, loaded⟩ :=
      contentOn_faultless wellFormed faultless (isCluster_of_clusterAt located)
    dsimp only
    rw [loaded]
    rfl

theorem ending_spansOn (clusterSize offset stop index count : Nat) :
    (volume.spansOn medium start
      ((List.range' index (count + 1)).map (Span.within clusterSize offset stop))).2 =
      (volume.clusterAt medium start (index + count)).map fun _ => () := by
  induction count generalizing index with
  | zero =>
    rw [List.range'_succ, List.map_cons, ending_spansOn_cons wellFormed faultless]
    change (volume.clusterAt medium start index).bind _ = _
    cases volume.clusterAt medium start index <;> rfl
  | succ count ih =>
    rw [List.range'_succ, List.map_cons, ending_spansOn_cons wellFormed faultless, ih,
      Nat.add_assoc, Nat.add_comm 1]
    change (volume.clusterAt medium start index).bind _ = _
    cases located : volume.clusterAt medium start index with
    | ok cluster => rfl
    | error error =>
      rw [clusterAt_eq_error_of_le (Nat.le_add_right index (count + 1)) located]
      rfl

end Volume

namespace OpenFile

variable {volume : Volume} {medium : Medium}

/-- A read succeeds when the chain has a cluster for the last byte, however far that is. -/
theorem result_readOn (wellFormed : volume.WellFormed) (faultless : volume.Faultless medium)
    (start : UInt32) {size : UInt32} {offset count : Nat} (wanted : 0 < count)
    (inFile : offset < size.toNat) :
    let stop := min size.toNat (offset + count)
    (readOn volume medium start size offset count).2 =
      (volume.clusterAt medium start ((stop - 1) / volume.bytesPerCluster.toNat)).map
        fun _ => stop - offset := by
  intro stop
  have inOrder : offset / volume.bytesPerCluster.toNat ≤
      (stop - 1) / volume.bytesPerCluster.toNat := Nat.div_le_div_right (by omega)
  have spans : (stop - 1) / volume.bytesPerCluster.toNat + 1 -
      offset / volume.bytesPerCluster.toNat = (stop - 1) / volume.bytesPerCluster.toNat -
        offset / volume.bytesPerCluster.toNat + 1 := Nat.sub_add_comm inOrder
  unfold readOn
  rw [if_neg (Nat.ne_of_gt wanted), if_neg (Nat.not_le_of_lt inFile)]
  dsimp only
  rw [Span.cover_eq, spans, Volume.ending_spansOn wellFormed faultless, Nat.add_sub_of_le inOrder]
  cases volume.clusterAt medium start ((stop - 1) / volume.bytesPerCluster.toNat) <;> rfl

end OpenFile

/-- A read that needs a cluster as far along the chain as the volume has clusters. If the chain
does not get there, the read fails for the reason for which the chain ends. If it does, it has met
a cluster twice and goes round for ever: the read succeeds all the same, while the chain walker and
the whole-file reader find the chain corrupt. -/
theorem reads_beyond_bound {medium : Medium} {fs : Filesystem} {ledger : Ledger}
    (reachable : Reachable medium fs ledger) (faultless : fs.volume.Faultless medium)
    {handle : Handle} (isOpen : (fs.files.get? handle).isSome = true) (offset : Nat)
    {buffer : List UInt8} (wanted : buffer ≠ []) :
    ∃ entry, ledger handle = some entry ∧
      (offset < entry.size.toNat →
        let stop := min entry.size.toNat (offset + buffer.length)
        fs.volume.clusterCount.toNat ≤ (stop - 1) / fs.volume.bytesPerCluster.toNat →
        let answer := ((fs.readInto handle offset buffer : Scan Empty _).result medium).2.2
        match fs.volume.clusterAt medium entry.cluster fs.volume.clusterCount.toNat with
        | .error error =>
          answer = .error error ∧ (error = .incompleteRead ∨ error = .corruptChain)
        | .ok _ =>
          answer = .ok (stop - offset) ∧
          (∃ first second cluster, first < second ∧ second ≤ fs.volume.clusterCount.toNat ∧
            fs.volume.clusterAt medium entry.cluster first = .ok cluster ∧
            fs.volume.clusterAt medium entry.cluster second = .ok cluster) ∧
          (fs.volume.chain entry.cluster).run.result medium = .error .corruptChain ∧
          ∀ limit, fs.volume.clusterCount.toNat * fs.volume.bytesPerCluster.toNat <
              min entry.size.toNat limit →
            (fs.entryContents entry limit).run.result medium = .error .corruptChain) := by
  obtain ⟨file, found⟩ := Option.isSome_iff_exists.mp isOpen
  have kept := reachable.kept
  have wellFormed := kept.wellFormed
  obtain ⟨entry, recorded, sound⟩ := kept.sound handle file found
  refine ⟨entry, recorded, ?_⟩
  intro inFile stop beyond answer
  have answered : answer = _ :=
    (Filesystem.readInto_eq_readOn (κ := Empty) found sound offset buffer).2
  rw [OpenFile.result_readOn wellFormed faultless _ (List.length_pos_iff.mpr wanted) inFile]
    at answered
  cases located : fs.volume.clusterAt medium entry.cluster fs.volume.clusterCount.toNat with
  | error error =>
    rw [Volume.clusterAt_eq_error_of_le beyond located] at answered
    exact ⟨answered, Volume.clusterAt_faultless wellFormed faultless located⟩
  | ok last =>
    have valid := (Volume.pathOn_of_clusterAt located).1
    have started := wellFormed.ne_zero_of_isCluster valid
    have walks (hops : Nat) : fs.volume.clusterAt medium entry.cluster hops =
        fs.volume.travel medium hops entry.cluster := if_pos valid
    rw [walks] at located
    obtain ⟨first, second, cluster, before, within, once, again⟩ :=
      wellFormed.exists_repeat valid located
    obtain ⟨cluster', reached⟩ := Volume.travel_of_repeat before once again
      ((stop - 1) / fs.volume.bytesPerCluster.toNat)
    rw [walks, reached] at answered
    refine ⟨answered, ⟨first, second, cluster, before, within, ?_, ?_⟩, ?_, ?_⟩
    · rw [walks, once]
    · rw [walks, again]
    · rw [Volume.result_chain valid started, located]
    · intro limit longer
      have notWithin : ¬ (min entry.size.toNat limit - 1) / fs.volume.bytesPerCluster.toNat <
          fs.volume.clusterCount.toNat := by
        rw [Nat.div_lt_iff_lt_mul wellFormed.bytesPerCluster_pos]
        omega
      rw [Filesystem.result_entryContents medium fs entry limit wellFormed faultless (by omega)
        started, if_neg notWithin, walks, located]
      rfl

/-- A device with the small volume. The file `a.txt` claims 4097 bytes, and its only cluster links
to itself. -/
def Volume.loopMedium : Medium := fun lba =>
  match lba.toNat with
  | 0 => .ok smallBoot
  | 1 => .ok (.ofList 512 [0xF8, 0xFF, 0xFF, 0x0F, 0xFF, 0xFF, 0xFF, 0x0F, 0xFF, 0xFF, 0xFF, 0x0F,
      3, 0, 0, 0])
  | 2 => .ok (.ofList 512 [0x41, 0x20, 0x20, 0x20, 0x20, 0x20, 0x20, 0x20, 0x54, 0x58, 0x54, 0x20,
      0, 0, 0, 0, 0, 0, 0, 0, 0, 0, 0, 0, 0, 0, 3, 0, 1, 0x10, 0, 0])
  | 3 => .ok (.replicate 512 1)
  | _ => .ok (Bytes.zero 512)

theorem Volume.loopMedium_answers (lba : UInt32) : ∃ sector, loopMedium lba = .ok sector := by
  unfold loopMedium
  split <;> exact ⟨_, rfl⟩

def Entry.looped : Entry where
  name := "a.txt"
  shortName := ⟨#v[0x41, 0x20, 0x20, 0x20, 0x20, 0x20, 0x20, 0x20, 0x54, 0x58, 0x54]⟩
  attributes := ⟨0x20⟩
  cluster := 3
  size := 4097

def Filesystem.looped : Filesystem :=
  ⟨.small, ⟨2, "/", []⟩, HandleTable.empty.put 0 (.atStart 3 4097)⟩

theorem Filesystem.reachable_looped :
    ∃ ledger, Reachable Volume.loopMedium looped ledger ∧ ledger 0 = some .looped := by
  have mounted : Reachable Volume.loopMedium ⟨.small, ⟨2, "/", []⟩, .empty⟩ .empty :=
    .small rfl rfl (by decide)
  have opened := mounted.called (.openFile "a.txt")
  have state : ((Call.run ⟨.small, ⟨2, "/", []⟩, .empty⟩ (.openFile "a.txt") : Scan Empty _).result
      Volume.loopMedium).1 = looped := by decide +kernel
  rw [state] at opened
  exact ⟨_, opened, by decide +kernel⟩

set_option maxRecDepth 4000 in
/-- The last byte of the file lies in the ninth cluster of a volume of eight, and it is read. -/
theorem reads_beyond_bound_small :
    let reading := (Filesystem.looped.readInto 0 4096 [7] : Scan Empty _).result Volume.loopMedium
    ∃ ledger,
      Reachable Volume.loopMedium .looped ledger ∧
      Filesystem.looped.volume.Faultless Volume.loopMedium ∧
      (Filesystem.looped.files.get? 0).isSome = true ∧
      [7] ≠ ([] : List UInt8) ∧
      ledger 0 = some .looped ∧
      4096 < Entry.looped.size.toNat ∧
      8 ≤ (min Entry.looped.size.toNat (4096 + 1) - 1) / 512 ∧
      reading.2.2 = .ok 1 ∧
      (∃ first second cluster, first < second ∧ second ≤ 8 ∧
        Volume.small.clusterAt Volume.loopMedium 3 first = .ok cluster ∧
        Volume.small.clusterAt Volume.loopMedium 3 second = .ok cluster) ∧
      (Volume.small.chain 3).run.result Volume.loopMedium = .error .corruptChain ∧
      ∀ limit, 8 * 512 < min Entry.looped.size.toNat limit →
        (Filesystem.looped.entryContents .looped limit).run.result Volume.loopMedium =
          .error .corruptChain := by
  obtain ⟨ledger, reachable, recorded⟩ := Filesystem.reachable_looped
  have isOpen : (Filesystem.looped.files.get? 0).isSome = true := rfl
  have located : Filesystem.looped.volume.clusterAt Volume.loopMedium Entry.looped.cluster
      Filesystem.looped.volume.clusterCount.toNat = .ok 3 := by decide +kernel
  have faultless : Volume.small.Faultless Volume.loopMedium := fun lba _ =>
    Volume.loopMedium_answers lba
  obtain ⟨entry, same, reads⟩ :=
    reads_beyond_bound reachable faultless isOpen 4096 (List.cons_ne_nil 7 [])
  rw [recorded] at same
  cases same
  have read := reads (by decide) (by decide)
  dsimp only at read
  rw [located] at read
  exact ⟨ledger, reachable, faultless, isOpen, List.cons_ne_nil 7 [], recorded, by decide,
    by decide, read⟩

/-- Not every read that needs a cluster behind the bound fails. -/
theorem reads_beyond_bound_succeed :
    ¬ ∀ (medium : Medium) (fs : Filesystem) (ledger : Ledger) (handle : Handle) (entry : Entry)
        (offset : Nat) (buffer : List UInt8),
      Reachable medium fs ledger → (∀ lba, ∃ sector, medium lba = .ok sector) →
      (fs.files.get? handle).isSome = true → ledger handle = some entry → buffer ≠ [] →
      offset < entry.size.toNat →
      fs.volume.clusterCount.toNat ≤ (min entry.size.toNat (offset + buffer.length) - 1) /
        fs.volume.bytesPerCluster.toNat →
      ∀ count,
        ((fs.readInto handle offset buffer : Scan Empty _).result medium).2.2 ≠ .ok count := by
  intro bounded
  obtain ⟨ledger, reachable, recorded⟩ := Filesystem.reachable_looped
  have fails := bounded _ _ _ 0 _ 4096 [7] reachable Volume.loopMedium_answers rfl recorded
    (List.cons_ne_nil 7 []) (by decide) (by decide) 1
  exact fails (by decide +kernel)

end Fat32
