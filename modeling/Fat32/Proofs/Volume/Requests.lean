import Fat32.Directory.Listing
import Fat32.Proofs.Scan.Answers
import Fat32.Proofs.Volume.Geometry

/-!
Which addresses the walks on a volume ask for: sectors of the first table and
sectors of clusters. Every cluster number is checked before it is turned into
an address, either where a chain starts or where a link is followed, so a chain
hands out clusters of the volume only.
-/

namespace Fat32

namespace Volume

variable {ι : Type} {volume : Volume}

/-- The addresses that a reader may ask for. -/
def Readable (volume : Volume) (lba : UInt32) : Prop :=
  lba.toNat ∈ volume.tableExtent 0 ∨
    ∃ cluster, volume.isCluster cluster = true ∧ lba.toNat ∈ volume.extent cluster

/-- An address as it is computed on the way to a request, from operands that were checked or are
counted up, and the number that exact arithmetic makes of the same operands. -/
inductive Address (volume : Volume) : UInt32 → Nat → Prop
  | link {cluster} : volume.isCluster cluster = true →
      Address volume (volume.fatStart + cluster / entriesPerFatSector)
        (volume.fatStart.toNat + cluster.toNat / 128)
  | scanned {index} : index ≤ volume.maxCluster.toNat / 128 →
      Address volume (volume.fatStart + .ofNat index) (volume.fatStart.toNat + index)
  | cluster {cluster index} : volume.isCluster cluster = true →
      index < volume.sectorsPerCluster.toNat →
      Address volume (volume.clusterStart cluster + .ofNat index)
        (volume.dataStart.toNat + (cluster.toNat - 2) * volume.sectorsPerCluster.toNat + index)

/-- A reader may compute the address. -/
def Computed (volume : Volume) (lba : UInt32) : Prop := ∃ exact, volume.Address lba exact

namespace WellFormed

variable (wellFormed : volume.WellFormed)

include wellFormed

/-- What is computed is exact, and lies in the first table or in a cluster. -/
theorem readable_of_address {lba : UInt32} {exact : Nat} (address : volume.Address lba exact) :
    lba.toNat = exact ∧ volume.Readable lba := by
  have inTable {index : Nat} (located : lba.toNat = volume.fatStart.toNat + index)
      (inside : index < volume.header.sectorsPerFat.toNat) : volume.Readable lba := by
    apply Or.inl
    rw [tableExtent, located]
    constructor <;> omega
  cases address with
  | link valid =>
    obtain ⟨located, inside⟩ := wellFormed.toNat_tableSector valid
    exact ⟨located, inTable located inside⟩
  | scanned used =>
    obtain ⟨located, inside⟩ := wellFormed.toNat_fatStart_add used
    exact ⟨located, inTable located inside⟩
  | @cluster cluster _ valid inCluster =>
    exact ⟨wellFormed.toNat_clusterStart_add valid inCluster,
      .inr ⟨cluster, valid, wellFormed.mem_extent valid inCluster⟩⟩

theorem readable_inside {lba : UInt32} (readable : volume.Readable lba) :
    lba.toNat ∈ volume.wholeExtent := by
  rcases readable with inTable | ⟨cluster, valid, inCluster⟩
  · exact wellFormed.tableExtent_subset_wholeExtent wellFormed.fatCount_pos inTable
  · exact wellFormed.extent_subset_wholeExtent valid inCluster

theorem inside_of_address {lba : UInt32} {exact : Nat} (address : volume.Address lba exact) :
    lba.toNat ∈ volume.wholeExtent :=
  wellFormed.readable_inside (wellFormed.readable_of_address address).2

end WellFormed

variable {emits : ι → Prop}

theorem tableEntry_ensures {cluster : UInt32} (valid : volume.isCluster cluster = true) :
    (volume.tableEntry cluster : Attempt ι UInt32).Ensures volume.Computed emits
      fun _ => True := by
  refine Attempt.Ensures.bind (.sector ⟨_, .link valid⟩) ?_
  exact fun sector _ => .pure trivial

theorem successor_ensures {cluster : UInt32} (valid : volume.isCluster cluster = true) :
    (volume.successor cluster : Attempt ι (Option UInt32)).Ensures volume.Computed emits
      fun next => ∀ cluster ∈ next, volume.isCluster cluster = true := by
  refine Attempt.Ensures.bind (tableEntry_ensures valid) ?_
  intro next _
  split
  · exact .pure fun _ none => by cases none
  · split
    · rename_i nextValid
      refine .pure ?_
      intro cluster same
      cases same
      exact nextValid
    · exact .failWith _ _

theorem chainWithin_ensures (budget : Nat) {cluster : UInt32}
    (valid : volume.isCluster cluster = true) :
    (volume.chainWithin budget cluster).Ensures volume.Computed (volume.isCluster · = true)
      fun _ => True := by
  induction budget generalizing cluster with
  | zero => exact .failWith _ _
  | succ budget ih =>
    refine Attempt.Ensures.bind (.emit valid) ?_
    intro _ _
    refine Attempt.Ensures.bind (successor_ensures valid) ?_
    intro next nextValid
    cases next with
    | none => exact .pure trivial
    | some next => exact ih (nextValid next rfl)

theorem chain_ensures (volume : Volume) (start : UInt32) :
    (volume.chain start).Ensures volume.Computed (volume.isCluster · = true) fun _ => True := by
  unfold chain
  split
  · exact .pure trivial
  · split
    · rename_i valid
      exact chainWithin_ensures _ valid
    · exact .failWith _ _

theorem isCluster_of_mem_chain {medium : Medium} {start : UInt32} :
    ∀ cluster ∈ (volume.chain start).run.itemsOn medium, volume.isCluster cluster = true :=
  (volume.chain_ensures start).itemsOn medium

end Volume

namespace Directory

variable {asks : UInt32 → Prop}

theorem records_asks (records : List DirRecord) (long : LongName) :
    (Directory.records records long).Asks asks := by
  induction records generalizing long with
  | nil => exact .pure _
  | cons record rest ih =>
    unfold Directory.records
    split
    · exact .pure _
    · exact ih _
    · exact ih _
    · exact ih _
    · exact .bind (.emit _) fun _ => ih _

theorem sectors_asks {lba : UInt32} {count : Nat}
    (allowed : ∀ index < count, asks (lba + .ofNat index)) (long : LongName) :
    (sectors lba count long).Asks asks := by
  induction count generalizing lba long with
  | zero =>
    rw [sectors]
    exact .pure _
  | succ count ih =>
    rw [sectors]
    have first : asks lba := by simpa using allowed 0 (by omega)
    refine Attempt.Asks.bind ?_ fun sector => ?_
    · exact .sector first
    refine Attempt.Asks.bind ?_ fun step => ?_
    · exact records_asks sector.records long
    · cases step with
      | more long =>
        refine ih (fun index below => ?_) long
        have next := allowed (index + 1) (by omega)
        rwa [Word.add_ofNat_succ] at next
      | enough => exact .pure _

theorem entries_asks (volume : Volume) (start : UInt32) :
    (entries volume start).Asks volume.Computed := by
  refine Attempt.Asks.bind ?_ fun _ => .pure _
  refine Attempt.Asks.visit (volume.chain_ensures start) (fun long cluster valid => ?_) _
  exact sectors_asks (fun _ inCluster => ⟨_, .cluster valid inCluster⟩) long

end Directory

end Fat32
