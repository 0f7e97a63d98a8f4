import Fat32.Proofs.Directory.Batch
import Fat32.Proofs.Handle.Bound

/-!
What reading costs on a fixed device. Every request is for a sector of the first
table or for a sector of a cluster (`Costs`). A link costs one of the former, the
contents of a cluster cost all of the latter that the cluster has.
-/

namespace Fat32

theorem Scan.readsOn_sectors {medium : Medium} {block count : Nat}
    (succeeded : (sectors block count).result medium = .ok ()) :
    (sectors block count).readsOn medium =
      (List.range count).map fun index => .ofNat (block + index) := by
  induction count generalizing block with
  | zero => rfl
  | succ count ih =>
    unfold sectors at succeeded ⊢
    split at succeeded
    · rename_i fits
      rw [if_pos fits, readsOn_read]
      rw [result_read] at succeeded
      cases answered : medium (.ofNat block) with
      | error cause =>
        rw [answered] at succeeded
        cases succeeded
      | ok sector =>
        rw [answered] at succeeded
        rw [List.range_succ_eq_map, List.map_cons, List.map_map]
        refine congrArg (_ :: ·) ((ih succeeded).trans (List.map_congr_left fun index _ => ?_))
        exact congrArg UInt32.ofNat (by omega)
    · cases succeeded

namespace Volume

/-- The sector of the first table that has the entry of a cluster. -/
def linkAddress (volume : Volume) (cluster : UInt32) : UInt32 :=
  volume.fatStart + cluster / entriesPerFatSector

def inTable (volume : Volume) (lba : UInt32) : Bool :=
  volume.fatStart.toNat ≤ lba.toNat &&
    lba.toNat < volume.fatStart.toNat + volume.header.sectorsPerFat.toNat

def inData (volume : Volume) (lba : UInt32) : Bool :=
  volume.dataStart.toNat ≤ lba.toNat &&
    lba.toNat < volume.dataStart.toNat +
      volume.clusterCount.toNat * volume.sectorsPerCluster.toNat

/-- Some requests, told apart: those for sectors of the first table, those for sectors of clusters,
and no others. -/
structure Costs (volume : Volume) (reads links sectors : List UInt32) : Prop where
  only : ∀ lba ∈ reads, volume.inTable lba = true ∨ volume.inData lba = true
  links_eq : reads.filter volume.inTable = links
  sectors_eq : reads.filter volume.inData = sectors

/-- So many requests for sectors of the first table, so many for sectors of clusters, and no
others. -/
structure Counts (volume : Volume) (reads : List UInt32) (links sectors : Nat) : Prop where
  links_eq : (reads.filter volume.inTable).length = links
  sectors_eq : (reads.filter volume.inData).length = sectors
  length_eq : reads.length = links + sectors

variable {ι : Type} {volume : Volume} {medium : Medium}

namespace Costs

variable {reads more links links' sectors sectors' : List UInt32}

theorem nil (volume : Volume) : volume.Costs [] [] [] :=
  ⟨fun _ impossible => (List.not_mem_nil impossible).elim, rfl, rfl⟩

theorem append (first : volume.Costs reads links sectors)
    (second : volume.Costs more links' sectors') :
    volume.Costs (reads ++ more) (links ++ links') (sectors ++ sectors') where
  only lba member := (List.mem_append.mp member).elim (first.only lba) (second.only lba)
  links_eq := by rw [List.filter_append, first.links_eq, second.links_eq]
  sectors_eq := by rw [List.filter_append, first.sectors_eq, second.sectors_eq]

theorem ofLinks (inTable : ∀ lba ∈ reads, volume.inTable lba = true ∧ volume.inData lba = false) :
    volume.Costs reads reads [] where
  only lba member := .inl (inTable lba member).1
  links_eq := List.filter_eq_self.mpr fun lba member => (inTable lba member).1
  sectors_eq := List.filter_eq_nil_iff.mpr fun lba member => by simp [(inTable lba member).2]

theorem ofSectors
    (inData : ∀ lba ∈ reads, volume.inTable lba = false ∧ volume.inData lba = true) :
    volume.Costs reads [] reads where
  only lba member := .inr (inData lba member).2
  links_eq := List.filter_eq_nil_iff.mpr fun lba member => by simp [(inData lba member).1]
  sectors_eq := List.filter_eq_self.mpr fun lba member => (inData lba member).2

end Costs

@[simp] theorem readsOn_successor (cluster : UInt32) :
    (volume.successor cluster : Attempt ι _).run.readsOn medium =
      [volume.linkAddress cluster] := by
  unfold successor tableEntry
  simp only [Attempt.readsOn_bind, Attempt.readsOn_sector, Attempt.result_bind]
  cases answered : medium (volume.fatStart + cluster / entriesPerFatSector) with
  | error cause => rw [Attempt.result_sector_of_error medium answered]; rfl
  | ok sector =>
    rw [Attempt.result_sector_of_ok medium answered]
    simp only [Attempt.result_pure, Attempt.readsOn_pure]
    split
    · rfl
    · split <;> rfl

theorem readsOn_content {cluster : UInt32} {bytes : List UInt8}
    (loaded : volume.contentOn medium cluster = .ok bytes) :
    (Scan.sectors (volume.clusterStart cluster).toNat volume.sectorsPerCluster.toNat).readsOn
      medium = volume.addresses cluster := by
  unfold contentOn at loaded
  dsimp only at loaded
  cases read : (Scan.sectors (volume.clusterStart cluster).toNat
      volume.sectorsPerCluster.toNat).result medium with
  | error cause =>
    rw [read] at loaded
    cases loaded
  | ok =>
    rw [Scan.readsOn_sectors read]
    refine List.map_congr_left fun index _ => ?_
    rw [UInt32.ofNat_add, UInt32.ofNat_toNat]

@[simp] theorem length_addresses (volume : Volume) (cluster : UInt32) :
    (volume.addresses cluster).length = volume.sectorsPerCluster.toNat := by
  rw [addresses, List.length_map, List.length_range]

namespace WellFormed

variable (wellFormed : volume.WellFormed)

include wellFormed

theorem not_inTable_and_inData (lba : UInt32) :
    ¬ (volume.inTable lba = true ∧ volume.inData lba = true) := by
  have tables := wellFormed.tables_le wellFormed.fatCount_pos
  simp only [Volume.inTable, Volume.inData, Bool.and_eq_true, decide_eq_true_eq]
  omega

theorem linkAddress_inTable {cluster : UInt32} (valid : volume.isCluster cluster = true) :
    volume.inTable (volume.linkAddress cluster) = true ∧
      volume.inData (volume.linkAddress cluster) = false := by
  obtain ⟨located, inside⟩ := wellFormed.toNat_tableSector valid
  have inTable : volume.inTable (volume.linkAddress cluster) = true := by
    rw [linkAddress, Volume.inTable, located, Bool.and_eq_true, decide_eq_true_eq,
      decide_eq_true_eq]
    omega
  refine ⟨inTable, ?_⟩
  rw [Bool.eq_false_iff]
  exact fun inData => wellFormed.not_inTable_and_inData _ ⟨inTable, inData⟩

theorem costs_link {cluster : UInt32} (valid : volume.isCluster cluster = true) :
    volume.Costs [volume.linkAddress cluster] [volume.linkAddress cluster] [] := by
  refine .ofLinks fun lba member => ?_
  cases List.mem_singleton.mp member
  exact wellFormed.linkAddress_inTable valid

theorem mem_extent_of_mem_addresses {cluster : UInt32} (valid : volume.isCluster cluster = true)
    {lba : UInt32} (member : lba ∈ volume.addresses cluster) :
    lba.toNat ∈ volume.extent cluster := by
  obtain ⟨index, inCluster, rfl⟩ := List.mem_map.mp member
  exact wellFormed.mem_extent valid (List.mem_range.mp inCluster)

theorem inData_of_mem_extent {cluster : UInt32} (valid : volume.isCluster cluster = true)
    {lba : UInt32} (member : lba.toNat ∈ volume.extent cluster) : volume.inData lba = true := by
  obtain ⟨starts, ends⟩ := member
  have numbered := wellFormed.isCluster_iff.mp valid
  have within : (cluster.toNat - 1) * volume.sectorsPerCluster.toNat ≤
      volume.clusterCount.toNat * volume.sectorsPerCluster.toNat :=
    Nat.mul_le_mul_right _ (by omega)
  simp only [Volume.inData, Bool.and_eq_true, decide_eq_true_eq]
  omega

theorem costs_sectors {cluster : UInt32} (valid : volume.isCluster cluster = true)
    {reads : List UInt32} (part : reads ⊆ volume.addresses cluster) :
    volume.Costs reads [] reads := by
  refine .ofSectors fun lba member => ?_
  have inData := wellFormed.inData_of_mem_extent valid
    (wellFormed.mem_extent_of_mem_addresses valid (part member))
  refine ⟨?_, inData⟩
  rw [Bool.eq_false_iff]
  exact fun inTable => wellFormed.not_inTable_and_inData _ ⟨inTable, inData⟩

end WellFormed

namespace Costs

variable {reads links sectors : List UInt32} (costs : volume.Costs reads links sectors)
  (wellFormed : volume.WellFormed)

include costs wellFormed

theorem counts : volume.Counts reads links.length sectors.length := by
  have others : reads.filter volume.inData = reads.filter (! volume.inTable ·) := by
    apply List.filter_congr
    intro lba member
    have apart := wellFormed.not_inTable_and_inData lba
    rcases costs.only lba member with inTable | inData
    · simp_all
    · simp_all
  refine ⟨by rw [costs.links_eq], by rw [costs.sectors_eq], ?_⟩
  rw [← costs.links_eq, ← costs.sectors_eq, others, ← List.countP_eq_length_filter,
    ← List.countP_eq_length_filter, List.length_eq_countP_add_countP volume.inTable]
  simp

theorem inside {lba : UInt32} (member : lba ∈ reads) : lba.toNat ∈ volume.wholeExtent := by
  have tables := wellFormed.tables_le wellFormed.fatCount_pos
  have fatStart := wellFormed.fatStart_eq
  have inTotal := wellFormed.inTotal
  have located := costs.only lba member
  simp only [inTable, inData, Bool.and_eq_true, decide_eq_true_eq] at located
  constructor <;> omega

theorem served (faultless : volume.Faultless medium) :
    ∀ lba ∈ reads, ∃ sector, medium lba = .ok sector :=
  fun lba member => faultless lba (costs.inside wellFormed member)

end Costs

theorem Costs.not_mem_extent {reads links clusters : List UInt32}
    (costs : volume.Costs reads links (clusters.flatMap volume.addresses))
    (wellFormed : volume.WellFormed) {cluster : UInt32}
    (valid : volume.isCluster cluster = true)
    (others : ∀ other ∈ clusters, volume.isCluster other = true ∧ other ≠ cluster) :
    ∀ lba ∈ reads, lba.toNat ∉ volume.extent cluster := by
  intro lba member inCluster
  have inData := wellFormed.inData_of_mem_extent valid inCluster
  have asked : lba ∈ clusters.flatMap volume.addresses := by
    rw [← costs.sectors_eq]
    exact List.mem_filter.mpr ⟨member, inData⟩
  obtain ⟨other, among, inOther⟩ := List.mem_flatMap.mp asked
  obtain ⟨otherValid, apart⟩ := others other among
  exact wellFormed.extent_apart otherValid valid apart _
    (wellFormed.mem_extent_of_mem_addresses otherValid inOther) inCluster

end Volume

end Fat32
