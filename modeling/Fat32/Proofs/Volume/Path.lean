import Fat32.Proofs.Bytes
import Fat32.Proofs.Scan.Views
import Fat32.Volume.Chain

/-!
Chains on a fixed device. There the table gives every cluster one link, so a
start has a path of clusters, and a walk from anywhere on the path goes on
along it (`travel_add`). `contentOn` is what the sectors of a cluster hold, and
`byteOn` the byte at a place of the file that starts at a cluster.
-/

namespace Fat32.Volume

variable {ι : Type} (volume : Volume) (medium : Medium)

/-- The link of a cluster: the next cluster, none at the end of the chain, or
what keeps the reader from following it. -/
def linkOn (cluster : UInt32) : Except Error (Option UInt32) :=
  match medium (volume.fatStart + cluster / entriesPerFatSector) with
  | .error cause => .error (.device cause)
  | .ok sector =>
    let next := entryIn sector cluster
    if endOfChain ≤ next then .ok none
    else if volume.isCluster next then .ok (some next)
    else .error .corruptChain

/-- The cluster at a place of the path that starts at `start`, counted from 0. -/
def pathOn (start : UInt32) : Nat → Option UInt32
  | 0 => some start
  | place + 1 =>
    match (pathOn start place).map (volume.linkOn medium) with
    | some (.ok next) => next
    | _ => none

/-- Follow a number of links from a cluster on. A chain that ends too early is incomplete. -/
def travel : Nat → UInt32 → Except Error UInt32
  | 0, cluster => .ok cluster
  | hops + 1, cluster =>
    match volume.linkOn medium cluster with
    | .ok (some next) => travel hops next
    | .ok none => .error .incompleteRead
    | .error error => .error error

def contentOn (cluster : UInt32) : Except DeviceError (List UInt8) :=
  let reading := Scan.sectors (volume.clusterStart cluster).toNat volume.sectorsPerCluster.toNat
  (reading.result medium).map fun () => (reading.itemsOn medium).flatMap (·.toList)

/-- The byte at `place` of the file that starts at a cluster. -/
def byteOn (start : UInt32) (place : Nat) : Option UInt8 := do
  let cluster ← volume.pathOn medium start (place / volume.bytesPerCluster.toNat)
  let inCluster := place % volume.bytesPerCluster.toNat
  let sector ← (medium (volume.clusterStart cluster + .ofNat (inCluster / sectorSize))).toOption
  sector[inCluster % sectorSize]?

@[simp] theorem result_successor (cluster : UInt32) :
    (volume.successor cluster : Attempt ι _).run.result medium = volume.linkOn medium cluster := by
  unfold successor tableEntry linkOn
  simp only [Attempt.result_bind]
  cases answered : medium (volume.fatStart + cluster / entriesPerFatSector) with
  | error cause => rw [Attempt.result_sector_of_error medium answered]
  | ok sector =>
    rw [Attempt.result_sector_of_ok medium answered]
    dsimp only
    rw [Attempt.result_pure]
    dsimp only
    split
    · rfl
    · split <;> rfl

@[simp] theorem itemsOn_successor (cluster : UInt32) :
    (volume.successor cluster : Attempt ι _).run.itemsOn medium = [] := by
  unfold successor tableEntry
  simp only [Attempt.itemsOn_bind, Attempt.itemsOn_sector, Attempt.result_bind]
  cases answered : medium (volume.fatStart + cluster / entriesPerFatSector) with
  | error cause => rw [Attempt.result_sector_of_error medium answered]; rfl
  | ok sector =>
    rw [Attempt.result_sector_of_ok medium answered]
    simp only [Attempt.result_pure, Attempt.itemsOn_pure]
    split
    · rfl
    · split <;> rfl

variable {volume medium}

theorem isCluster_of_linkOn {cluster next : UInt32}
    (linked : volume.linkOn medium cluster = .ok (some next)) :
    volume.isCluster next = true := by
  unfold linkOn at linked
  split at linked
  · cases linked
  · dsimp only at linked
    split at linked
    · cases linked
    · split at linked
      · rename_i valid
        cases linked
        exact valid
      · cases linked

theorem pathOn_succ {start cluster : UInt32} {place : Nat}
    (here : volume.pathOn medium start place = some cluster) (next : UInt32) :
    volume.pathOn medium start (place + 1) = some next ↔
      volume.linkOn medium cluster = .ok (some next) := by
  rw [pathOn, here, Option.map_some]
  cases volume.linkOn medium cluster with
  | error error => simp
  | ok link => simp

theorem isCluster_of_pathOn {start cluster : UInt32} {place : Nat} (behind : 0 < place)
    (here : volume.pathOn medium start place = some cluster) :
    volume.isCluster cluster = true := by
  obtain ⟨place, rfl⟩ : ∃ before, place = before + 1 := ⟨place - 1, by omega⟩
  cases before : volume.pathOn medium start place with
  | none =>
    rw [pathOn, before] at here
    cases here
  | some previous => exact isCluster_of_linkOn ((pathOn_succ before cluster).mp here)

theorem travel_add (first second : Nat) (cluster : UInt32) :
    volume.travel medium (first + second) cluster =
      (volume.travel medium first cluster).bind (volume.travel medium second) := by
  induction first generalizing cluster with
  | zero => rw [Nat.zero_add]; rfl
  | succ first ih =>
    rw [Nat.add_right_comm, travel, travel]
    split
    · exact ih _
    · rfl
    · rfl

theorem travel_eq_ok_iff {start cluster : UInt32} {hops : Nat} :
    volume.travel medium hops start = .ok cluster ↔
      volume.pathOn medium start hops = some cluster := by
  induction hops generalizing cluster with
  | zero => simp [travel, pathOn]
  | succ hops ih =>
    rw [travel_add]
    cases before : volume.pathOn medium start hops with
    | none =>
      have unreached : ∀ previous, volume.travel medium hops start ≠ .ok previous := by
        intro previous reached
        rw [ih.mp reached] at before
        cases before
      have broken : volume.pathOn medium start (hops + 1) = none := by rw [pathOn, before]; rfl
      rw [broken]
      cases travelled : volume.travel medium hops start with
      | error error => simp [Except.bind]
      | ok previous => exact absurd travelled (unreached previous)
    | some previous =>
      rw [ih.mpr before, pathOn_succ before]
      change volume.travel medium 1 previous = .ok cluster ↔ _
      rw [travel]
      split <;> rename_i linked <;> simp [linked, travel]

theorem exists_sectors_of_contentOn {cluster : UInt32} {bytes : List UInt8}
    (loaded : volume.contentOn medium cluster = .ok bytes) :
    ∃ sectors : List Sector, sectors.length = volume.sectorsPerCluster.toNat ∧
      bytes = sectors.flatMap (·.toList) ∧
      ∀ index sector, sectors[index]? = some sector →
        medium (volume.clusterStart cluster + .ofNat index) = .ok sector := by
  unfold contentOn at loaded
  dsimp only at loaded
  cases read : (Scan.sectors (volume.clusterStart cluster).toNat
      volume.sectorsPerCluster.toNat).result medium with
  | error cause =>
    rw [read] at loaded
    cases loaded
  | ok =>
    rw [read] at loaded
    cases loaded
    obtain ⟨length, located⟩ := Scan.itemsOn_sectors medium read
    refine ⟨_, length, rfl, ?_⟩
    intro index sector held
    have inCluster : index < volume.sectorsPerCluster.toNat :=
      length ▸ (List.getElem?_eq_some_iff.mp held).1
    obtain ⟨found, answered, same⟩ := located index inCluster
    rw [held] at same
    cases same
    rwa [UInt32.ofNat_add, UInt32.ofNat_toNat] at answered

theorem contentOn_eq_ok {cluster : UInt32} {bytes : List UInt8}
    (loaded : volume.contentOn medium cluster = .ok bytes) :
    bytes.length = volume.sectorsPerCluster.toNat * sectorSize ∧
      ∀ place < volume.sectorsPerCluster.toNat * sectorSize,
        ∃ sector, medium (volume.clusterStart cluster + .ofNat (place / sectorSize)) = .ok sector ∧
          bytes[place]? = sector[place % sectorSize]? := by
  obtain ⟨sectors, length, rfl, located⟩ := exists_sectors_of_contentOn loaded
  constructor
  · rw [Bytes.length_flatMap_toList, length]
  · intro place inside
    have inCluster : place / sectorSize < sectors.length :=
      length ▸ (Nat.div_lt_iff_lt_mul (by decide)).mpr inside
    have held := List.getElem?_eq_getElem inCluster
    refine ⟨_, located _ _ held, ?_⟩
    rw [Bytes.getElem?_flatMap_toList (by decide), held]
    rfl

/-- The byte at a place of a cluster of the file. -/
theorem byteOn_of_pathOn {start cluster : UInt32} {index place : Nat}
    (here : volume.pathOn medium start index = some cluster)
    (inside : place < volume.bytesPerCluster.toNat) :
    volume.byteOn medium start (index * volume.bytesPerCluster.toNat + place) =
      (medium (volume.clusterStart cluster + .ofNat (place / sectorSize))).toOption.bind
        (·[place % sectorSize]?) := by
  obtain ⟨quotient, remainder⟩ := (Nat.div_mod_unique (Nat.zero_lt_of_lt inside)).mpr
    ⟨Nat.add_comm place (volume.bytesPerCluster.toNat * index), inside⟩
  rw [byteOn, Nat.mul_comm index, quotient, remainder, here]
  rfl

theorem byteOn_eq {start cluster : UInt32} {bytes : List UInt8} {index place : Nat}
    (clusterBytes : volume.bytesPerCluster.toNat = volume.sectorsPerCluster.toNat * sectorSize)
    (here : volume.pathOn medium start index = some cluster)
    (loaded : volume.contentOn medium cluster = .ok bytes)
    (inside : place < volume.bytesPerCluster.toNat) :
    volume.byteOn medium start (index * volume.bytesPerCluster.toNat + place) = bytes[place]? := by
  obtain ⟨sector, found, same⟩ := (contentOn_eq_ok loaded).2 place (by omega)
  rw [byteOn_of_pathOn here inside, found, same]
  rfl

theorem itemsOn_chainWithin_succ (budget : Nat) (cluster : UInt32) :
    (volume.chainWithin (budget + 1) cluster).run.itemsOn medium =
      cluster :: match volume.linkOn medium cluster with
        | .ok (some next) => (volume.chainWithin budget next).run.itemsOn medium
        | _ => [] := by
  rw [chainWithin]
  simp only [Attempt.itemsOn_bind, Attempt.itemsOn_emit, Attempt.result_emit, itemsOn_successor,
    result_successor, List.nil_append, List.singleton_append]
  cases volume.linkOn medium cluster with
  | error error => rfl
  | ok link => cases link <;> rfl

theorem length_itemsOn_chain_le (start : UInt32) :
    ((volume.chain start).run.itemsOn medium).length ≤ volume.clusterCount.toNat := by
  have within (budget : Nat) : ∀ cluster,
      ((volume.chainWithin budget cluster).run.itemsOn medium).length ≤ budget := by
    induction budget with
    | zero => exact fun cluster => Nat.le_refl 0
    | succ budget ih =>
      intro cluster
      rw [itemsOn_chainWithin_succ, List.length_cons]
      split
      · exact Nat.succ_le_succ (ih _)
      · exact Nat.le_add_left 1 budget
  unfold chain
  split
  · exact Nat.zero_le _
  · split
    · exact within _ _
    · exact Nat.zero_le _

end Fat32.Volume
