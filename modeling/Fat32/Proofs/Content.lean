import Fat32.Filesystem.Content
import Fat32.Proofs.Handle.Spans
import Fat32.Proofs.Volume.Walk

/-!
Whole-file reads on a fixed device. Whatever keeps a read from going on, it has
handed out the bytes of the file in a row (`handsOut_entryContents`). On a device
that answers, only the chain decides how it ends (`result_entryContents`).
-/

namespace Fat32

namespace Volume

variable {volume : Volume} {medium : Medium} {start : UInt32}

section Bytes

variable (clusterBytes : volume.bytesPerCluster.toNat = volume.sectorsPerCluster.toNat * sectorSize)

include clusterBytes

theorem byteOn_eq_sector {cluster : UInt32} {index slot : Nat} {sector : Sector}
    (here : volume.pathOn medium start index = some cluster)
    (inCluster : slot < volume.sectorsPerCluster.toNat)
    (answered : medium (volume.clusterStart cluster + .ofNat slot) = .ok sector) {place : Nat}
    (inside : place < sectorSize) :
    volume.byteOn medium start
      (index * volume.bytesPerCluster.toNat + slot * sectorSize + place) = sector[place]? := by
  have fits : slot * sectorSize + place < volume.bytesPerCluster.toNat := by
    have next : (slot + 1) * sectorSize ≤ volume.sectorsPerCluster.toNat * sectorSize :=
      Nat.mul_le_mul_right _ inCluster
    rw [Nat.succ_mul] at next
    omega
  obtain ⟨inSlot, atPlace⟩ := (Nat.div_mod_unique (Nat.zero_lt_of_lt inside)).mpr
    ⟨Nat.add_comm _ (sectorSize * slot), inside⟩
  rw [Nat.mul_comm sectorSize] at inSlot atPlace
  rw [Nat.add_assoc, byteOn_of_pathOn here fits, inSlot, atPlace, answered]
  rfl

theorem handsOut_sector {cluster : UInt32} {index slot : Nat} {sector : Sector}
    (here : volume.pathOn medium start index = some cluster)
    (inCluster : slot < volume.sectorsPerCluster.toNat)
    (answered : medium (volume.clusterStart cluster + .ofNat slot) = .ok sector) (wanted : Nat) :
    let place := index * volume.bytesPerCluster.toNat + slot * sectorSize
    volume.HandsOut medium start place (place + min wanted sectorSize)
      ([sector.toList.take wanted], .ok ()) := by
  intro place
  refine ⟨min wanted sectorSize, by omega, ?_, fun _ => by omega⟩
  rw [List.flatten_singleton]
  apply List.ext_getElem?
  intro offset
  rw [List.getElem?_map, List.getElem?_map]
  by_cases within : offset < min wanted sectorSize
  · have inSector : offset < sectorSize := Nat.lt_of_lt_of_le within (Nat.min_le_right _ _)
    rw [List.getElem?_take_of_lt (by omega), List.getElem?_range' within, Option.map_some,
      Nat.one_mul, byteOn_eq_sector clusterBytes here inCluster answered inSector,
      Vector.getElem?_toList, Vector.getElem?_eq_getElem inSector, Option.map_some]
  · have beyond : min wanted sectorSize ≤ offset := Nat.le_of_not_lt within
    rw [List.getElem?_eq_none (by rwa [List.length_take, Vector.length_toList]),
      List.getElem?_eq_none (by rwa [List.length_range'])]
    rfl

end Bytes

end Volume

namespace Filesystem

variable {volume : Volume} {medium : Medium} {start : UInt32}

theorem copySectors_eq_ok {lba : UInt32} {count wanted : Nat} (positive : 0 < wanted)
    {step : Step Nat Unit}
    (copied : (copySectors lba count wanted).run.result medium = .ok step) :
    step = if wanted ≤ count * sectorSize then .enough ()
      else .more (wanted - count * sectorSize) := by
  induction count generalizing lba wanted with
  | zero =>
    rw [copySectors, Attempt.result_pure] at copied
    cases copied
    rw [if_neg (by omega)]
    simp
  | succ count ih =>
    rw [copySectors] at copied
    simp only [Attempt.result_bind, Attempt.result_emit] at copied
    split at copied
    · split at copied
      · rename_i last
        cases copied
        rw [if_pos (by rw [Nat.succ_mul]; omega)]
      · rename_i further
        rw [ih (Nat.sub_pos_of_lt (Nat.lt_of_not_le further)) copied, Nat.succ_mul,
          Nat.sub_sub, Nat.add_comm sectorSize]
        by_cases fits : wanted ≤ count * sectorSize + sectorSize
        · rw [if_pos fits, if_pos (Nat.sub_le_of_le_add fits)]
        · rw [if_neg fits, if_neg (by omega)]
    · cases copied

theorem copySectors_faultless {lba : UInt32} {count : Nat}
    (answers : ∀ index < count, ∃ sector, medium (lba + .ofNat index) = .ok sector)
    (wanted : Nat) :
    ∃ step, (copySectors lba count wanted).run.result medium = .ok step := by
  induction count generalizing lba wanted with
  | zero => exact ⟨_, rfl⟩
  | succ count ih =>
    obtain ⟨sector, answered⟩ := answers 0 (Nat.succ_pos count)
    have here : lba + .ofNat 0 = lba := UInt32.add_zero lba
    rw [here] at answered
    rw [copySectors]
    simp only [Attempt.result_bind, Attempt.result_emit,
      Attempt.result_sector_of_ok medium answered]
    split
    · exact ⟨_, rfl⟩
    · refine ih (fun index below => ?_) _
      have next := answers (index + 1) (Nat.succ_lt_succ below)
      rwa [Word.add_ofNat_succ] at next

theorem copySectors_of_le {lba : UInt32} {count fewer wanted : Nat} (within : fewer ≤ wanted)
    (copied : ∃ step, (copySectors lba count wanted).run.result medium = .ok step) :
    ∃ step, (copySectors lba count fewer).run.result medium = .ok step := by
  induction count generalizing lba fewer wanted with
  | zero => exact ⟨_, rfl⟩
  | succ count ih =>
    rw [copySectors] at copied ⊢
    simp only [Attempt.result_bind, Attempt.result_emit] at copied ⊢
    cases answered : medium lba with
    | error cause =>
      rw [Attempt.result_sector_of_error medium answered] at copied
      obtain ⟨step, impossible⟩ := copied
      cases impossible
    | ok sector =>
      rw [Attempt.result_sector_of_ok medium answered] at copied ⊢
      dsimp only at copied ⊢
      by_cases last : fewer ≤ sectorSize
      · rw [if_pos last]
        exact ⟨_, rfl⟩
      · rw [if_neg last]
        rw [if_neg (by omega)] at copied
        exact ih (Nat.sub_le_sub_right within _) copied

/-- How a copy along a chain has ended: with all the bytes that were wanted, or too early. -/
def ending : Except Error (Step Nat Unit) → Except Error Unit
  | .ok (.enough ()) => .ok ()
  | .ok (.more _) => .error .incompleteRead
  | .error error => .error error

def copyCluster (volume : Volume) (wanted : Nat) (cluster : UInt32) :
    Attempt (List UInt8) (Step Nat Unit) :=
  copySectors (volume.clusterStart cluster) volume.sectorsPerCluster.toNat wanted

section Copies

variable (clusterBytes : volume.bytesPerCluster.toNat = volume.sectorsPerCluster.toNat * sectorSize)

include clusterBytes

theorem handsOut_copySectors {cluster : UInt32} {index count slot : Nat}
    (here : volume.pathOn medium start index = some cluster)
    (inCluster : slot + count ≤ volume.sectorsPerCluster.toNat) (wanted : Nat) :
    let place := index * volume.bytesPerCluster.toNat + slot * sectorSize
    let copy := (copySectors (volume.clusterStart cluster + .ofNat slot) count wanted).run
    volume.HandsOut medium start place (place + min wanted (count * sectorSize))
      (copy.itemsOn medium, (copy.result medium).map fun _ => ()) := by
  induction count generalizing slot wanted with
  | zero =>
    intro place copy
    exact ⟨0, Nat.zero_le _, rfl, fun _ => by omega⟩
  | succ count ih =>
    intro place copy
    have next : place + sectorSize = index * volume.bytesPerCluster.toNat +
        (slot + 1) * sectorSize := by
      rw [Nat.succ_mul, ← Nat.add_assoc]
    unfold copy
    rw [copySectors]
    simp only [Attempt.itemsOn_bind, Attempt.result_bind, Attempt.itemsOn_sector,
      List.nil_append]
    cases answered : medium (volume.clusterStart cluster + .ofNat slot) with
    | error cause =>
      rw [Attempt.result_sector_of_error medium answered]
      exact .ofError _ _ _ _
    | ok sector =>
      rw [Attempt.result_sector_of_ok medium answered]
      simp only [Attempt.itemsOn_emit, Attempt.result_emit]
      have first := Volume.handsOut_sector clusterBytes here (by omega) answered wanted
      by_cases last : wanted ≤ sectorSize
      · rw [if_pos last, Nat.min_eq_left (by rw [Nat.succ_mul]; omega)]
        rw [Nat.min_eq_left last] at first
        exact first
      · have address : volume.clusterStart cluster + .ofNat slot + 1 =
            volume.clusterStart cluster + .ofNat (slot + 1) := by
          rw [UInt32.add_assoc, UInt32.ofNat_add]
          rfl
        have stillInside : slot + 1 + count ≤ volume.sectorsPerCluster.toNat := by omega
        have rest := ih stillInside (wanted - sectorSize)
        rw [Nat.min_eq_right (Nat.le_of_not_le last)] at first
        rw [if_neg last, address]
        dsimp only at rest
        rw [← next] at rest
        have ends : place + sectorSize + min (wanted - sectorSize) (count * sectorSize) =
            place + min wanted ((count + 1) * sectorSize) := by
          rw [Nat.succ_mul]
          omega
        rw [ends] at rest
        exact first.append (Nat.le_add_right _ _) (by omega) rest

theorem handsOut_copyCluster {cluster : UInt32} {index : Nat}
    (here : volume.pathOn medium start index = some cluster) (wanted : Nat) :
    let place := index * volume.bytesPerCluster.toNat
    let copy := (copyCluster volume wanted cluster).run
    volume.HandsOut medium start place (place + min wanted volume.bytesPerCluster.toNat)
      (copy.itemsOn medium, (copy.result medium).map fun _ => ()) := by
  have inCluster : 0 + volume.sectorsPerCluster.toNat ≤ volume.sectorsPerCluster.toNat :=
    Nat.le_of_eq (Nat.zero_add _)
  have copied := handsOut_copySectors clusterBytes here inCluster wanted
  have address : volume.clusterStart cluster + .ofNat 0 = volume.clusterStart cluster :=
    UInt32.add_zero _
  rw [address, Nat.zero_mul, Nat.add_zero, ← clusterBytes] at copied
  exact copied

theorem copyCluster_eq_ok {cluster : UInt32} {wanted : Nat} (positive : 0 < wanted)
    {step : Step Nat Unit}
    (copied : (copyCluster volume wanted cluster).run.result medium = .ok step) :
    step = if wanted ≤ volume.bytesPerCluster.toNat then .enough ()
      else .more (wanted - volume.bytesPerCluster.toNat) := by
  rw [clusterBytes]
  exact copySectors_eq_ok positive copied

/-- A copy along a chain hands out the bytes of the file from the place of its first cluster on. -/
theorem handsOut_visit (budget : Nat) {cluster : UInt32} {index wanted : Nat}
    (here : volume.pathOn medium start index = some cluster) (positive : 0 < wanted) :
    let place := index * volume.bytesPerCluster.toNat
    let copy := ((volume.chainWithin budget cluster).visit (copyCluster volume) wanted).run
    volume.HandsOut medium start place (place + wanted)
      (copy.itemsOn medium, ending (copy.result medium)) := by
  -- Behind each cluster the same holds of the rest of the chain, with less wanted and at a later
  -- place. The link says which cluster the file has there.
  induction budget generalizing cluster index wanted with
  | zero => exact .ofError _ _ _ _
  | succ budget ih =>
    intro place copy
    have first := handsOut_copyCluster clusterBytes here wanted
    have within : place + min wanted volume.bytesPerCluster.toNat ≤ place + wanted := by omega
    unfold copy
    rw [Volume.result_visit_chainWithin_succ, Volume.itemsOn_visit_chainWithin_succ]
    dsimp only at first
    cases copied : (copyCluster volume wanted cluster).run.result medium with
    | error error =>
      rw [copied] at first
      rw [List.append_nil]
      exact first.stop within error
    | ok step =>
      have stopped := copyCluster_eq_ok clusterBytes positive copied
      rw [copied] at first
      by_cases last : wanted ≤ volume.bytesPerCluster.toNat
      · rw [if_pos last] at stopped
        cases stopped
        rw [Nat.min_eq_left last] at first
        rw [List.append_nil]
        exact first
      · rw [if_neg last] at stopped
        cases stopped
        rw [Nat.min_eq_right (Nat.le_of_not_le last)] at first within
        cases linked : volume.linkOn medium cluster with
        | error error =>
          rw [List.append_nil]
          exact first.stop within error
        | ok link =>
          cases link with
          | none =>
            rw [List.append_nil]
            exact first.stop within .incompleteRead
          | some behind =>
            have further := ih ((Volume.pathOn_succ here behind).mpr linked)
              (Nat.sub_pos_of_lt (Nat.lt_of_not_le last))
            dsimp only at further
            rw [Nat.succ_mul, Nat.add_assoc, Nat.add_sub_of_le (Nat.le_of_not_le last)] at further
            exact first.append (Nat.le_add_right _ _) within further

theorem ending_visit_of_le (budget : Nat) {cluster : UInt32} {fewer wanted : Nat}
    (positive : 0 < fewer) (within : fewer ≤ wanted)
    (ended : ending (((volume.chainWithin budget cluster).visit (copyCluster volume)
      wanted).run.result medium) = .ok ()) :
    ending (((volume.chainWithin budget cluster).visit (copyCluster volume)
      fewer).run.result medium) = .ok () := by
  -- Both copies go along the same links, and the shorter one has enough no later.
  induction budget generalizing cluster fewer wanted with
  | zero => cases ended
  | succ budget ih =>
    rw [Volume.result_visit_chainWithin_succ] at ended ⊢
    cases copied : (copyCluster volume wanted cluster).run.result medium with
    | error error =>
      rw [copied] at ended
      cases ended
    | ok step =>
      obtain ⟨early, copiedEarly⟩ := copySectors_of_le within ⟨step, copied⟩
      have copiedFewer : (copyCluster volume fewer cluster).run.result medium = .ok early :=
        copiedEarly
      have stopped := copyCluster_eq_ok clusterBytes (by omega) copied
      have stoppedEarly := copyCluster_eq_ok clusterBytes positive copiedFewer
      rw [copiedFewer]
      rw [copied] at ended
      by_cases last : fewer ≤ volume.bytesPerCluster.toNat
      · rw [stoppedEarly, if_pos last]
        rfl
      · rw [if_neg last] at stoppedEarly
        rw [if_neg (by omega)] at stopped
        subst stopped stoppedEarly
        dsimp only at ended ⊢
        cases linked : volume.linkOn medium cluster with
        | error error =>
          rw [linked] at ended
          cases ended
        | ok link =>
          rw [linked] at ended
          cases link with
          | none => cases ended
          | some next => exact ih (by omega) (Nat.sub_le_sub_right within _) ended

end Copies

section Endings

variable (wellFormed : volume.WellFormed) (faultless : volume.Faultless medium)

include wellFormed faultless

theorem result_copyCluster {cluster : UInt32} (valid : volume.isCluster cluster = true)
    {wanted : Nat} (positive : 0 < wanted) :
    (copyCluster volume wanted cluster).run.result medium =
      .ok (if wanted ≤ volume.bytesPerCluster.toNat then .enough ()
        else .more (wanted - volume.bytesPerCluster.toNat)) := by
  have answers := wellFormed.answers_cluster faultless valid
  obtain ⟨step, copied⟩ := copySectors_faultless answers wanted
  rw [← copyCluster_eq_ok wellFormed.clusterBytes positive copied]
  exact copied

theorem ending_visit (budget : Nat) {cluster : UInt32} (valid : volume.isCluster cluster = true)
    {wanted : Nat} (positive : 0 < wanted) :
    let last := (wanted - 1) / volume.bytesPerCluster.toNat
    ending (((volume.chainWithin budget cluster).visit (copyCluster volume) wanted).run.result
      medium) =
      if last < budget then (volume.travel medium last cluster).map fun _ => ()
      else (volume.travel medium budget cluster).bind fun _ => .error .corruptChain := by
  induction budget generalizing cluster wanted with
  | zero => rfl
  | succ budget ih =>
    intro last
    rw [Volume.result_visit_chainWithin_succ,
      result_copyCluster wellFormed faultless valid positive]
    by_cases inFirst : wanted ≤ volume.bytesPerCluster.toNat
    · have atFirst : last = 0 := Nat.div_eq_of_lt (by omega)
      rw [if_pos inFirst, atFirst, if_pos (Nat.succ_pos budget)]
      rfl
    · have perCluster := wellFormed.bytesPerCluster_pos
      have behind : last = (wanted - volume.bytesPerCluster.toNat - 1) /
          volume.bytesPerCluster.toNat + 1 := by
        have split : wanted - 1 = wanted - volume.bytesPerCluster.toNat - 1 +
            volume.bytesPerCluster.toNat := by omega
        unfold last
        rw [split, Nat.add_div_right _ perCluster]
      rw [if_neg inFirst, behind]
      cases linked : volume.linkOn medium cluster with
      | error error =>
        simp only [Volume.travel, linked]
        split <;> rfl
      | ok link =>
        cases link with
        | none =>
          simp only [Volume.travel, linked]
          split <;> rfl
        | some next =>
          simp only [Volume.travel, linked, Nat.succ_lt_succ_iff]
          exact ih (Volume.isCluster_of_linkOn linked) (by omega)

end Endings

section Files

variable (medium) (fs : Filesystem) (entry : Entry) (limit : Nat)

theorem entryContents_min :
    fs.entryContents entry (min entry.size.toNat limit) = fs.entryContents entry limit := by
  unfold entryContents
  rw [← Nat.min_assoc, Nat.min_self]

theorem entryContents_of_pos (positive : 0 < min entry.size.toNat limit) :
    fs.entryContents entry limit = (do
      match ← (fs.volume.chain entry.cluster).visit (copyCluster fs.volume)
        (min entry.size.toNat limit) with
      | .enough () => pure (min entry.size.toNat limit)
      | .more left => Attempt.failWith (.fileChainEnds entry.name
          (min entry.size.toNat limit - left) (min entry.size.toNat limit)) .incompleteRead) :=
  if_neg (Nat.ne_of_gt positive)

theorem entryContents_eq (positive : 0 < min entry.size.toNat limit) :
    let wanted := min entry.size.toNat limit
    let copy := ((fs.volume.chain entry.cluster).visit (copyCluster fs.volume) wanted).run
    (fs.entryContents entry limit).run.itemsOn medium = copy.itemsOn medium ∧
      (fs.entryContents entry limit).run.result medium =
        (ending (copy.result medium)).map fun () => wanted := by
  intro wanted copy
  rw [entryContents_of_pos fs entry limit positive]
  simp only [Attempt.itemsOn_bind, Attempt.result_bind]
  unfold copy
  cases ((fs.volume.chain entry.cluster).visit (copyCluster fs.volume) wanted).run.result
      medium with
  | error error => exact ⟨List.append_nil _, rfl⟩
  | ok step => cases step <;> exact ⟨List.append_nil _, rfl⟩

theorem entryContents_eq_ok {count : Nat}
    (copied : (fs.entryContents entry limit).run.result medium = .ok count) :
    count = min entry.size.toNat limit := by
  rcases Nat.eq_zero_or_pos (min entry.size.toNat limit) with nothing | positive
  · unfold entryContents at copied
    rw [if_pos nothing] at copied
    cases copied
    exact nothing.symm
  · rw [(entryContents_eq medium fs entry limit positive).2] at copied
    cases ended : ending (((fs.volume.chain entry.cluster).visit (copyCluster fs.volume)
        (min entry.size.toNat limit)).run.result medium) with
    | error error =>
      rw [ended] at copied
      cases copied
    | ok =>
      rw [ended] at copied
      cases copied
      rfl

/-- Whatever keeps a read from going on, it has handed out the bytes of the file in a row. -/
theorem handsOut_entryContents (wellFormed : fs.volume.WellFormed) :
    let reading := (fs.entryContents entry limit).run
    fs.volume.HandsOut medium entry.cluster 0 (min entry.size.toNat limit)
      (reading.itemsOn medium, (reading.result medium).map fun _ => ()) := by
  intro reading
  unfold reading
  rcases Nat.eq_zero_or_pos (min entry.size.toNat limit) with nothing | positive
  · unfold entryContents
    rw [if_pos nothing, nothing]
    exact ⟨0, Nat.le_refl 0, rfl, fun _ => rfl⟩
  · obtain ⟨items, result⟩ := entryContents_eq medium fs entry limit positive
    have ends (outcome : Except Error Unit) :
        (outcome.map fun () => min entry.size.toNat limit).map (fun _ => ()) = outcome := by
      cases outcome <;> rfl
    rw [items, result, ends]
    unfold Volume.chain
    split
    · exact .ofError _ _ _ _
    · split
      · have here : fs.volume.pathOn medium entry.cluster 0 = some entry.cluster := rfl
        have copied := handsOut_visit wellFormed.clusterBytes fs.volume.clusterCount.toNat here
          positive
        dsimp only at copied
        rw [Nat.zero_mul, Nat.zero_add] at copied
        exact copied
      · exact .ofError _ _ _ _

theorem entryContents_of_le (wellFormed : fs.volume.WellFormed) {fewer count : Nat}
    (within : fewer ≤ limit)
    (copied : (fs.entryContents entry limit).run.result medium = .ok count) :
    (fs.entryContents entry fewer).run.result medium = .ok (min entry.size.toNat fewer) ∧
      ((fs.entryContents entry fewer).run.itemsOn medium).flatten =
        ((fs.entryContents entry limit).run.itemsOn medium).flatten.take fewer := by
  have ended : (fs.entryContents entry fewer).run.result medium =
      .ok (min entry.size.toNat fewer) := by
    rcases Nat.eq_zero_or_pos (min entry.size.toNat fewer) with nothing | positive
    · unfold entryContents
      rw [if_pos nothing, nothing]
      rfl
    · rw [(entryContents_eq medium fs entry limit (by omega)).2] at copied
      rw [(entryContents_eq medium fs entry fewer positive).2]
      unfold Volume.chain at copied ⊢
      split at copied
      · cases copied
      · rename_i started
        split at copied
        · rename_i valid
          have whole : ending (((fs.volume.chainWithin fs.volume.clusterCount.toNat
              entry.cluster).visit (copyCluster fs.volume)
              (min entry.size.toNat limit)).run.result medium) = .ok () := by
            revert copied
            cases ending _ with
            | error error => exact fun impossible => by cases impossible
            | ok => exact fun _ => rfl
          rw [if_neg started, if_pos valid,
            ending_visit_of_le wellFormed.clusterBytes _ positive (by omega) whole]
          rfl
        · cases copied
  have longer := handsOut_entryContents medium fs entry limit wellFormed
  have shorter := handsOut_entryContents medium fs entry fewer wellFormed
  dsimp only at longer shorter
  rw [copied] at longer
  rw [ended] at shorter
  have length := longer.length_flatten
  refine ⟨ended, (shorter.eq_take longer (by omega)).trans ?_⟩
  rw [List.take_eq_take_iff, length]
  omega

/-- On a device that answers, a read succeeds when the last cluster that is wanted is on the chain
and the chain walker may go that far. -/
theorem result_entryContents (wellFormed : fs.volume.WellFormed)
    (faultless : fs.volume.Faultless medium) (positive : 0 < min entry.size.toNat limit)
    (started : entry.cluster ≠ 0) :
    let wanted := min entry.size.toNat limit
    let last := (wanted - 1) / fs.volume.bytesPerCluster.toNat
    (fs.entryContents entry limit).run.result medium =
      if last < fs.volume.clusterCount.toNat then
        (fs.volume.clusterAt medium entry.cluster last).map fun _ => wanted
      else (fs.volume.clusterAt medium entry.cluster fs.volume.clusterCount.toNat).bind
        fun _ => .error .corruptChain := by
  intro wanted last
  rw [(entryContents_eq medium fs entry limit positive).2, Volume.chain, if_neg started]
  unfold Volume.clusterAt
  split
  · rename_i valid
    rw [ending_visit wellFormed faultless _ valid positive]
    split
    · cases fs.volume.travel medium last entry.cluster <;> rfl
    · cases fs.volume.travel medium fs.volume.clusterCount.toNat entry.cluster <;> rfl
  · split <;> rfl

end Files

end Filesystem

end Fat32
