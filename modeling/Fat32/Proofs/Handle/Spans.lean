import Fat32.Handle.Read
import Fat32.Proofs.Volume.Path

/-!
What a read from an open file hands out on a fixed device, computed from the
start of the file alone (`spansOn`). Whether it succeeds or fails, it hands out
the bytes of the file from its offset on, without a gap (`handsOut_cover`).
-/

namespace Fat32

/-- The span of one cluster in the bytes from `start` up to but not including `stop`. -/
def Span.within (clusterSize start stop index : Nat) : Span where
  index
  first := start - index * clusterSize
  last := min clusterSize (stop - index * clusterSize)

theorem Span.cover_eq (clusterSize start stop : Nat) :
    cover clusterSize start stop =
      (List.range' (start / clusterSize)
        ((stop - 1) / clusterSize + 1 - start / clusterSize)).map
          (within clusterSize start stop) := rfl

theorem Span.index_mul_lt_of_mem_cover {clusterSize start stop : Nat} (ordered : start < stop)
    {span : Span} (member : span ∈ cover clusterSize start stop) :
    span.index * clusterSize < stop := by
  rw [cover_eq] at member
  obtain ⟨index, inRange, rfl⟩ := List.mem_map.mp member
  have last := (List.mem_range'_1.mp inRange).2
  have inOrder : start / clusterSize ≤ (stop - 1) / clusterSize :=
    Nat.div_le_div_right (by omega)
  calc
    index * clusterSize ≤ (stop - 1) / clusterSize * clusterSize :=
      Nat.mul_le_mul_right _ (by omega)
    _ ≤ stop - 1 := Nat.div_mul_le_self _ _
    _ < stop := by omega

namespace Volume

variable (volume : Volume) (medium : Medium)

/-- The cluster at a place of a file. The start of a file is checked when the file is read. -/
def clusterAt (start : UInt32) (index : Nat) : Except Error UInt32 :=
  if volume.isCluster start then volume.travel medium index start else .error .corruptChain

/-- What some spans of a file hand out, and how that ends. -/
def spansOn (start : UInt32) : List Span → List (List UInt8) × Except Error Unit
  | [] => ([], .ok ())
  | span :: rest =>
    match volume.clusterAt medium start span.index with
    | .error error => ([], .error error)
    | .ok cluster =>
      match volume.contentOn medium cluster with
      | .error cause => ([], .error (.device cause))
      | .ok bytes =>
        let (parts, ending) := spansOn start rest
        ((bytes.take span.last).drop span.first :: parts, ending)

/-- A reading hands out the bytes of a file from `first` on without a gap. Unless it fails, it
goes on up to `last`. -/
def HandsOut (start : UInt32) (first last : Nat)
    (reading : List (List UInt8) × Except Error Unit) : Prop :=
  ∃ count ≤ last - first,
    reading.1.flatten.map some = (List.range' first count).map (volume.byteOn medium start) ∧
      (reading.2 = .ok () → count = last - first)

variable {volume medium}

namespace HandsOut

variable {start : UInt32} {first middle last : Nat} {parts more : List (List UInt8)}

theorem complete (handsOut : volume.HandsOut medium start first last (parts, .ok ())) :
    parts.flatten.map some =
      (List.range' first (last - first)).map (volume.byteOn medium start) := by
  obtain ⟨count, -, inRow, all⟩ := handsOut
  rw [← all rfl]
  exact inRow

theorem length_flatten (handsOut : volume.HandsOut medium start first last (parts, .ok ())) :
    parts.flatten.length = last - first := by
  have lengths := congrArg List.length handsOut.complete
  rwa [List.length_map, List.length_map, List.length_range'] at lengths

theorem getElem?_flatten (handsOut : volume.HandsOut medium start first last (parts, .ok ()))
    {place : Nat} (inside : place < last - first) :
    ∃ byte, volume.byteOn medium start (first + place) = some byte ∧
      parts.flatten[place]? = some byte := by
  have here : place < parts.flatten.length := by rwa [handsOut.length_flatten]
  refine ⟨parts.flatten[place], ?_, List.getElem?_eq_getElem here⟩
  have placed : (parts.flatten.map some)[place]? = _ := congrArg (·[place]?) handsOut.complete
  rw [List.getElem?_map, List.getElem?_map, List.getElem?_eq_getElem here,
    List.getElem?_range' inside, Nat.one_mul] at placed
  exact (Option.some.inj placed).symm

theorem eq_take {further : Nat} {longer : List (List UInt8)}
    (handsOut : volume.HandsOut medium start first last (parts, .ok ()))
    (goesOn : volume.HandsOut medium start first further (longer, .ok ()))
    (within : last ≤ further) : parts.flatten = longer.flatten.take (last - first) := by
  apply (List.map_inj_right fun _ _ => Option.some.inj).mp
  rw [List.map_take, handsOut.complete, goesOn.complete, ← List.map_take,
    List.take_range'_of_length_ge (by omega)]

theorem ofError (start : UInt32) (first last : Nat) (error : Error) :
    volume.HandsOut medium start first last ([], .error error) :=
  ⟨0, Nat.zero_le _, rfl, fun ended => by cases ended⟩

theorem stop {ending : Except Error Unit} (atMost : middle ≤ last)
    (handsOut : volume.HandsOut medium start first middle (parts, ending))
    (error : Error) : volume.HandsOut medium start first last (parts, .error error) := by
  obtain ⟨count, within, inRow, -⟩ := handsOut
  exact ⟨count, by omega, inRow, fun ended => by cases ended⟩

theorem append {ending : Except Error Unit} (before : first ≤ middle) (behind : middle ≤ last)
    (one : volume.HandsOut medium start first middle (parts, .ok ()))
    (two : volume.HandsOut medium start middle last (more, ending)) :
    volume.HandsOut medium start first last (parts ++ more, ending) := by
  obtain ⟨further, atMost, joined, ends⟩ := two
  refine ⟨middle - first + further, by omega, ?_, fun ended => ?_⟩
  · have meets : first + (middle - first) = middle := Nat.add_sub_of_le before
    dsimp only at joined ⊢
    rw [List.flatten_append, List.map_append, one.complete, joined, ← List.map_append,
      ← List.range'_append_1, meets]
  · have all := ends ended
    omega

end HandsOut

theorem pathOn_of_clusterAt {start cluster : UInt32} {index : Nat}
    (located : volume.clusterAt medium start index = .ok cluster) :
    volume.isCluster start = true ∧ volume.pathOn medium start index = some cluster := by
  unfold clusterAt at located
  split at located
  · rename_i valid
    exact ⟨valid, travel_eq_ok_iff.mp located⟩
  · cases located

theorem isCluster_of_clusterAt {start cluster : UInt32} {index : Nat}
    (located : volume.clusterAt medium start index = .ok cluster) :
    volume.isCluster cluster = true := by
  obtain ⟨valid, here⟩ := pathOn_of_clusterAt located
  cases index with
  | zero =>
    cases here
    exact valid
  | succ index => exact isCluster_of_pathOn (Nat.succ_pos index) here

section Bytes

variable {start : UInt32}
  (clusterBytes : volume.bytesPerCluster.toNat = volume.sectorsPerCluster.toNat * sectorSize)

include clusterBytes

theorem map_slice {cluster : UInt32} {bytes : List UInt8} {index first last : Nat}
    (here : volume.pathOn medium start index = some cluster)
    (loaded : volume.contentOn medium cluster = .ok bytes)
    (inside : last ≤ volume.bytesPerCluster.toNat) :
    ((bytes.take last).drop first).map some =
      (List.range' (index * volume.bytesPerCluster.toNat + first) (last - first)).map
        (volume.byteOn medium start) := by
  apply List.ext_getElem?
  intro place
  rw [List.getElem?_map, List.getElem?_map, List.getElem?_drop]
  by_cases within : place < last - first
  · have complete := (contentOn_eq_ok loaded).1
    rw [List.getElem?_take_of_lt (by omega), List.getElem?_range' within, Option.map_some,
      Nat.one_mul, Nat.add_assoc, byteOn_eq clusterBytes here loaded (by omega),
      List.getElem?_eq_getElem (by omega), Option.map_some]
  · rw [List.getElem?_eq_none (by rw [List.length_take]; omega),
      List.getElem?_eq_none (by rw [List.length_range']; omega)]
    rfl

theorem handsOut_slice {cluster : UInt32} {bytes : List UInt8} (offset stop index : Nat)
    (here : volume.pathOn medium start index = some cluster)
    (loaded : volume.contentOn medium cluster = .ok bytes) :
    let span := Span.within volume.bytesPerCluster.toNat offset stop index
    volume.HandsOut medium start (max offset (index * volume.bytesPerCluster.toNat))
      (min stop ((index + 1) * volume.bytesPerCluster.toNat))
      ([(bytes.take span.last).drop span.first], .ok ()) := by
  intro span
  have inside : span.last ≤ volume.bytesPerCluster.toNat := Nat.min_le_left _ _
  have first : span.first = offset - index * volume.bytesPerCluster.toNat := rfl
  have last : span.last = min volume.bytesPerCluster.toNat
    (stop - index * volume.bytesPerCluster.toNat) := rfl
  have next : (index + 1) * volume.bytesPerCluster.toNat =
    index * volume.bytesPerCluster.toNat + volume.bytesPerCluster.toNat := Nat.succ_mul _ _
  refine ⟨_, Nat.le_refl _, ?_, fun _ => rfl⟩
  rw [List.flatten_singleton, map_slice clusterBytes here loaded inside]
  congr 2 <;> omega

variable (medium start)

theorem handsOut_within (offset stop count index : Nat)
    (notBehind : offset < (index + 1) * volume.bytesPerCluster.toNat)
    (reaches : 0 < count → (index + count - 1) * volume.bytesPerCluster.toNat < stop) :
    volume.HandsOut medium start (max offset (index * volume.bytesPerCluster.toNat))
      (min stop ((index + count) * volume.bytesPerCluster.toNat))
      (volume.spansOn medium start ((List.range' index count).map
        (Span.within volume.bytesPerCluster.toNat offset stop))) := by
  induction count generalizing index with
  | zero =>
    rw [Nat.add_zero]
    exact ⟨0, Nat.zero_le _, rfl, fun _ => by omega⟩
  | succ count ih =>
    rw [List.range'_succ, List.map_cons, spansOn]
    split
    · exact .ofError _ _ _ _
    · rename_i cluster located
      split
      · exact .ofError _ _ _ _
      · rename_i bytes loaded
        have here := (pathOn_of_clusterAt located).2
        have slice := handsOut_slice clusterBytes offset stop index here loaded
        cases count with
        | zero => exact slice
        | succ count =>
          -- There is a cluster behind this one, so the read does not end within this one.
          have next : (index + 1) * volume.bytesPerCluster.toNat =
            index * volume.bytesPerCluster.toNat + volume.bytesPerCluster.toNat := Nat.succ_mul _ _
          have last := reaches (Nat.succ_pos _)
          rw [← Nat.add_assoc, Nat.add_sub_cancel] at last
          have crosses : (index + 1) * volume.bytesPerCluster.toNat < stop :=
            Nat.lt_of_le_of_lt (Nat.mul_le_mul_right _ (by omega)) last
          have behind : (index + 1) * volume.bytesPerCluster.toNat ≤
              (index + (count + 1 + 1)) * volume.bytesPerCluster.toNat :=
            Nat.mul_le_mul_right _ (by omega)
          have rest := ih (index + 1) (by rw [Nat.succ_mul]; omega)
          rw [Nat.add_right_comm index, Nat.add_assoc index, Nat.max_eq_right (by omega)] at rest
          rw [Nat.min_eq_right (Nat.le_of_lt crosses)] at slice
          exact slice.append (by omega) (by omega) (rest fun _ => last)

variable (perCluster : 0 < volume.bytesPerCluster.toNat)

include perCluster

/-- Whatever keeps a read from going on, it has handed out the bytes of the file in a row. -/
theorem handsOut_cover {offset stop : Nat} (ordered : offset < stop) :
    volume.HandsOut medium start offset stop
      (volume.spansOn medium start (Span.cover volume.bytesPerCluster.toNat offset stop)) := by
  have before := Nat.div_mul_le_self offset volume.bytesPerCluster.toNat
  have behind := Nat.lt_mul_div_succ offset perCluster
  have lastBefore := Nat.div_mul_le_self (stop - 1) volume.bytesPerCluster.toNat
  have lastBehind := Nat.lt_mul_div_succ (stop - 1) perCluster
  rw [Nat.mul_comm] at behind lastBehind
  have inOrder : offset / volume.bytesPerCluster.toNat ≤
      (stop - 1) / volume.bytesPerCluster.toNat := Nat.div_le_div_right (by omega)
  have reading := handsOut_within medium start clusterBytes offset stop
    ((stop - 1) / volume.bytesPerCluster.toNat + 1 - offset / volume.bytesPerCluster.toNat)
    (offset / volume.bytesPerCluster.toNat) behind
    fun _ => by
      rw [Nat.add_sub_cancel' (by omega), Nat.add_sub_cancel]
      omega
  rw [Nat.add_sub_cancel' (by omega), Nat.max_eq_left before, Nat.min_eq_left (by omega)]
    at reading
  exact reading

end Bytes

end Volume

end Fat32
