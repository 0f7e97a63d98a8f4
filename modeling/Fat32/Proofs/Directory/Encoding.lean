import Mathlib.Data.List.TakeWhile
import Fat32.Filesystem.Basic
import Fat32.Proofs.Directory.Batch
import Fat32.Proofs.Volume.Geometry

/-!
How a writer stores entries: the fragments of a long name from the last one to
the first, then the record of the entry. A directory that holds the records of
some entries in a row is read back as these entries, wherever the borders of
sectors and clusters fall.
-/

namespace Fat32

namespace Bytes

def low (word : UInt16) : UInt8 := .ofNat (word.toNat % 0x100)

def high (word : UInt16) : UInt8 := .ofNat (word.toNat / 0x100)

def lowHalf (word : UInt32) : UInt16 := .ofNat (word.toNat % 0x10000)

def highHalf (word : UInt32) : UInt16 := .ofNat (word.toNat / 0x10000)

theorem toNat_low_high (word : UInt16) :
    (low word).toNat + (high word).toNat * 0x100 = word.toNat := by
  have inRange := word.toNat_lt
  rw [low, high, UInt8.toNat_ofNat', UInt8.toNat_ofNat']
  omega

theorem toNat_lowHalf_highHalf (word : UInt32) :
    (lowHalf word).toNat + (highHalf word).toNat * 0x10000 = word.toNat := by
  have inRange := word.toNat_lt
  rw [lowHalf, highHalf, UInt16.toNat_ofNat', UInt16.toNat_ofNat']
  omega

end Bytes

/-- An entry as a writer is given it. -/
structure Stored where
  short : ShortName
  attributes : Attributes
  cluster : UInt32
  size : UInt32
  long : Option (List UInt16)
  deriving DecidableEq

namespace Stored

/-- The first byte of a short name is neither the end mark nor the mark of a deleted record, and
a long name can be told from what fills it up. -/
structure WellFormed (stored : Stored) : Prop where
  notEnd : stored.short.raw[0] ≠ 0x00
  notDeleted : stored.short.raw[0] ≠ 0xE5
  notLabel : stored.attributes.bits &&& 0x08 = 0
  long : ∀ units, stored.long = some units →
    1 ≤ units.length ∧ units.length ≤ 255 ∧ ∀ unit ∈ units, unit ≠ 0x0000 ∧ unit ≠ 0xFFFF

def entry (stored : Stored) : Entry where
  name :=
    match stored.long with
    | some units => Text.fold (String.ofList (Text.Utf16.decode units))
    | none => stored.short.display
  shortName := stored.short
  attributes := stored.attributes
  cluster := stored.cluster
  size := stored.size

/-- The sum over a short name by which its fragments are told from others. -/
def checksum (short : ShortName) : UInt8 :=
  short.raw.toList.foldl (fun sum byte => (sum >>> 1) + (sum <<< 7) + byte) 0

/-- The unit at a place of a long name. Behind the last one a zero ends the name, and ones fill
up the last fragment. -/
def unitAt (units : List UInt16) (place : Nat) : UInt16 :=
  units[place]?.getD (if place = units.length then 0x0000 else 0xFFFF)

def fragmentCount (units : List UInt16) : Nat := (units.length + 12) / 13

/-- The fragment at a place of a long name. The last one is marked. -/
def fragmentRecord (short : ShortName) (units : List UInt16) (place : Nat) : DirRecord :=
  let low (index : Nat) : UInt8 := Bytes.low (unitAt units (place * 13 + index))
  let high (index : Nat) : UInt8 := Bytes.high (unitAt units (place * 13 + index))
  let ordinal : UInt8 := .ofNat (place + 1)
  #v[if place + 1 = fragmentCount units then ordinal ||| 0x40 else ordinal,
    low 0, high 0, low 1, high 1, low 2, high 2, low 3, high 3, low 4, high 4,
    0x0F, 0, checksum short,
    low 5, high 5, low 6, high 6, low 7, high 7, low 8, high 8, low 9, high 9, low 10, high 10,
    0, 0,
    low 11, high 11, low 12, high 12]

def fragments (short : ShortName) (units : List UInt16) : List DirRecord :=
  (List.range (fragmentCount units)).reverse.map (fragmentRecord short units)

def fields (stored : Stored) : Bytes 21 :=
  #v[stored.attributes.bits, 0, 0, 0, 0, 0, 0, 0, 0,
    Bytes.low (Bytes.highHalf stored.cluster), Bytes.high (Bytes.highHalf stored.cluster),
    0, 0, 0, 0,
    Bytes.low (Bytes.lowHalf stored.cluster), Bytes.high (Bytes.lowHalf stored.cluster),
    Bytes.low (Bytes.lowHalf stored.size), Bytes.high (Bytes.lowHalf stored.size),
    Bytes.low (Bytes.highHalf stored.size), Bytes.high (Bytes.highHalf stored.size)]

def shortRecord (stored : Stored) : DirRecord := stored.short.raw ++ stored.fields

def records (stored : Stored) : List DirRecord :=
  (stored.long.map (fragments stored.short)).getD [] ++ [stored.shortRecord]

theorem word16_eq {n : Nat} {record : Bytes n} {index : Nat} {before : index < n}
    {inside : index + 1 < n} {unit : UInt16} (low : record[index] = Bytes.low unit)
    (high : record[index + 1] = Bytes.high unit) : record.word16 index inside = unit := by
  rw [Bytes.word16, low, high, Bytes.toNat_low_high, UInt16.ofNat_toNat]

theorem places_fragmentRecord (short : ShortName) (units : List UInt16) (place : Nat) :
    (fragmentRecord short units place).places =
      (List.range 13).map fun index => unitAt units (place * 13 + index) := by
  have unit (index : Nat) : UInt16.ofNat
      ((Bytes.low (unitAt units (place * 13 + index))).toNat +
        (Bytes.high (unitAt units (place * 13 + index))).toNat * 0x100) =
      unitAt units (place * 13 + index) := by
    rw [Bytes.toNat_low_high, UInt16.ofNat_toNat]
  change [_, _, _, _, _, _, _, _, _, _, _, _, _] = [_, _, _, _, _, _, _, _, _, _, _, _, _]
  simp only [List.cons.injEq, and_true]
  exact ⟨unit 0, unit 1, unit 2, unit 3, unit 4, unit 5, unit 6, unit 7, unit 8, unit 9, unit 10,
    unit 11, unit 12⟩

theorem unitAt_cons_succ (unit : UInt16) (units : List UInt16) (place : Nat) :
    unitAt (unit :: units) (place + 1) = unitAt units place := by
  unfold unitAt
  rw [List.getElem?_cons_succ, List.length_cons]
  simp only [Nat.add_right_cancel_iff]

theorem unitAt_drop {units : List UInt16} {start : Nat} (inside : start ≤ units.length)
    (place : Nat) : unitAt units (start + place) = unitAt (units.drop start) place := by
  unfold unitAt
  rw [List.getElem?_drop, List.length_drop]
  congr 1
  have same : start + place = units.length ↔ place = units.length - start := by omega
  simp only [same]

theorem takeWhile_unitAt {units : List UInt16}
    (valid : ∀ unit ∈ units, unit ≠ 0x0000 ∧ unit ≠ 0xFFFF) (count : Nat) :
    ((List.range count).map (unitAt units)).takeWhile (fun unit => unit != 0 && unit != 0xFFFF) =
      units.take count := by
  induction count generalizing units with
  | zero => exact List.take_zero.symm
  | succ count ih =>
    rw [List.range_succ_eq_map, List.map_cons, List.map_map]
    cases units with
    | nil => rfl
    | cons unit rest =>
      have shifted : unitAt (unit :: rest) ∘ Nat.succ = unitAt rest :=
        funext fun place => unitAt_cons_succ unit rest place
      have first : unitAt (unit :: rest) 0 = unit := rfl
      obtain ⟨notZero, notOnes⟩ := valid unit List.mem_cons_self
      rw [shifted, first, List.takeWhile_cons_of_pos (by simp [notZero, notOnes]),
        ih fun other later => valid other (List.mem_cons_of_mem _ later), List.take_succ_cons]

section Fragments

variable (short : ShortName) {units : List UInt16}

theorem units_fragmentRecord (valid : ∀ unit ∈ units, unit ≠ 0x0000 ∧ unit ≠ 0xFFFF) {place : Nat}
    (inside : place * 13 ≤ units.length) :
    (Fragment.ofRecord (fragmentRecord short units place)).units =
      (units.drop (place * 13)).take 13 := by
  have part : ∀ unit ∈ units.drop (place * 13), unit ≠ 0x0000 ∧ unit ≠ 0xFFFF :=
    fun unit member => valid unit (List.mem_of_mem_drop member)
  rw [Fragment.ofRecord, places_fragmentRecord, ← takeWhile_unitAt part 13]
  exact congrArg (List.takeWhile _)
    (List.map_congr_left fun index _ => unitAt_drop inside index)

variable (units) in
theorem status_fragmentRecord {place : Nat} (numbered : place < 20) :
    (fragmentRecord short units place).status ≠ 0x00 ∧
      (fragmentRecord short units place).status ≠ 0xE5 := by
  have ordinal : ∀ place < 20, ∀ last : Prop, ∀ _ : Decidable last,
      (if last then UInt8.ofNat (place + 1) ||| 0x40 else UInt8.ofNat (place + 1)) ≠ 0x00 ∧
        (if last then UInt8.ofNat (place + 1) ||| 0x40 else UInt8.ofNat (place + 1)) ≠ 0xE5 := by
    intro place below last _
    split <;> revert place <;> decide
  exact ordinal place numbered _ _

theorem absorb_fragmentRecord (valid : ∀ unit ∈ units, unit ≠ 0x0000 ∧ unit ≠ 0xFFFF) {place : Nat}
    (inside : place * 13 ≤ units.length) (numbered : place < 20) (entries : List Entry) :
    (Directory.Gathered.mk entries (units.drop ((place + 1) * 13))).absorb
        (fragmentRecord short units place) = ⟨entries, units.drop (place * 13)⟩ := by
  have notDeleted := (status_fragmentRecord short units numbered).2
  have marked : (fragmentRecord short units place).attributes = ⟨0x0F⟩ := rfl
  have fragment : (fragmentRecord short units place).attributes.bits &&& 0x3F = 0x0F := by
    rw [marked]
    decide
  rw [Directory.Gathered.absorb, if_neg notDeleted, if_pos fragment,
    units_fragmentRecord short valid inside, Nat.succ_mul, ← List.drop_drop, List.take_append_drop]

/-- The fragments of a name together give the name. -/
theorem foldl_fragments (valid : ∀ unit ∈ units, unit ≠ 0x0000 ∧ unit ≠ 0xFFFF)
    (fits : units.length ≤ 255) (entries : List Entry) :
    (fragments short units).foldl Directory.Gathered.absorb ⟨entries, []⟩ = ⟨entries, units⟩ := by
  -- The last fragment comes first, so the units gathered are always a tail of the name.
  have upTo (count : Nat) (within : count ≤ fragmentCount units) :
      ((List.range count).reverse.map (fragmentRecord short units)).foldl
        Directory.Gathered.absorb ⟨entries, units.drop (count * 13)⟩ = ⟨entries, units⟩ := by
    induction count with
    | zero => rfl
    | succ count ih =>
      unfold fragmentCount at within ih
      rw [List.range_succ, List.reverse_append, List.reverse_singleton, List.singleton_append,
        List.map_cons, List.foldl_cons,
        absorb_fragmentRecord short valid (by omega) (by omega) entries]
      exact ih (by omega)
  have whole := upTo (fragmentCount units) (Nat.le_refl _)
  have behind : units.drop (fragmentCount units * 13) = [] := by
    apply List.drop_eq_nil_of_le
    unfold fragmentCount
    omega
  rwa [behind] at whole

end Fragments

section ShortRecord

variable (stored : Stored)

theorem getElem_shortRecord (index : Nat) (inside : 11 + index < 32) :
    stored.shortRecord[11 + index] = stored.fields[index] := by
  have behind : 11 ≤ 11 + index := Nat.le_add_right 11 index
  have located : (stored.short.raw ++ stored.fields)[11 + index] =
    stored.fields[11 + index - 11] := Vector.getElem_append_right inside behind
  simp only [Nat.add_sub_cancel_left] at located
  exact located

theorem shortName_shortRecord : stored.shortRecord.shortName = stored.short := by
  have raw : stored.shortRecord.slice 0 11 = stored.short.raw := by
    apply Vector.ext
    intro index inside
    rw [Bytes.slice, Vector.getElem_ofFn]
    simp only [Nat.zero_add]
    exact Vector.getElem_append_left inside
  rw [DirRecord.shortName, raw]

theorem status_shortRecord : stored.shortRecord.status = stored.short.raw[0] :=
  Vector.getElem_append_left (by decide)

theorem attributes_shortRecord : stored.shortRecord.attributes = stored.attributes :=
  congrArg Attributes.mk (stored.getElem_shortRecord 0 (by decide))

theorem cluster_shortRecord : stored.shortRecord.cluster = stored.cluster := by
  have highHalf : stored.shortRecord.word16 20 = Bytes.highHalf stored.cluster :=
    word16_eq (stored.getElem_shortRecord 9 (by decide))
      (stored.getElem_shortRecord 10 (by decide))
  have lowHalf : stored.shortRecord.word16 26 = Bytes.lowHalf stored.cluster :=
    word16_eq (stored.getElem_shortRecord 15 (by decide))
      (stored.getElem_shortRecord 16 (by decide))
  rw [DirRecord.cluster, highHalf, lowHalf, Bytes.toNat_lowHalf_highHalf, UInt32.ofNat_toNat]

theorem size_shortRecord : stored.shortRecord.size = stored.size := by
  have first : stored.shortRecord[28] = Bytes.low (Bytes.lowHalf stored.size) :=
    stored.getElem_shortRecord 17 (by decide)
  have second : stored.shortRecord[28 + 1] = Bytes.high (Bytes.lowHalf stored.size) :=
    stored.getElem_shortRecord 18 (by decide)
  have third : stored.shortRecord[28 + 2] = Bytes.low (Bytes.highHalf stored.size) :=
    stored.getElem_shortRecord 19 (by decide)
  have fourth : stored.shortRecord[28 + 3] = Bytes.high (Bytes.highHalf stored.size) :=
    stored.getElem_shortRecord 20 (by decide)
  have lower := Bytes.toNat_low_high (Bytes.lowHalf stored.size)
  have upper := Bytes.toNat_low_high (Bytes.highHalf stored.size)
  have whole := Bytes.toNat_lowHalf_highHalf stored.size
  have total : (Bytes.low (Bytes.lowHalf stored.size)).toNat +
      (Bytes.high (Bytes.lowHalf stored.size)).toNat * 0x100 +
      (Bytes.low (Bytes.highHalf stored.size)).toNat * 0x10000 +
      (Bytes.high (Bytes.highHalf stored.size)).toNat * 0x1000000 = stored.size.toNat := by
    omega
  rw [DirRecord.size, Bytes.word32, first, second, third, fourth, total, UInt32.ofNat_toNat]

end ShortRecord

theorem status_records {stored : Stored} (wellFormed : stored.WellFormed) :
    ∀ record ∈ stored.records, record.status ≠ 0 := by
  intro record member
  unfold records at member
  rcases List.mem_append.mp member with inFragments | isShort
  · cases spelled : stored.long with
    | none =>
      rw [spelled] at inFragments
      cases inFragments
    | some units =>
      rw [spelled] at inFragments
      have fits := (wellFormed.long units spelled).2.1
      obtain ⟨place, numbered, rfl⟩ := List.mem_map.mp inFragments
      rw [List.mem_reverse, List.mem_range, fragmentCount] at numbered
      exact (status_fragmentRecord stored.short units (by omega)).1
  · rw [List.mem_singleton] at isShort
    rw [isShort, status_shortRecord]
    exact wellFormed.notEnd

theorem absorb_shortRecord {stored : Stored} (wellFormed : stored.WellFormed)
    (entries : List Entry) {units : List UInt16}
    (named : (LongName.spelled units).getD stored.short.display = stored.entry.name) :
    (Directory.Gathered.mk entries units).absorb stored.shortRecord =
      ⟨entries ++ [stored.entry], []⟩ := by
  have notDeleted : stored.shortRecord.status ≠ 0xE5 := by
    rw [status_shortRecord]
    exact wellFormed.notDeleted
  have notFragment : ¬ stored.attributes.bits &&& 0x3F = 0x0F := by
    intro fragment
    have label : stored.attributes.bits &&& 0x08 = stored.attributes.bits &&& 0x3F &&& 0x08 := by
      rw [UInt8.and_assoc]
      rfl
    rw [wellFormed.notLabel, fragment] at label
    revert label
    decide
  rw [Directory.Gathered.absorb, if_neg notDeleted, attributes_shortRecord, if_neg notFragment,
    if_neg (not_not_intro wellFormed.notLabel), Directory.Gathered.entry, shortName_shortRecord,
    attributes_shortRecord, cluster_shortRecord, size_shortRecord, named]
  rfl

theorem foldl_records {stored : Stored} (wellFormed : stored.WellFormed) (entries : List Entry) :
    stored.records.foldl Directory.Gathered.absorb ⟨entries, []⟩ =
      ⟨entries ++ [stored.entry], []⟩ := by
  unfold records
  rw [List.foldl_append, List.foldl_cons, List.foldl_nil]
  cases spelled : stored.long with
  | none =>
    refine absorb_shortRecord wellFormed entries ?_
    rw [entry, spelled]
    rfl
  | some units =>
    obtain ⟨some, fits, valid⟩ := wellFormed.long units spelled
    have gathered := foldl_fragments stored.short valid fits entries
    have gathers : LongName.spelled units =
        .some (Text.fold (String.ofList (Text.Utf16.decode units))) := by
      rw [LongName.spelled, if_neg]
      unfold LongName.maxUnits
      omega
    rw [Option.map_some, Option.getD_some, gathered]
    refine absorb_shortRecord wellFormed entries ?_
    rw [entry, spelled, gathers]
    rfl

def image (items : List Stored) : List DirRecord := items.flatMap records

theorem foldl_image {items : List Stored} (wellFormed : ∀ item ∈ items, item.WellFormed)
    (entries : List Entry) :
    (image items).foldl Directory.Gathered.absorb ⟨entries, []⟩ =
      ⟨entries ++ items.map entry, []⟩ := by
  induction items generalizing entries with
  | nil => exact congrArg (Directory.Gathered.mk · []) (List.append_nil entries).symm
  | cons item rest ih =>
    have first := foldl_records (wellFormed item List.mem_cons_self) entries
    have behind := ih (fun other later => wellFormed other (List.mem_cons_of_mem _ later))
      (entries ++ [item.entry])
    unfold image at behind ⊢
    rw [List.flatMap_cons, List.foldl_append, first, behind, List.map_cons, List.append_assoc,
      List.singleton_append]

end Stored

namespace Directory

theorem used_cut_of_head {bytes : List UInt8} (ended : bytes.head? = some 0) :
    used (cut bytes) = [] := by
  unfold cut
  cases bytes.length / 32 with
  | zero => rfl
  | succ count =>
    have status : (Bytes.ofList 32 (bytes.drop (0 * 32)))[0] = 0 := by
      rw [Nat.zero_mul, List.drop_zero, Bytes.getElem_ofList, ← List.head?_eq_getElem?, ended,
        Option.getD_some]
    rw [List.range_succ_eq_map, List.map_cons, used,
      List.takeWhile_cons_of_neg (by simpa [DirRecord.status] using status)]

/-- A directory that holds the records of some entries, from the start of its chain to the end of
the chain or to a zero, is read back as these entries. -/
theorem stream_image {fs : Filesystem} {medium : Medium} {start : UInt32} {items : List Stored}
    (wellFormed : ∀ item ∈ items, item.WellFormed) {rest : List UInt8}
    (ended : rest = [] ∨ rest.head? = some 0)
    (laid : contents fs.volume medium start =
      ((Stored.image items).flatMap (·.toList) ++ rest, .ok ())) (count : Nat) :
    (fs.directory start).run.nth medium count =
      (items[count]?).map fun item => .ok item.entry := by
  obtain ⟨handed, answered⟩ := entries_eq_batch fs.volume medium start
  have cuts : cut (contents fs.volume medium start).1 = Stored.image items ++ cut rest := by
    rw [laid]
    exact cut_append _ _
  have inUse : used (Stored.image items) = Stored.image items := by
    apply List.takeWhile_eq_self_iff.mpr
    intro record member
    obtain ⟨item, stored, inItem⟩ := List.mem_flatMap.mp member
    exact decide_eq_true (Stored.status_records (wellFormed item stored) record inItem)
  have unused : used (cut rest) = [] := by
    rcases ended with rfl | zero
    · rfl
    · exact used_cut_of_head zero
  have all : used (cut (contents fs.volume medium start).1) = Stored.image items := by
    rw [cuts, used_append_of_eq _ inUse, unused, List.append_nil]
  have entries : (batch fs.volume medium start).1 = items.map Stored.entry := by
    unfold batch
    dsimp only
    rw [all]
    exact congrArg Gathered.entries (Stored.foldl_image wellFormed [])
  have ending : (batch fs.volume medium start).2 = .ok () := by
    unfold batch
    dsimp only
    rw [laid]
    split <;> rfl
  rw [Filesystem.directory, Scan.nth_eq, handed, answered, entries, ending, withEnding,
    List.append_nil, List.getElem?_map, List.getElem?_map, Option.map_map]
  rfl

/-- Six entries with long names of two fragments each fill one cluster of a directory and go on
in the next one. -/
theorem stream_image_small :
    let item : Stored :=
      { short := ⟨#v[0x4C, 0x4F, 0x4E, 0x47, 0x4E, 0x41, 0x7E, 0x31, 0x54, 0x58, 0x54]⟩
        attributes := ⟨0x20⟩
        cluster := 0x00030004
        size := 600
        long := some [0x4C, 0x6F, 0x6E, 0x67, 0x20, 0x6E, 0x61, 0x6D, 0x65, 0x2E, 0x74, 0x65, 0x78,
          0x74] }
    let items := List.replicate 6 item
    let bytes := (Stored.image items).flatMap (·.toList)
    let rest : List UInt8 := List.replicate 448 0
    let medium : Medium := fun lba =>
      match lba.toNat with
      | 1 => .ok (.ofList 512 [0xF8, 0xFF, 0xFF, 0x0F, 0xFF, 0xFF, 0xFF, 0x0F, 3, 0, 0, 0,
          0xFF, 0xFF, 0xFF, 0x0F])
      | 2 => .ok (.ofList 512 (bytes.take 512))
      | 3 => .ok (.ofList 512 (bytes.drop 512))
      | _ => .error .readError
    let fs : Filesystem := ⟨.small, ⟨2, "/", []⟩, .empty⟩
    (∀ item ∈ items, item.WellFormed) ∧
      (rest = [] ∨ rest.head? = some 0) ∧
      contents fs.volume medium 2 = (bytes ++ rest, .ok ()) ∧
      ∀ count, (fs.directory 2).run.nth medium count =
        (items[count]?).map fun item => .ok item.entry := by
  intro item items bytes rest medium fs
  have itemWellFormed : item.WellFormed := by
    refine ⟨by decide, by decide, by decide, ?_⟩
    intro units same
    cases same
    refine ⟨by decide, by decide, ?_⟩
    intro unit member
    simp only [List.mem_cons, List.not_mem_nil, or_false] at member
    rcases member with rfl | rfl | rfl | rfl | rfl | rfl | rfl | rfl | rfl | rfl | rfl | rfl |
      rfl | rfl <;> exact ⟨by decide, by decide⟩
  have wellFormed : ∀ item ∈ items, item.WellFormed := by
    intro other member
    rw [List.eq_of_mem_replicate member]
    exact itemWellFormed
  have ended : rest = [] ∨ rest.head? = some 0 := .inr rfl
  have laid : contents .small medium 2 = (bytes ++ rest, .ok ()) := by
    have records : (Stored.image items).length = 18 := by decide +kernel
    have length : bytes.length = 576 := by
      rw [Bytes.length_flatMap_toList, records]
    have clusters : (Volume.small.chain 2).run.itemsOn medium = [2, 3] := by decide +kernel
    have clean : ((Volume.small.chain 2).run.result medium).toOption = some () := by
      decide +kernel
    -- The bytes themselves are not needed any more, and evaluating them is slow.
    clear_value bytes
    have ends : (Volume.small.chain 2).run.result medium = .ok () := eq_ok_of_toOption clean
    have read : medium.sectors (([2, 3] : List UInt32).flatMap Volume.small.addresses) =
        ([.ofList 512 (bytes.take 512), .ofList 512 (bytes.drop 512)], .ok ()) := rfl
    have first : (Bytes.ofList 512 (bytes.take 512)).toList = bytes.take 512 ++ [] := by
      rw [Bytes.toList_ofList (by rw [List.length_take]; omega), List.length_take, length]
      rfl
    have second : (Bytes.ofList 512 (bytes.drop 512)).toList = bytes.drop 512 ++ rest := by
      rw [Bytes.toList_ofList (by rw [List.length_drop]; omega), List.length_drop, length]
    rw [contents_eq clusters ends read, List.flatMap_cons, List.flatMap_singleton, first, second,
      List.append_nil, ← List.append_assoc, List.take_append_drop]
  exact ⟨wellFormed, ended, laid, stream_image wellFormed ended laid⟩

end Directory

end Fat32
