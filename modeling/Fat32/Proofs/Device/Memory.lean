import Fat32.Device.Memory
import Fat32.Proofs.Device.Rows
import Mathlib.Algebra.Order.Floor.Div

/-!
A disk held in memory. Its sectors are those of the image it was made of, and its counts tell the
reads that succeeded from those that failed. A single read keeps both (`Sound.read`), so every scan
does, and with it every run of requests.
-/

namespace Fat32

namespace MemoryDisk

/-- The answer that an image calls for: its sector of that number, filled up with zeros, or an error
where the image has none. -/
def Answers (bytes : Array UInt8) (lba : UInt32) : Except DeviceError Sector → Prop
  | .ok sector => lba.toNat < bytes.size ⌈/⌉ sectorSize ∧
      ∀ (place : Nat) (_ : place < sectorSize),
        sector[place] = bytes.getD (lba.toNat * sectorSize + place) 0
  | .error cause => bytes.size ⌈/⌉ sectorSize ≤ lba.toNat ∧ cause = .invalidAddress

theorem size_ofBytes (bytes : Array UInt8) :
    (ofBytes bytes).image.size = (bytes.size ⌈/⌉ sectorSize) * sectorSize := by
  rw [Nat.ceilDiv_eq_add_pred_div]
  unfold ofBytes sectorSize
  dsimp only
  split
  · omega
  · rw [Array.size_rightpad]
    omega

theorem getD_ofBytes (bytes : Array UInt8) (place : Nat) :
    (ofBytes bytes).image.getD place 0 = bytes.getD place 0 := by
  unfold ofBytes
  dsimp only
  split
  · rfl
  · simp only [Array.rightpad, Array.getD_eq_getD_getElem?, Array.getElem?_append]
    split
    · rfl
    · rename_i behind
      rw [Array.getElem?_eq_none (Nat.le_of_not_lt behind), Array.getElem?_replicate]
      split <;> rfl

theorem sectorFrom?_eq_some {disk : MemoryDisk} {start : Nat} {sector : Sector}
    (found : disk.sectorFrom? start = some sector) {place : Nat} (within : place < sectorSize) :
    sector[place] = disk.image.getD (start + place) 0 := by
  unfold sectorFrom? at found
  split at found
  · rename_i inside
    cases found
    have here : start + place < disk.image.size :=
      Nat.lt_of_lt_of_le (Nat.add_lt_add_left within start) inside
    rw [Vector.getElem_mk, Array.getElem_extract, Array.getD_eq_getD_getElem?,
      Array.getElem?_eq_getElem here, Option.getD_some]
  · cases found

theorem isSome_sectorFrom?_iff {disk : MemoryDisk} {bytes : Array UInt8}
    (contents : disk.image = (ofBytes bytes).image) (lba : Nat) :
    (disk.sectorFrom? (lba * sectorSize)).isSome = true ↔ lba < bytes.size ⌈/⌉ sectorSize := by
  have whole := contents ▸ size_ofBytes bytes
  unfold sectorSize at whole
  unfold sectorFrom? sectorSize
  split
  · rename_i inside
    simp only [Option.isSome_some, true_iff]
    omega
  · rename_i outside
    simp only [Option.isSome_none, Bool.false_eq_true, false_iff]
    omega

theorem answers_readSector {bytes : Array UInt8} {disk : MemoryDisk}
    (contents : disk.image = (ofBytes bytes).image) (lba : UInt32) :
    Answers bytes lba (Device.readSector disk lba).answer := by
  have inside := isSome_sectorFrom?_iff contents lba.toNat
  cases found : disk.sectorFrom? (lba.toNat * sectorSize) with
  | none =>
    have refused : (Device.readSector disk lba).answer = .error .invalidAddress := by
      simp [Device.readSector, found]
    rw [refused]
    rw [found] at inside
    exact ⟨Nat.le_of_not_lt fun before => Bool.noConfusion (inside.mpr before), rfl⟩
  | some sector =>
    have read : (Device.readSector disk lba).answer = .ok sector := by
      simp [Device.readSector, found]
    rw [read]
    rw [found] at inside
    refine ⟨inside.mp rfl, fun place within => ?_⟩
    rw [sectorFrom?_eq_some found within, contents, getD_ofBytes]

theorem device_readSector (disk : MemoryDisk) (lba : UInt32) :
    (Device.readSector disk lba).device =
      { disk with counts := disk.counts.tally (Device.readSector disk lba).answer } := by
  simp only [Device.readSector]
  split <;> rfl

/-- A disk, and what was asked of it since its counts were last set to zero. -/
structure Metered where
  disk : MemoryDisk
  made : List Exchange

inductive Request where
  | readSector (lba : UInt32)
  | readSectors (lba : UInt32) (buffers : List Sector)
  | resetCounts

namespace Metered

variable {α : Type}

def perform (metered : Metered) (scan : Scan Empty α) : Metered where
  disk := (scan.runOn metered.disk #[]).device
  made := metered.made ++ scan.exchanges metered.disk

def serve (metered : Metered) : Request → Metered
  | .readSector lba => metered.perform (Scan.sector lba)
  | .readSectors lba buffers => metered.perform (Scan.fillSectors lba.toNat buffers)
  | .resetCounts => ⟨metered.disk.resetCounts, []⟩

def ofRequests (bytes : Array UInt8) (requests : List Request) : Metered :=
  requests.foldl serve ⟨.ofBytes bytes, []⟩

/-- The reads among the exchanges that succeeded, and those that failed. -/
def counted (made : List Exchange) : ReadCounts where
  succeeded := .ofNat (made.countP (·.2.isOk))
  failed := .ofNat (made.countP (!·.2.isOk))

theorem counted_concat (made : List Exchange) (lba : UInt32)
    (answer : Except DeviceError Sector) :
    counted (made ++ [(lba, answer)]) = (counted made).tally answer := by
  cases answer <;> simp [counted, ReadCounts.tally, Except.isOk, Except.toBool, UInt64.ofNat_add]

/-- The disk shows the image and has counted what was asked of it. -/
structure Sound (bytes : Array UInt8) (metered : Metered) : Prop where
  contents : metered.disk.image = (ofBytes bytes).image
  answered : ∀ exchange ∈ metered.made, Answers bytes exchange.1 exchange.2
  counts_eq : metered.disk.counts = counted metered.made

namespace Sound

variable {bytes : Array UInt8} {metered : Metered}

theorem read (sound : metered.Sound bytes) (lba : UInt32) :
    let reply := Device.readSector metered.disk lba
    Sound bytes ⟨reply.device, metered.made ++ [(lba, reply.answer)]⟩ := by
  intro reply
  have kept : reply.device = _ := device_readSector metered.disk lba
  refine ⟨?_, ?_, ?_⟩
  · rw [kept]
    exact sound.contents
  · intro exchange member
    rcases List.mem_append.mp member with earlier | now
    · exact sound.answered exchange earlier
    · rw [List.mem_singleton.mp now]
      exact answers_readSector sound.contents lba
  · rw [kept, counted_concat, ← sound.counts_eq]

theorem perform (sound : metered.Sound bytes) (scan : Scan Empty α)
    (diagnostics : Array Diagnostic) :
    Sound bytes ⟨(scan.runOn metered.disk diagnostics).device,
      metered.made ++ scan.exchanges metered.disk⟩ := by
  induction scan generalizing metered diagnostics with
  | done value =>
    rw [Scan.exchanges, List.append_nil]
    exact sound
  | item value => exact value.elim
  | read lba next ih =>
    let reply := Device.readSector metered.disk lba
    have rest := ih reply.answer (sound.read lba) (diagnostics.appendList reply.diagnostics)
    rw [List.append_assoc] at rest
    exact rest
  | report diagnostic rest ih => exact ih sound _

theorem serve (sound : metered.Sound bytes) (request : Request) :
    (metered.serve request).Sound bytes := by
  cases request with
  | readSector lba => exact sound.perform _ _
  | readSectors lba buffers => exact sound.perform _ _
  | resetCounts => exact ⟨sound.contents, List.forall_mem_nil _, rfl⟩

theorem foldl (sound : metered.Sound bytes) (requests : List Request) :
    (requests.foldl Metered.serve metered).Sound bytes := by
  induction requests generalizing metered with
  | nil => exact sound
  | cons request rest ih => exact ih (sound.serve request)

end Sound

theorem sound_ofRequests (bytes : Array UInt8) (requests : List Request) :
    (ofRequests bytes requests).Sound bytes :=
  Sound.foldl ⟨rfl, List.forall_mem_nil _, rfl⟩ requests

end Metered

end MemoryDisk

/-- On every device, a read of sectors in a row fills the buffers up to the first fault, leaves the
others as they were, ends with that fault and asks for no sector behind it. A disk in memory answers
every read of every run of requests as its image calls for, and its counts are those of the reads
that succeeded and failed since they were last set to zero. -/
theorem rows_stop_at_faults_and_disks_count_reads :
    (∀ (δ : Type) [Device δ] (device : δ) (lba : UInt32) (buffers : List Sector)
        (diagnostics : Array Diagnostic),
      let scan : Scan Empty _ := Scan.fillSectors lba.toNat buffers
      ∃ loaded asked result,
        (scan.runOn device diagnostics).value =
          (loaded ++ buffers.drop loaded.length, result) ∧
        scan.exchanges device = Device.row device lba.toNat asked ∧
        Device.Loads device lba.toNat loaded ∧
        Device.Ends device lba.toNat buffers.length loaded.length asked result) ∧
    ∀ (bytes : Array UInt8) (requests : List MemoryDisk.Request),
      let metered := MemoryDisk.Metered.ofRequests bytes requests
      (∀ lba, MemoryDisk.Answers bytes lba (Device.readSector metered.disk lba).answer) ∧
      (∀ exchange ∈ metered.made, MemoryDisk.Answers bytes exchange.1 exchange.2) ∧
      metered.disk.counts.succeeded = .ofNat (metered.made.countP (·.2.isOk)) ∧
      metered.disk.counts.failed = .ofNat (metered.made.countP (!·.2.isOk)) ∧
      (metered.made.length < 2 ^ 64 →
        metered.disk.counts.succeeded.toNat = metered.made.countP (·.2.isOk) ∧
        metered.disk.counts.failed.toNat = metered.made.countP (!·.2.isOk)) := by
  constructor
  · intro δ _ device lba buffers diagnostics
    exact Scan.fillSectors_runOn device lba.toNat buffers diagnostics
  · intro bytes requests metered
    have sound : metered.Sound bytes := MemoryDisk.Metered.sound_ofRequests bytes requests
    have counts := sound.counts_eq
    refine ⟨MemoryDisk.answers_readSector sound.contents, sound.answered, ?_⟩
    rw [counts]
    refine ⟨rfl, rfl, fun few => ⟨?_, ?_⟩⟩ <;>
      exact UInt64.toNat_ofNat_of_lt' (Nat.lt_of_le_of_lt List.countP_le_length few)

/-- Three sectors from the second one of a disk that has two. -/
theorem rows_stop_at_faults_and_disks_count_reads_small :
    let bytes : Array UInt8 := .replicate 1024 9
    let buffers : List Sector := List.replicate 3 (Vector.replicate 512 7)
    let outcome :=
      (Scan.fillSectors 1 buffers : Scan Empty _).runOn (MemoryDisk.ofBytes bytes) #[]
    let metered := MemoryDisk.Metered.ofRequests bytes [.readSectors 1 buffers]
    outcome.value.1.map (fun sector => sector[0]) = [9, 7, 7] ∧
      outcome.value.2 = .error .invalidAddress ∧
      metered.disk.counts = ⟨1, 1⟩ ∧
      metered.made.length < 2 ^ 64 ∧
      metered.disk.counts.succeeded.toNat = metered.made.countP (·.2.isOk) ∧
      metered.disk.counts.failed.toNat = metered.made.countP (!·.2.isOk) := by
  intro bytes buffers outcome metered
  have loaded : outcome.value.1.map (fun sector => sector[0]) = [9, 7, 7] := by decide +kernel
  have failed : outcome.value.2 = .error .invalidAddress := by decide +kernel
  have counts : metered.disk.counts = ⟨1, 1⟩ := by decide +kernel
  have few : metered.made.length < 2 ^ 64 := by decide +kernel
  refine ⟨loaded, failed, counts, few, ?_⟩
  -- The contents are not needed any more, and evaluating them is slow.
  clear loaded failed counts
  clear_value buffers bytes
  obtain ⟨-, -, -, -, counted⟩ :=
    rows_stop_at_faults_and_disks_count_reads.2 bytes [.readSectors 1 buffers]
  exact counted few

end Fat32
