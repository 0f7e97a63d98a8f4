import Fat32.Directory.Listing
import Fat32.Proofs.Text

/-!
Short names as they are shown. A name has up to twelve characters, but the room
for it is twelve bytes of UTF-8, and the characters outside ASCII take two. The
characters go in one after the other (`fitting`), so a name that takes more
bytes than that is cut where the room ends.
-/

namespace Fat32

namespace Text

/-- The characters that go into `room` bytes. One that does not fit any more is left out. -/
def fitting : Nat → List Char → List Char
  | _, [] => []
  | room, c :: rest =>
    if c.utf8Size ≤ room then c :: fitting (room - c.utf8Size) rest else fitting room rest

theorem foldl_pushWithin (limit : Nat) (text : String) (chars : List Char) :
    chars.foldl (pushWithin limit) text =
      text ++ .ofList (fitting (limit - text.utf8ByteSize) chars) := by
  induction chars generalizing text with
  | nil => exact String.append_empty.symm
  | cons c rest ih =>
    have some := Char.utf8Size_pos c
    rw [List.foldl_cons, pushWithin, fitting]
    by_cases fits : text.utf8ByteSize + c.utf8Size ≤ limit
    · have room : c.utf8Size ≤ limit - text.utf8ByteSize := by omega
      have left : limit - (text.push c).utf8ByteSize = limit - text.utf8ByteSize - c.utf8Size := by
        rw [String.utf8ByteSize_push]
        omega
      rw [if_pos fits, if_pos room, ih, left]
      rw [← String.toList_inj]
      simp
    · have full : ¬ c.utf8Size ≤ limit - text.utf8ByteSize := by omega
      rw [if_neg fits, if_neg full, ih]

theorem utf8Size_fitting_le (room : Nat) (chars : List Char) :
    utf8Size (fitting room chars) ≤ room := by
  induction chars generalizing room with
  | nil => exact Nat.zero_le _
  | cons c rest ih =>
    rw [fitting]
    split
    · rename_i fits
      have others := ih (room - c.utf8Size)
      rw [utf8Size]
      omega
    · exact ih room

theorem fitting_of_le {room : Nat} {chars : List Char} (fits : utf8Size chars ≤ room) :
    fitting room chars = chars := by
  induction chars generalizing room with
  | nil => rfl
  | cons c rest ih =>
    rw [utf8Size] at fits
    rw [fitting, if_pos (by omega), ih (by omega)]

/-- The last byte goes to the first character that takes no more. -/
theorem fitting_of_le_one {room : Nat} (last : room ≤ 1) (chars : List Char) :
    fitting room chars = (chars.filter (·.utf8Size = 1)).take room := by
  induction chars generalizing room with
  | nil => simp [fitting]
  | cons c rest ih =>
    have some := Char.utf8Size_pos c
    rw [fitting]
    by_cases fits : c.utf8Size ≤ room
    · have narrow : c.utf8Size = 1 := by omega
      obtain rfl : room = 1 := by omega
      rw [if_pos fits, ih (by omega), List.filter_cons_of_pos (by simpa using narrow), narrow]
      rfl
    · rw [if_neg fits, ih last]
      by_cases narrow : c.utf8Size = 1
      · obtain rfl : room = 0 := by omega
        rfl
      · rw [List.filter_cons_of_neg (by simpa using narrow)]

/-- Characters of two bytes at most go in up to the first one that does not fit, and where that
leaves a byte of room, one more goes in from behind it. -/
theorem exists_fitting_eq {chars : List Char} (small : ∀ c ∈ chars, c.utf8Size ≤ 2) (room : Nat) :
    ∃ front behind, chars = front ++ behind ∧ utf8Size front ≤ room ∧
      (behind = [] ∨ room < utf8Size (front ++ behind.take 1)) ∧
      fitting room chars =
        front ++ (behind.filter (·.utf8Size = 1)).take (room - utf8Size front) := by
  induction chars generalizing room with
  | nil => exact ⟨[], [], rfl, Nat.zero_le _, .inl rfl, by simp [fitting]⟩
  | cons c rest ih =>
    by_cases fits : c.utf8Size ≤ room
    · obtain ⟨front, behind, rfl, within, full, goesIn⟩ :=
        ih (fun other member => small other (List.mem_cons_of_mem _ member)) (room - c.utf8Size)
      refine ⟨c :: front, behind, rfl, ?_, full.imp_right fun beyond => ?_, ?_⟩
      · rw [utf8Size]
        omega
      · rw [List.cons_append, utf8Size]
        omega
      · rw [fitting, if_pos fits, goesIn, utf8Size, Nat.sub_sub, List.cons_append]
    · have atMost := small c List.mem_cons_self
      refine ⟨[], c :: rest, rfl, Nat.zero_le _, .inr (Nat.lt_of_not_le fits), ?_⟩
      exact fitting_of_le_one (by omega) _

theorem utf8Size_latin1 (byte : UInt8) :
    (latin1 byte).utf8Size = if 0x80 ≤ byte then 2 else 1 := by
  have sizes : ∀ n < 256, (Char.ofNat n).utf8Size = if 0x80 ≤ n then 2 else 1 := by decide +kernel
  simp only [UInt8.le_iff_toNat_le]
  exact sizes byte.toNat byte.toNat_lt

end Text

namespace ShortName

theorem display_eq_fitting (name : ShortName) :
    name.display = .ofList (Text.fitting displayLimit name.shown) := by
  unfold display
  rw [Text.foldl_pushWithin, String.empty_append]
  rfl

theorem display_eq_of_le {name : ShortName} (fits : Text.utf8Size name.shown ≤ displayLimit) :
    name.display = .ofList name.shown := by
  rw [display_eq_fitting, Text.fitting_of_le fits]

theorem utf8Size_map_letter (bytes : List UInt8) :
    Text.utf8Size (bytes.map fun byte => (Text.latin1 byte).toLower) =
      bytes.length + bytes.countP (0x80 ≤ ·) := by
  induction bytes with
  | nil => rfl
  | cons byte rest ih =>
    rw [List.map_cons, Text.utf8Size, ih, Text.utf8Size_toLower, Text.utf8Size_latin1,
      List.length_cons, List.countP_cons]
    simp only [decide_eq_true_eq]
    split <;> omega

theorem utf8Size_shown (name : ShortName) :
    Text.utf8Size name.shown =
      name.shown.length + (unescape name.base ++ name.extension).countP (0x80 ≤ ·) := by
  unfold shown
  rw [Text.utf8Size_append, utf8Size_map_letter, List.length_append, List.length_map,
    List.countP_append]
  by_cases none : name.extension = []
  · rw [none]
    rfl
  · have dot : Text.utf8Size ('.' :: name.extension.map fun byte => (Text.latin1 byte).toLower) =
      1 + _ := rfl
    rw [if_neg (by simpa using none), dot, utf8Size_map_letter, List.length_cons, List.length_map]
    omega

theorem utf8Size_le_two_of_mem_shown {name : ShortName} :
    ∀ c ∈ name.shown, c.utf8Size ≤ 2 := by
  have letter (byte : UInt8) : (Text.latin1 byte).toLower.utf8Size ≤ 2 := by
    rw [Text.utf8Size_toLower, Text.utf8Size_latin1]
    split <;> omega
  intro c member
  unfold shown at member
  rcases List.mem_append.mp member with inBase | behind
  · obtain ⟨byte, -, rfl⟩ := List.mem_map.mp inBase
    exact letter byte
  · split at behind
    · cases behind
    · rcases List.mem_cons.mp behind with rfl | inExtension
      · decide
      · obtain ⟨byte, -, rfl⟩ := List.mem_map.mp inExtension
        exact letter byte

end ShortName

theorem Entry.name_ofRecord_of_toName? {record : DirRecord} {long : LongName}
    (nameless : long.toName? = none) :
    (ofRecord record long).name = record.shortName.display := by
  unfold ofRecord
  rw [nameless, Option.getD_none]

/-- A short name shows the characters of its base and, behind a dot, those of its extension, as long
as they take twelve bytes of UTF-8, where a character from a byte above 0x7F takes two. The
characters of a longer name are shown up to the first one that does not fit, and when that leaves
one byte, the first character behind it that takes no more is shown as well. This is what an entry
without a long name is listed as. -/
theorem short_names_fill_twelve_bytes (name : ShortName) :
    let letter (byte : UInt8) : Char := (Char.ofNat byte.toNat).toLower
    let base := ShortName.unescape name.base
    let whole := base.map letter ++
      if name.extension = [] then [] else '.' :: name.extension.map letter
    let bytes (chars : List Char) := (String.ofList chars).utf8ByteSize
    bytes whole = whole.length + (base ++ name.extension).countP (0x80 ≤ ·) ∧
    (name.display = .ofList whole ↔ bytes whole ≤ 12) ∧
    (∃ front behind, whole = front ++ behind ∧ bytes front ≤ 12 ∧
      (behind = [] ∨ 12 < bytes (front ++ behind.take 1)) ∧
      name.display = .ofList
        (front ++ (behind.filter (·.utf8Size = 1)).take (12 - bytes front))) ∧
    ∀ (record : DirRecord) (long : LongName), long.toName? = none →
      (Entry.ofRecord record long).name = record.shortName.display := by
  intro letter base whole bytes
  have shows : whole = name.shown := by
    simp only [whole, ShortName.shown, List.isEmpty_iff]
    rfl
  have counted (chars : List Char) : bytes chars = Text.utf8Size chars :=
    Text.utf8ByteSize_ofList chars
  simp only [counted, shows]
  refine ⟨name.utf8Size_shown, ⟨fun complete => ?_, ShortName.display_eq_of_le⟩, ?_,
    fun _ _ => Entry.name_ofRecord_of_toName?⟩
  · rw [ShortName.display_eq_fitting, String.ofList_inj] at complete
    have within := Text.utf8Size_fitting_le ShortName.displayLimit name.shown
    rwa [complete] at within
  · obtain ⟨front, behind, split, within, full, goesIn⟩ :=
      Text.exists_fitting_eq ShortName.utf8Size_le_two_of_mem_shown ShortName.displayLimit
    refine ⟨front, behind, split, within, full, ?_⟩
    rw [ShortName.display_eq_fitting, goesIn]
    rfl

/-- Eleven bytes that are each shown by two take more room than there is, so nothing of the
extension is shown, and of the base only six characters. -/
theorem short_names_lose_characters :
    let name : ShortName := ⟨.replicate 11 0xE9⟩
    let letter (byte : UInt8) : Char := (Char.ofNat byte.toNat).toLower
    name.base = .replicate 8 0xE9 ∧ name.extension = .replicate 3 0xE9 ∧
      name.display = "éééééé" ∧
      name.display ≠ .ofList (name.base.map letter ++ '.' :: name.extension.map letter) := by
  decide +kernel

end Fat32
