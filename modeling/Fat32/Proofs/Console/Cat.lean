import Mathlib.Data.List.Infix
import Fat32.Proofs.Console
import Fat32.Proofs.Content
import Fat32.Proofs.Handle.History
import Fat32.Proofs.Path.Walks
import Fat32.Proofs.Text.Utf8

/-!
What `cat` shows of a file of text. The bytes are cut first and decoded then, so
a cut between two characters shows the start of the text, and a cut within a
character is no UTF-8 and shows one character for each byte.
-/

namespace Fat32

theorem Filesystem.fileContents_of_fileSize {medium : Medium} {fs : Filesystem} {path : String}
    {size : UInt32} (sized : (fs.fileSize path : Attempt Empty _).run.result medium = .ok size) :
    ∃ entry, entry.size = size ∧ ∀ limit,
      (fs.fileContents path limit).run.result medium =
        (fs.entryContents entry limit).run.result medium ∧
      (fs.fileContents path limit).run.itemsOn medium =
        (fs.entryContents entry limit).run.itemsOn medium := by
  unfold fileSize at sized
  rw [Attempt.result_bind, result_lookupFile] at sized
  unfold fileContents
  simp only [Attempt.result_bind, Attempt.itemsOn_bind, result_lookupFile, itemsOn_lookupFile,
    List.nil_append]
  cases found : fs.lookupFileOn medium path with
  | error error =>
    rw [found] at sized
    cases sized
  | ok entry =>
    rw [found] at sized
    cases sized
    exact ⟨entry, rfl, fun limit => ⟨rfl, rfl⟩⟩

namespace Console

theorem decode_encode (chars : List Char) : decode (Text.encode chars) = .ofList chars := by
  have bytes : (⟨(Text.encode chars).toArray⟩ : ByteArray) = (String.ofList chars).toByteArray := by
    rw [String.toByteArray_ofList, List.utf8Encode]
    exact ByteArray.ext List.data_toByteArray.symm
  unfold decode String.fromUTF8?
  rw [bytes, dif_pos (String.ofList chars).isValidUTF8]
  rfl

theorem decode_of_ne {bytes : List UInt8} (broken : ∀ chars, Text.encode chars ≠ bytes) :
    decode bytes = .ofList (bytes.map Text.latin1) := by
  unfold decode String.fromUTF8?
  rw [dif_neg, Option.getD_none]
  rintro ⟨chars, same⟩
  apply broken chars
  rw [← Text.utf8Encode_eq_encode, ← same]

theorem exists_longestFront (limit : Nat) (text : String) :
    ∃ front, LongestFront limit text front := by
  have written := (Sink.writeChars_ofCapacity limit text.toList).1
  rw [String.ofList_toList] at written
  exact ⟨_, written⟩

namespace LongestFront

variable {limit : Nat} {text front : String} (longest : LongestFront limit text front)

include longest

/-- A cut behind the longest front that fits leaves the bytes of the front. -/
theorem take_encode (whole : front.utf8ByteSize = min limit text.utf8ByteSize) :
    (Text.encode text.toList).take limit = Text.encode front.toList := by
  obtain ⟨rest, split⟩ := longest.front_of
  have total := Text.length_encode_toList text
  have same : (Text.encode text.toList).take limit =
      (Text.encode text.toList).take front.utf8ByteSize := by
    rw [List.take_eq_take_iff]
    omega
  rw [same, ← split, Text.encode_append]
  exact List.take_left' (Text.length_encode_toList front)

/-- A cut further on leaves no text. -/
theorem encode_ne_take (further : front.utf8ByteSize ≠ min limit text.utf8ByteSize)
    (chars : List Char) : Text.encode chars ≠ (Text.encode text.toList).take limit := by
  intro same
  have total := Text.length_encode_toList text
  have size := congrArg List.length same
  rw [List.length_take, Text.length_encode, total] at size
  have begins : chars <+: text.toList := by
    apply Text.prefix_of_encode_prefix
    rw [same]
    exact List.take_prefix limit _
  obtain ⟨rest, split⟩ := longest.longest chars begins (by omega)
  obtain ⟨behind, whole⟩ := longest.front_of
  have atLeast := congrArg Text.utf8Size split
  have atMost := congrArg Text.utf8Size whole
  have fits := longest.fits
  rw [Text.utf8Size_append, ← Text.length_encode front.toList, Text.length_encode_toList] at atLeast
  rw [Text.utf8Size_append, ← Text.length_encode front.toList, ← Text.length_encode text.toList,
    Text.length_encode_toList, Text.length_encode_toList] at atMost
  omega

theorem eq_of_le (fits : text.utf8ByteSize ≤ limit) : front = text := by
  have size : Text.utf8Size text.toList ≤ limit := by
    rwa [← Text.length_encode, Text.length_encode_toList]
  have begins := longest.longest text.toList List.prefix_rfl size
  apply String.toList_inj.mp
  exact longest.front_of.eq_of_length_le begins.length_le

end LongestFront

theorem result_cat {medium : Medium} {fs : Filesystem} {path : String} {limit count : Nat}
    {bytes : List UInt8} (read : (fs.fileContents path limit).run.result medium = .ok count)
    (handed : ((fs.fileContents path limit).run.itemsOn medium).flatten = bytes) :
    ((Command.cat path limit).run fs (.ofCapacity none) : Scan Empty _).result medium =
      (fs, ⟨decode bytes ++ lineEnd bytes, none⟩, true) := by
  have text : (Command.cat path limit).text medium fs = decode bytes ++ lineEnd bytes := by
    rw [Command.text, read, handed]
    rfl
  have taken (text : String) :
      (Sink.ofCapacity none).append text.toList = ⟨text, none⟩ := by
    rw [Sink.append, String.ofList_toList]
    exact congrArg (Sink.mk · none) String.empty_append
  rw [Command.result_run, text, Sink.writeChars_unlimited rfl, taken]
  rfl

/-- What `cat` shows of a file that can be read and holds a text. The file is cut before it is
decoded. A cut between two characters, as any cut behind the file is, shows the longest front of the
text that fits. Any other cut shows a character for each byte, and with that no front of the text,
unless the first character of several bytes is the one that its first byte stands for. -/
theorem cat_shows_front_at_boundary {medium : Medium} {fs : Filesystem} {ledger : Ledger}
    (reachable : Reachable medium fs ledger) {path : String} {size : UInt32}
    (sized : (fs.fileSize path : Attempt Empty _).run.result medium = .ok size) {count : Nat}
    (whole : (fs.fileContents path size.toNat).run.result medium = .ok count) {text : String}
    (stored : ((fs.fileContents path size.toNat).run.itemsOn medium).flatten =
      text.toUTF8.data.toList) (limit : Nat) :
    let bytes := text.toUTF8.data.toList.take limit
    ∃ shown front,
      ((Command.cat path limit).run fs (.ofCapacity none) : Scan Empty _).result medium =
        (fs, ⟨shown ++ lineEnd bytes, none⟩, true) ∧
      LongestFront limit text front ∧
      (front.utf8ByteSize = min limit size.toNat → shown = front) ∧
      (front.utf8ByteSize ≠ min limit size.toNat →
        shown = .ofList (bytes.map Text.latin1) ∧
        ∀ ascii c rest, text.toList = ascii ++ c :: rest →
          (∀ other ∈ ascii, other.utf8Size = 1) → c.utf8Size ≠ 1 → c ≠ 'Ã' →
          ¬ shown.toList <+: text.toList) ∧
      (size.toNat ≤ limit → shown = text) := by
  intro bytes
  have wellFormed := reachable.kept.wellFormed
  obtain ⟨entry, rfl, contents⟩ := Filesystem.fileContents_of_fileSize sized
  rw [(contents _).1] at whole
  rw [(contents _).2] at stored
  have total : text.utf8ByteSize = entry.size.toNat := by
    have handed := Filesystem.handsOut_entryContents medium fs entry entry.size.toNat wellFormed
    dsimp only at handed
    rw [whole] at handed
    have length := handed.length_flatten
    rw [stored, Text.toUTF8_eq_encode, Text.length_encode_toList] at length
    omega
  -- No more than the file is read, so a limit beyond its end is no other than its size.
  obtain ⟨read, handed⟩ := Filesystem.entryContents_of_le medium fs entry entry.size.toNat
    wellFormed (Nat.min_le_left _ limit) whole
  rw [Filesystem.entryContents_min, ← (contents limit).1] at read
  rw [Filesystem.entryContents_min, ← (contents limit).2, stored] at handed
  have cut : text.toUTF8.data.toList.take (min entry.size.toNat limit) = bytes := by
    rw [List.take_eq_take_iff, Text.toUTF8_eq_encode, Text.length_encode_toList]
    omega
  obtain ⟨front, longest⟩ := exists_longestFront limit text
  have encoded : bytes = (Text.encode text.toList).take limit :=
    congrArg _ (Text.toUTF8_eq_encode text)
  have shownFront (boundary : front.utf8ByteSize = min limit entry.size.toNat) :
      decode bytes = front := by
    rw [encoded, longest.take_encode (total ▸ boundary), decode_encode, String.ofList_toList]
  refine ⟨decode bytes, front, result_cat read (handed.trans cut), longest, shownFront, ?_, ?_⟩
  · intro within
    have broken := longest.encode_ne_take (total ▸ within)
    rw [← encoded] at broken
    have shown := decode_of_ne broken
    refine ⟨shown, fun ascii c rest split narrow wide notSelf => ?_⟩
    rw [shown, String.toList_ofList, encoded, split]
    apply Text.not_prefix_latin1 narrow wide notSelf
    rwa [← split, ← encoded]
  · intro all
    have same := longest.eq_of_le (total ▸ all)
    rw [shownFront (by rw [same]; omega), same]

/-- A device with the small volume. The file `a.txt` in its root directory holds the text `aé`. -/
def accentMedium : Medium := fun lba =>
  match lba.toNat with
  | 0 => .ok Volume.smallBoot
  | 1 => .ok (.ofList 512 [0xF8, 0xFF, 0xFF, 0x0F, 0xFF, 0xFF, 0xFF, 0x0F, 0xFF, 0xFF, 0xFF, 0x0F,
      0xFF, 0xFF, 0xFF, 0x0F])
  | 2 => .ok (.ofList 512 [0x41, 0x20, 0x20, 0x20, 0x20, 0x20, 0x20, 0x20, 0x54, 0x58, 0x54, 0x20,
      0, 0, 0, 0, 0, 0, 0, 0, 0, 0, 0, 0, 0, 0, 3, 0, 3])
  | 3 => .ok (.ofList 512 [0x61, 0xC3, 0xA9])
  | _ => .error .readError

def accentVolume : Filesystem := ⟨.small, ⟨2, "/", []⟩, .empty⟩

theorem reachable_accentVolume : Reachable accentMedium accentVolume .empty :=
  .small rfl rfl (by decide)

theorem accentVolume_contents :
    (accentVolume.fileSize "a.txt" : Attempt Empty _).run.result accentMedium = .ok 3 ∧
      (accentVolume.fileContents "a.txt" 3).run.result accentMedium = .ok 3 ∧
      ((accentVolume.fileContents "a.txt" 3).run.itemsOn accentMedium).flatten =
        "aé".toUTF8.data.toList :=
  ⟨eq_ok_of_toOption (by decide +kernel), eq_ok_of_toOption (by decide +kernel),
    by decide +kernel⟩

/-- Three bytes are the whole text, and two are not the start of it. -/
theorem cat_shows_front_at_boundary_accent :
    let fs := accentVolume
    let shows (limit : Nat) (shown : String) : Prop :=
      ((Command.cat "a.txt" limit).run fs (.ofCapacity none) : Scan Empty _).result accentMedium =
        (fs, ⟨shown ++ "\n", none⟩, true)
    Reachable accentMedium fs .empty ∧
      (fs.fileSize "a.txt" : Attempt Empty _).run.result accentMedium = .ok 3 ∧
      (fs.fileContents "a.txt" 3).run.result accentMedium = .ok 3 ∧
      ((fs.fileContents "a.txt" 3).run.itemsOn accentMedium).flatten = "aé".toUTF8.data.toList ∧
      shows 3 "aé" ∧
      ∃ shown, shows 2 shown ∧ ¬ shown.toList <+: "aé".toList := by
  intro fs shows
  obtain ⟨sized, whole, stored⟩ := accentVolume_contents
  refine ⟨reachable_accentVolume, sized, whole, stored, ?_, ?_⟩
  · obtain ⟨shown, -, written, -, -, -, all⟩ :=
      cat_shows_front_at_boundary reachable_accentVolume sized whole stored 3
    rw [all (by decide)] at written
    exact written
  · obtain ⟨shown, front, written, longest, -, broken, -⟩ :=
      cat_shows_front_at_boundary reachable_accentVolume sized whole stored 2
    have fronts : ∀ front ∈ "aé".toList.inits, Text.utf8Size front ≠ 2 := by decide +kernel
    have within := fronts front.toList ((List.mem_inits _ _).mpr longest.front_of)
    rw [← Text.length_encode, Text.length_encode_toList] at within
    have narrow : ∀ other ∈ ['a'], other.utf8Size = 1 := List.forall_mem_singleton.mpr rfl
    exact ⟨shown, written, (broken within).2 ['a'] 'é' [] rfl narrow (by decide) (by decide)⟩

/-- A cut within a character shows more than the start of the text. -/
theorem cat_shows_foreign_characters :
    Reachable accentMedium accentVolume .empty ∧
      (accentVolume.fileSize "a.txt" : Attempt Empty _).run.result accentMedium = .ok 3 ∧
      (accentVolume.fileContents "a.txt" 3).run.result accentMedium = .ok 3 ∧
      ((accentVolume.fileContents "a.txt" 3).run.itemsOn accentMedium).flatten =
        "aé".toUTF8.data.toList ∧
      ((Command.cat "a.txt" 2).run accentVolume (.ofCapacity none) : Scan Empty _).result
        accentMedium = (accentVolume, ⟨"aÃ\n", none⟩, true) ∧
      ¬ "aÃ\n".toList <+: "aé".toList ∧ ¬ "aÃ".toList <+: "aé".toList := by
  have read : (accentVolume.fileContents "a.txt" 2).run.result accentMedium = .ok 2 :=
    eq_ok_of_toOption (by decide +kernel)
  have handed : ((accentVolume.fileContents "a.txt" 2).run.itemsOn accentMedium).flatten =
      [0x61, 0xC3] := by decide +kernel
  have written : decode [0x61, 0xC3] ++ lineEnd [0x61, 0xC3] = "aÃ\n" := by decide +kernel
  obtain ⟨sized, whole, stored⟩ := accentVolume_contents
  have shown := result_cat read handed
  rw [written] at shown
  exact ⟨reachable_accentVolume, sized, whole, stored, shown, by decide, by decide⟩

end Console

end Fat32
