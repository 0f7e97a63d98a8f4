import Mathlib.Algebra.GroupWithZero.Nat
import Fat32.Proofs.Name.Long
import Fat32.Proofs.Text.Utf16

/-!
Long names gathered part by part, and given up between two entries. Only the
parts since the name was last given up count (`sinceClear`). While these are not
too long together they are the name, the last part first, and from then on there
is none, however little follows (`gathered_since_clear`).
-/

namespace Fat32.LongName

/-- What is done to a name. -/
inductive Gathering where
  | prepend (units : List UInt16)
  | clear
  deriving DecidableEq, Repr

namespace Gathering

def apply (name : LongName) : Gathering → LongName
  | prepend units => name.prepend units
  | clear => name.clear

/-- The name behind some steps on a new one. -/
def run (steps : List Gathering) : LongName := steps.foldl apply empty

def keep (parts : List (List UInt16)) : Gathering → List (List UInt16)
  | prepend units => units :: parts
  | clear => []

/-- The parts that were prepended since the name was last cleared, the last one first. -/
def sinceClear (steps : List Gathering) : List (List UInt16) := steps.foldl keep []

end Gathering

variable {name : LongName}

theorem Holds.isEmpty_iff {units : List UInt16} (holds : name.Holds units) :
    name.isEmpty = true ↔ units = [] := by
  unfold isEmpty
  by_cases lost : maxUnits < units.length
  · rw [holds.overflowed_iff.mpr lost]
    have nonempty : units ≠ [] := List.ne_nil_of_length_pos (Nat.zero_lt_of_lt lost)
    simp [nonempty]
  · have visible := name.length_units
    rw [holds.units_eq (by omega)] at visible
    have atEnd : name.start = maxUnits ↔ units.length = 0 := by
      have inside := name.start_le
      omega
    rw [holds.overflowed_eq_false (by omega), Bool.not_false, Bool.and_true, beq_iff_eq, atEnd,
      List.length_eq_zero_iff]

theorem Holds.apply {parts : List (List UInt16)} (holds : name.Holds parts.flatten)
    (step : Gathering) : (step.apply name).Holds (step.keep parts).flatten := by
  cases step with
  | prepend units => exact holds.prepend units
  | clear => exact name.holds_clear

theorem Holds.foldl {parts : List (List UInt16)} (holds : name.Holds parts.flatten)
    (steps : List Gathering) :
    (steps.foldl Gathering.apply name).Holds (steps.foldl Gathering.keep parts).flatten := by
  induction steps generalizing name parts with
  | nil => exact holds
  | cons step rest ih => exact ih (holds.apply step)

theorem holds_run (steps : List Gathering) :
    (Gathering.run steps).Holds (Gathering.sinceClear steps).flatten :=
  holds_empty.foldl steps

theorem spelled_of_fits {units : List UInt16} (nonempty : units ≠ []) (fits : units.length ≤ maxUnits) :
    ∃ chars, Text.Utf16.Decodes units chars ∧
      spelled units = some (.ofList (chars.map Char.toLower)) ∧
      (String.ofList (chars.map Char.toLower)).utf8ByteSize ≤ maxBytes := by
  refine ⟨Text.Utf16.decode units, Text.Utf16.decodes_decode units, ?_, ?_⟩
  · have positive := List.length_pos_iff.mpr nonempty
    rw [spelled, if_neg (by omega), Text.fold_ofList]
  · have size := Text.Utf16.utf8Size_decode_le units
    rw [Text.utf8ByteSize_ofList, Text.utf8Size_map_toLower]
    unfold maxBytes
    omega

/-- However a name is gathered and cleared, the parts since the last clear decide about it. If they
have 255 units at most, these are the name's, the last part in front, and the name is what they
stand for in small letters, which fits into 765 bytes. If they have more, there is no name, and it
is not taken for an empty one. -/
theorem gathered_since_clear (steps : List Gathering) :
    let name := Gathering.run steps
    let parts := Gathering.sinceClear steps
    ((parts.map List.length).sum ≤ 255 →
      name.units = parts.flatten ∧
      (name.toName? = none ↔ parts.flatten = []) ∧
      (parts.flatten ≠ [] → ∃ chars, Text.Utf16.Decodes parts.flatten chars ∧
        name.toName? = some (.ofList (chars.map Char.toLower)) ∧
        (String.ofList (chars.map Char.toLower)).utf8ByteSize ≤ 765)) ∧
    (255 < (parts.map List.length).sum → name.toName? = none ∧ name.isEmpty = false) ∧
    (name.isEmpty = true ↔ ∀ part ∈ parts, part = []) := by
  intro name parts
  have holds : name.Holds parts.flatten := holds_run steps
  rw [← List.length_flatten]
  refine ⟨fun fits => ?_, fun lost => ?_, ?_⟩
  · rw [holds.toName?_eq]
    refine ⟨holds.units_eq fits, ⟨fun none => ?_, fun empty => ?_⟩, fun nonempty => ?_⟩
    · by_contra nonempty
      obtain ⟨chars, -, spells, -⟩ := spelled_of_fits nonempty fits
      rw [spells] at none
      cases none
    · rw [empty]
      rfl
    · exact spelled_of_fits nonempty fits
  · have nonempty : parts.flatten ≠ [] := List.ne_nil_of_length_pos (Nat.zero_lt_of_lt lost)
    constructor
    · rw [holds.toName?_eq, spelled, if_pos (.inr lost)]
    · rw [Bool.eq_false_iff, Ne, holds.isEmpty_iff]
      exact nonempty
  · rw [holds.isEmpty_iff, List.flatten_eq_nil_iff]

/-- A name of 300 units is lost, and nothing brings it back. Cleared and gathered anew in two parts,
it has a pair, half a pair and a capital letter. -/
theorem gathered_since_clear_anew :
    let lost : List Gathering :=
      [.prepend (.replicate 200 0x61), .prepend (.replicate 100 0x61), .prepend []]
    let anew : List Gathering :=
      lost ++ [.clear, .prepend [0x42], .prepend [0xD83D, 0xDE00, 0xD800]]
    255 < ((Gathering.sinceClear lost).map List.length).sum ∧
      (Gathering.run lost).toName? = none ∧ (Gathering.run lost).isEmpty = false ∧
      ((Gathering.sinceClear anew).map List.length).sum ≤ 255 ∧
      (Gathering.run anew).units = [0xD83D, 0xDE00, 0xD800, 0x42] ∧
      (Gathering.run anew).toName? = some "😀\uFFFDb" := by
  intro lost anew
  obtain ⟨-, noName, -⟩ := gathered_since_clear lost
  obtain ⟨named, -, -⟩ := gathered_since_clear anew
  have tooLong : 255 < ((Gathering.sinceClear lost).map List.length).sum := by decide
  have fits : ((Gathering.sinceClear anew).map List.length).sum ≤ 255 := by decide
  have parts : (Gathering.sinceClear anew).flatten = [0xD83D, 0xDE00, 0xD800, 0x42] := by decide
  obtain ⟨units, -, spelled⟩ := named fits
  rw [parts] at units spelled
  obtain ⟨chars, decodes, name, -⟩ := spelled (List.cons_ne_nil _ _)
  have decoded : chars = ['😀', '\uFFFD', 'B'] := Text.Utf16.decodes_iff.mp decodes
  rw [decoded] at name
  exact ⟨tooLong, (noName tooLong).1, (noName tooLong).2, fits, units, name⟩

end Fat32.LongName
