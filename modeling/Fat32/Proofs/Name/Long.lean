import Fat32.Name.Long
import Fat32.Proofs.Text

/-!
Long names as sequences of units of any length. What a `LongName` remembers is
enough to know the whole sequence as long as it fits (`Holds`), and the limit
on the bytes of a name is never reached, since no unit takes more than three.
-/

namespace Fat32

namespace Text.Utf16

theorem utf8Size_single_le (unit : UInt16) : (single unit).utf8Size ≤ 3 := by
  unfold single
  split
  · decide
  · have below := unit.toNat_lt
    have notFour : (Char.ofNat unit.toNat).utf8Size ≠ 4 := by
      rw [Ne, Char.utf8Size_eq_four_iff, UInt32.lt_iff_toNat_lt]
      by_cases valid : unit.toNat.isValidChar
      · have named : Char.ofNat unit.toNat = Char.ofNatAux unit.toNat valid := dif_pos valid
        rw [named]
        change ¬ 0xFFFF < unit.toNat
        omega
      · have unnamed : Char.ofNat unit.toNat = '\x00' := dif_neg valid
        rw [unnamed]
        decide
    have atMost := Char.utf8Size_le_four (Char.ofNat unit.toNat)
    omega

theorem utf8Size_decode_le (units : List UInt16) : utf8Size (decode units) ≤ 3 * units.length := by
  induction units using decode.induct with
  | case1 => exact Nat.le_refl 0
  | case2 unit => exact utf8Size_single_le unit
  | case3 unit following rest paired ih =>
    have atMost := Char.utf8Size_le_four (pair unit following)
    rw [decode, if_pos paired, utf8Size, List.length_cons, List.length_cons]
    omega
  | case4 unit following rest unpaired ih =>
    have atMost := utf8Size_single_le unit
    rw [decode, if_neg unpaired, utf8Size, List.length_cons]
    omega

end Text.Utf16

namespace LongName

/-- The name that some units spell, unless there are none or too many. -/
def spelled (units : List UInt16) : Option String :=
  if units.length = 0 ∨ maxUnits < units.length then none
  else some (Text.fold (String.ofList (Text.Utf16.decode units)))

/-- A gathered name that was given these units, the last ones first. -/
structure Holds (name : LongName) (units : List UInt16) : Prop where
  overflowed_iff : name.overflowed = true ↔ maxUnits < units.length
  units_eq : units.length ≤ maxUnits → name.units = units

theorem Holds.overflowed_eq_false {name : LongName} {units : List UInt16}
    (holds : name.Holds units) (fits : units.length ≤ maxUnits) : name.overflowed = false := by
  rw [Bool.eq_false_iff, Ne, holds.overflowed_iff]
  omega

theorem holds_empty : empty.Holds [] where
  overflowed_iff := by decide
  units_eq := fun _ => List.drop_eq_nil_of_le (Nat.le_of_eq Vector.length_toList)

theorem holds_clear (name : LongName) : name.clear.Holds [] where
  overflowed_iff := by simp [clear]
  units_eq := fun _ => List.drop_eq_nil_of_le (Nat.le_of_eq Vector.length_toList)

theorem length_units (name : LongName) : name.units.length = maxUnits - name.start := by
  rw [units, List.length_drop, Vector.length_toList]

theorem toList_copyInto (buffer : Vector UInt16 maxUnits) {place : Nat} {units : List UInt16}
    (fits : place + units.length ≤ maxUnits) :
    (copyInto buffer place units).toList =
      buffer.toList.take place ++ units ++ buffer.toList.drop (place + units.length) := by
  induction units generalizing buffer place with
  | nil => simp [copyInto]
  | cons unit rest ih =>
    rw [List.length_cons] at fits
    have inside : place < buffer.toList.length := by
      rw [Vector.length_toList]
      omega
    have written : (buffer.setIfInBounds place unit).toList =
        buffer.toList.take place ++ [unit] ++ buffer.toList.drop (place + 1) := by
      rw [Vector.toList_setIfInBounds, List.set_eq_take_append_cons_drop, if_pos inside]
      simp
    have front : (buffer.toList.take place ++ [unit]).length = place + 1 := by
      rw [List.length_append, List.length_take_of_le (Nat.le_of_lt inside),
        List.length_singleton]
    have behind : place + 1 + rest.length = place + (rest.length + 1) := by omega
    rw [copyInto, ih _ (by omega), written, List.take_left' front, ← List.drop_drop,
      List.drop_left' front, List.drop_drop, behind]
    simp

theorem overflowed_prepend (name : LongName) (more : List UInt16) :
    (name.prepend more).overflowed = true ↔
      name.overflowed = true ∨ name.start < more.length := by
  unfold LongName.prepend
  split <;> simp_all

theorem units_prepend {name : LongName} {more : List UInt16}
    (kept : (name.prepend more).overflowed ≠ true) :
    (name.prepend more).units = more ++ name.units := by
  rw [Ne, overflowed_prepend, not_or] at kept
  obtain ⟨held, fits⟩ := kept
  have inside := name.start_le
  have back : name.start - more.length + more.length = name.start := by omega
  have front : (name.buffer.toList.take (name.start - more.length)).length =
      name.start - more.length := by
    rw [List.length_take_of_le]
    rw [Vector.length_toList]
    omega
  rw [prepend, if_neg (by simp [held, fits]), units, toList_copyInto _ (by omega), back,
    List.append_assoc, List.drop_left' front, units]

theorem Holds.prepend {name : LongName} {units : List UInt16} (holds : name.Holds units)
    (more : List UInt16) : (name.prepend more).Holds (more ++ units) := by
  have total : (more ++ units).length = more.length + units.length := List.length_append
  have overflowed_iff : (name.prepend more).overflowed = true ↔
      maxUnits < (more ++ units).length := by
    rw [overflowed_prepend, holds.overflowed_iff, total]
    by_cases lost : maxUnits < units.length
    · omega
    · -- The units that were given fill the buffer behind `start`.
      have visible := name.length_units
      have inside := name.start_le
      rw [holds.units_eq (by omega)] at visible
      omega
  refine ⟨overflowed_iff, fun fits => ?_⟩
  have kept : (name.prepend more).overflowed ≠ true := by
    rw [Ne, overflowed_iff]
    omega
  rw [units_prepend kept, holds.units_eq (by omega)]

theorem Holds.toName?_eq {name : LongName} {units : List UInt16} (holds : name.Holds units) :
    name.toName? = spelled units := by
  unfold toName? spelled
  by_cases lost : maxUnits < units.length
  · have long : units.length = 0 ∨ maxUnits < units.length := .inr lost
    rw [holds.overflowed_iff.mpr lost, if_pos long]
    rfl
  · have held := holds.overflowed_eq_false (by omega)
    rw [held, holds.units_eq (by omega)]
    by_cases none : units = []
    · rw [none]
      rfl
    · have nonempty : units.length ≠ 0 := fun zero => none (List.length_eq_zero_iff.mp zero)
      have fits : (Text.fold (String.ofList (Text.Utf16.decode units))).utf8ByteSize ≤
          maxBytes := by
        have size := Text.Utf16.utf8Size_decode_le units
        rw [Text.utf8ByteSize_fold, Text.utf8ByteSize_ofList]
        unfold maxBytes
        omega
      have short : ¬ (units.length = 0 ∨ maxUnits < units.length) := by omega
      rw [if_neg (by simpa using none), if_neg short]
      exact if_pos fits

end LongName

end Fat32
