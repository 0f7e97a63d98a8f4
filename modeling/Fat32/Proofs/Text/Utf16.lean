import Fat32.Text.Basic

/-!
What UTF-16 code units stand for, in the numbers of the units alone
(`Decodes`). Every list of units stands for one list of characters, and it is
the one that `decode` gives (`decodes_iff`).
-/

namespace Fat32.Text.Utf16

/-- A list of units stands for a list of characters. -/
inductive Decodes : List UInt16 → List Char → Prop
  | nil : Decodes [] []
  /-- No character has the number of a surrogate, so the unit is none. -/
  | plain {unit : UInt16} {rest : List UInt16} {c : Char} {chars : List Char} :
      c.toNat = unit.toNat → Decodes rest chars → Decodes (unit :: rest) (c :: chars)
  /-- A pair holds ten bits in its first half and ten in its second. -/
  | pair {first second : UInt16} {rest : List UInt16} {c : Char} {chars : List Char}
      {high low : Nat} :
      first.toNat = 0xD800 + high → high < 0x400 → second.toNat = 0xDC00 + low → low < 0x400 →
      c.toNat = 0x10000 + high * 0x400 + low → Decodes rest chars →
      Decodes (first :: second :: rest) (c :: chars)
  /-- A surrogate that is not the first half of a pair. -/
  | lone {unit : UInt16} {rest : List UInt16} {chars : List Char} :
      0xD800 ≤ unit.toNat → unit.toNat < 0xE000 →
      (unit.toNat < 0xDC00 → ∀ second ∈ rest.head?, second.toNat < 0xDC00 ∨ 0xE000 ≤ second.toNat) →
      Decodes rest chars → Decodes (unit :: rest) ('\uFFFD' :: chars)

theorem isHigh_iff {unit : UInt16} :
    isHigh unit = true ↔ 0xD800 ≤ unit.toNat ∧ unit.toNat < 0xDC00 := by
  rw [isHigh, Bool.and_eq_true, decide_eq_true_eq, decide_eq_true_eq, UInt16.le_iff_toNat_le,
    UInt16.lt_iff_toNat_lt]
  rfl

theorem isLow_iff {unit : UInt16} :
    isLow unit = true ↔ 0xDC00 ≤ unit.toNat ∧ unit.toNat < 0xE000 := by
  rw [isLow, Bool.and_eq_true, decide_eq_true_eq, decide_eq_true_eq, UInt16.le_iff_toNat_le,
    UInt16.lt_iff_toNat_lt]
  rfl

theorem toNat_ofNat_of_isValidChar {n : Nat} (valid : n.isValidChar) : (Char.ofNat n).toNat = n := by
  have named : Char.ofNat n = Char.ofNatAux n valid := dif_pos valid
  rw [named]
  rfl

theorem toNat_not_surrogate (c : Char) : c.toNat < 0xD800 ∨ 0xE000 ≤ c.toNat := by
  rcases c.valid with low | ⟨high, -⟩
  · exact .inl low
  · exact .inr high

/-- The unit and the one behind it are no pair. -/
def Unpaired (unit : UInt16) (rest : List UInt16) : Prop :=
  isHigh unit = true → ∀ second ∈ rest.head?, ¬ isLow second = true

theorem decode_cons_of_unpaired {unit : UInt16} {rest : List UInt16} (unpaired : Unpaired unit rest) :
    decode (unit :: rest) = single unit :: decode rest := by
  cases rest with
  | nil => rfl
  | cons second rest =>
    refine if_neg fun paired => ?_
    rw [Bool.and_eq_true] at paired
    exact unpaired paired.1 second rfl paired.2

theorem decodes_single_cons {unit : UInt16} {rest : List UInt16} {chars : List Char}
    (unpaired : Unpaired unit rest) (decodes : Decodes rest chars) :
    Decodes (unit :: rest) (single unit :: chars) := by
  unfold single
  split
  · rename_i surrogate
    rw [Bool.or_eq_true, isHigh_iff, isLow_iff] at surrogate
    refine .lone (by omega) (by omega) (fun first second next => ?_) decodes
    have notLow := unpaired (isHigh_iff.mpr (by omega)) second next
    rw [isLow_iff] at notLow
    omega
  · rename_i plain
    rw [Bool.or_eq_true, isHigh_iff, isLow_iff] at plain
    have below := unit.toNat_lt
    refine .plain (toNat_ofNat_of_isValidChar ?_) decodes
    unfold Nat.isValidChar
    omega

theorem decodes_decode (units : List UInt16) : Decodes units (decode units) := by
  induction units using decode.induct with
  | case1 => exact .nil
  | case2 unit => exact decodes_single_cons (fun _ _ none => by cases none) .nil
  | case3 unit following rest paired ih =>
    rw [decode, if_pos paired]
    rw [Bool.and_eq_true, isHigh_iff, isLow_iff] at paired
    obtain ⟨⟨highLow, highHigh⟩, lowLow, lowHigh⟩ := paired
    obtain ⟨high, first⟩ := Nat.exists_eq_add_of_le highLow
    obtain ⟨low, second⟩ := Nat.exists_eq_add_of_le lowLow
    refine .pair first (by omega) second (by omega) ?_ ih
    rw [pair, first, second, Nat.add_sub_cancel_left, Nat.add_sub_cancel_left]
    apply toNat_ofNat_of_isValidChar
    unfold Nat.isValidChar
    omega
  | case4 unit following rest unpaired ih =>
    have apart : Unpaired unit (following :: rest) := by
      intro high second next low
      cases next
      exact unpaired (Bool.and_eq_true _ _ ▸ ⟨high, low⟩)
    rw [decode_cons_of_unpaired apart]
    exact decodes_single_cons apart ih

theorem eq_decode_of_decodes {units : List UInt16} {chars : List Char}
    (decodes : Decodes units chars) : chars = decode units := by
  induction decodes with
  | nil => rfl
  | @plain unit rest c chars named decodes ih =>
    have apart := toNat_not_surrogate c
    have notHigh : ¬ isHigh unit = true := by rw [isHigh_iff]; omega
    have notLow : ¬ isLow unit = true := by rw [isLow_iff]; omega
    have same : single unit = c := by
      rw [single, if_neg (by simp [notHigh, notLow]), ← named, Char.ofNat_toNat]
    rw [decode_cons_of_unpaired fun high => absurd high notHigh, same, ih]
  | @pair first second rest c chars high low highHalf highBound lowHalf lowBound named decodes ih =>
    have isPair : (isHigh first && isLow second) = true := by
      rw [Bool.and_eq_true, isHigh_iff, isLow_iff]
      omega
    have same : pair first second = c := by
      rw [pair, highHalf, lowHalf, Nat.add_sub_cancel_left, Nat.add_sub_cancel_left, ← named,
        Char.ofNat_toNat]
    rw [decode, if_pos isPair, same, ih]
  | @lone unit rest chars atLeast below unpaired decodes ih =>
    have surrogate : (isHigh unit || isLow unit) = true := by
      rw [Bool.or_eq_true, isHigh_iff, isLow_iff]
      omega
    have apart : Unpaired unit rest := by
      intro high second next low
      have notPair := unpaired (isHigh_iff.mp high).2 second next
      rw [isLow_iff] at low
      omega
    rw [decode_cons_of_unpaired apart, single, if_pos surrogate, ih]

/-- A list of units stands for the characters that are decoded from it, and for no others. -/
theorem decodes_iff {units : List UInt16} {chars : List Char} :
    Decodes units chars ↔ chars = decode units :=
  ⟨eq_decode_of_decodes, fun same => same ▸ decodes_decode units⟩

end Fat32.Text.Utf16
