import Fat32.Bytes

/-!
The words of `Fat32.Word` in exact numbers.
-/

namespace Fat32

namespace Word

theorem limit_eq : limit = 0x100000000 := rfl

theorem toNat_add_of_lt {a b : UInt32} (fits : a.toNat + b.toNat < limit) :
    (a + b).toNat = a.toNat + b.toNat := by
  rw [UInt32.toNat_add]
  exact Nat.mod_eq_of_lt fits

theorem toNat_mul_of_lt {a b : UInt32} (fits : a.toNat * b.toNat < limit) :
    (a * b).toNat = a.toNat * b.toNat := by
  rw [UInt32.toNat_mul]
  exact Nat.mod_eq_of_lt fits

theorem toNat_ofNat_of_lt {n : Nat} (fits : n < limit) : (UInt32.ofNat n).toNat = n := by
  rw [UInt32.toNat_ofNat']
  exact Nat.mod_eq_of_lt fits

theorem add_ofNat_succ (lba : UInt32) (index : Nat) :
    lba + .ofNat (index + 1) = lba + 1 + .ofNat index := by
  rw [Nat.add_comm, UInt32.ofNat_add, UInt32.add_assoc]
  rfl

theorem map_add_range_succ (lba : UInt32) (count : Nat) :
    (List.range (count + 1)).map (fun index => lba + UInt32.ofNat index) =
      lba :: (List.range count).map fun index => lba + 1 + UInt32.ofNat index := by
  rw [List.range_succ_eq_map, List.map_cons, List.map_map]
  congr 1
  · simp
  · exact List.map_congr_left fun index _ => add_ofNat_succ lba index

theorem toNat_min (a b : UInt32) : (min a b).toNat = min a.toNat b.toNat := by
  change (if a ≤ b then a else b).toNat = _
  split <;> rename_i order <;> rw [UInt32.le_iff_toNat_le] at order <;> omega

theorem toNat_of_add? {a b c : UInt32} (fits : add? a b = some c) :
    c.toNat = a.toNat + b.toNat := by
  unfold add? at fits
  split at fits
  · rename_i small
    cases fits
    exact toNat_add_of_lt small
  · cases fits

theorem exists_add? {a b : UInt32} (fits : a.toNat + b.toNat < limit) :
    ∃ sum, add? a b = some sum ∧ sum.toNat = a.toNat + b.toNat :=
  ⟨a + b, if_pos fits, toNat_add_of_lt fits⟩

theorem add?_eq_none_iff {a b : UInt32} : add? a b = none ↔ limit ≤ a.toNat + b.toNat := by
  unfold add?
  split <;> simp <;> omega

theorem toNat_of_mul? {a b c : UInt32} (fits : mul? a b = some c) :
    c.toNat = a.toNat * b.toNat := by
  unfold mul? at fits
  split at fits
  · rename_i small
    cases fits
    exact toNat_mul_of_lt small
  · cases fits

theorem exists_mul? {a b : UInt32} (fits : a.toNat * b.toNat < limit) :
    ∃ product, mul? a b = some product ∧ product.toNat = a.toNat * b.toNat :=
  ⟨a * b, if_pos fits, toNat_mul_of_lt fits⟩

theorem toNat_mulClamped (a b : UInt32) :
    (mulClamped a b).toNat = min (a.toNat * b.toNat) (limit - 1) := by
  unfold mulClamped mul?
  split
  · rename_i small
    rw [Option.getD_some, toNat_mul_of_lt small]
    omega
  · rename_i large
    have greatest : (0xFFFFFFFF : UInt32).toNat = limit - 1 := rfl
    rw [Option.getD_none, greatest]
    omega

theorem toNat_subClamped (a b : UInt32) : (subClamped a b).toNat = a.toNat - b.toNat := by
  unfold subClamped
  split
  · rename_i ordered
    exact UInt32.toNat_sub_of_le a b ordered
  · rename_i unordered
    have below : a.toNat < b.toNat := by
      rw [UInt32.le_iff_toNat_le] at unordered
      omega
    rw [Nat.sub_eq_zero_of_le (Nat.le_of_lt below)]
    rfl

end Word

end Fat32
