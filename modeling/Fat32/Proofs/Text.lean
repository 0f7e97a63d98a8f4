import Mathlib.Data.List.Basic
import Fat32.Text.Basic

/-!
Texts without regard to case. Folding changes ASCII letters only, so it changes
neither the marks between the parts of a name or a path (`toLower_eq_iff`) nor
the number of bytes that a text takes (`utf8ByteSize_fold`).
-/

namespace Fat32.Text

section Case

theorem toNat_toLower (c : Char) :
    c.toLower.toNat = if 65 ≤ c.toNat ∧ c.toNat ≤ 90 then c.toNat + 32 else c.toNat := by
  have bounds : (c.val ≥ 'A'.val ∧ c.val ≤ 'Z'.val) ↔ (65 ≤ c.toNat ∧ c.toNat ≤ 90) := by
    rw [ge_iff_le, UInt32.le_iff_toNat_le, UInt32.le_iff_toNat_le]
    rfl
  unfold Char.toLower
  by_cases letter : 65 ≤ c.toNat ∧ c.toNat ≤ 90
  · rw [dif_pos (bounds.mpr letter), if_pos letter]
    have high : c.val.toNat ≤ 90 := letter.2
    change (c.val + 32).toNat = c.val.toNat + 32
    rw [UInt32.toNat_add]
    change (c.val.toNat + 32) % 2 ^ 32 = _
    omega
  · rw [dif_neg (fun inside => letter (bounds.mp inside)), if_neg letter]

theorem toNat_toUpper (c : Char) :
    c.toUpper.toNat = if 97 ≤ c.toNat ∧ c.toNat ≤ 122 then c.toNat - 32 else c.toNat := by
  have bounds : ('a'.val ≤ c.val ∧ c.val ≤ 'z'.val) ↔ (97 ≤ c.toNat ∧ c.toNat ≤ 122) := by
    rw [UInt32.le_iff_toNat_le, UInt32.le_iff_toNat_le]
    rfl
  unfold Char.toUpper
  by_cases letter : 97 ≤ c.toNat ∧ c.toNat ≤ 122
  · rw [dif_pos (bounds.mpr letter), if_pos letter]
    have low : 97 ≤ c.val.toNat := letter.1
    have high : c.val.toNat ≤ 122 := letter.2
    change (c.val + ('A'.val - 'a'.val)).toNat = c.val.toNat - 32
    rw [UInt32.toNat_add]
    -- The difference wraps around: it is 32 below the first number that does not fit.
    change (c.val.toNat + 0xFFFFFFE0) % 2 ^ 32 = _
    omega
  · rw [dif_neg (fun inside => letter (bounds.mp inside)), if_neg letter]

theorem toLower_toLower (c : Char) : c.toLower.toLower = c.toLower := by
  apply Char.toNat_inj.mp
  simp only [toNat_toLower]
  split_ifs <;> omega

theorem toUpper_toLower (c : Char) : c.toLower.toUpper = c.toUpper := by
  apply Char.toNat_inj.mp
  simp only [toNat_toUpper, toNat_toLower]
  split_ifs <;> omega

/-- Characters that only they themselves fold to. -/
def Unlettered (marks : List Char) : Prop :=
  ∀ mark ∈ marks, mark.toLower = mark ∧ mark.toUpper = mark

instance : DecidablePred Unlettered := fun marks => List.decidableBAll _ marks

theorem toLower_eq_iff {c mark : Char} (notUpper : mark.toLower = mark)
    (notLower : mark.toUpper = mark) : c.toLower = mark ↔ c = mark := by
  rw [← Char.toNat_inj, toNat_toLower] at notUpper
  rw [← Char.toNat_inj, toNat_toUpper] at notLower
  rw [← Char.toNat_inj, ← Char.toNat_inj, toNat_toLower]
  split_ifs at * <;> omega

theorem map_toLower_eq_iff {chars marks : List Char} (unlettered : Unlettered marks) :
    chars.map Char.toLower = marks ↔ chars = marks := by
  induction chars generalizing marks with
  | nil => rw [List.map_nil]
  | cons c rest ih =>
    cases marks with
    | nil => simp
    | cons mark others =>
      obtain ⟨notUpper, notLower⟩ := unlettered mark List.mem_cons_self
      rw [List.map_cons, List.cons.injEq, List.cons.injEq, toLower_eq_iff notUpper notLower,
        ih fun mark member => unlettered mark (List.mem_cons_of_mem _ member)]

theorem bne_comp_toLower {mark : Char} (notUpper : mark.toLower = mark)
    (notLower : mark.toUpper = mark) : (· != mark) ∘ Char.toLower = (· != mark) := by
  funext c
  rw [Function.comp_apply, Bool.eq_iff_iff, bne_iff_ne, bne_iff_ne, Ne,
    toLower_eq_iff notUpper notLower]

theorem toList_fold (text : String) : (fold text).toList = text.toList.map Char.toLower :=
  String.toList_map

theorem fold_ofList (chars : List Char) :
    fold (.ofList chars) = .ofList (chars.map Char.toLower) := by
  rw [← String.toList_inj, toList_fold, String.toList_ofList, String.toList_ofList]

theorem fold_eq_iff {text marks : String} (unlettered : Unlettered marks.toList) :
    fold text = marks ↔ text = marks := by
  rw [← String.toList_inj, toList_fold, map_toLower_eq_iff unlettered, String.toList_inj]

theorem fold_fold (text : String) : fold (fold text) = fold text := by
  rw [← String.toList_inj, toList_fold, toList_fold, List.map_map]
  exact List.map_congr_left fun c _ => toLower_toLower c

theorem fold_append (front rest : String) : fold (front ++ rest) = fold front ++ fold rest := by
  rw [← String.toList_inj, toList_fold, String.toList_append, String.toList_append,
    List.map_append, toList_fold, toList_fold]

end Case

section Size

theorem utf8Size_toLower (c : Char) : c.toLower.utf8Size = c.utf8Size := by
  unfold Char.toLower
  split
  · rename_i letter
    have low : c.val.toNat ≤ 90 := UInt32.le_iff_toNat_le.mp letter.2
    have unchanged : c.utf8Size = 1 := by
      rw [Char.utf8Size_eq_one_iff, UInt32.le_iff_toNat_le]
      change c.val.toNat ≤ 127
      omega
    rw [unchanged, Char.utf8Size_eq_one_iff, UInt32.le_iff_toNat_le, UInt32.toNat_add]
    change (c.val.toNat + 32) % 2 ^ 32 ≤ 127
    omega
  · rfl

def utf8Size : List Char → Nat
  | [] => 0
  | first :: rest => first.utf8Size + utf8Size rest

theorem utf8Size_append (front rest : List Char) :
    utf8Size (front ++ rest) = utf8Size front + utf8Size rest := by
  induction front with
  | nil => exact (Nat.zero_add _).symm
  | cons c front ih => rw [List.cons_append, utf8Size, utf8Size, ih, Nat.add_assoc]

theorem utf8ByteSize_ofList (chars : List Char) :
    (String.ofList chars).utf8ByteSize = utf8Size chars := by
  induction chars with
  | nil => rfl
  | cons first rest ih =>
    have split : String.ofList (first :: rest) = String.singleton first ++ String.ofList rest := by
      rw [String.singleton_eq_ofList, ← String.ofList_append]
      rfl
    rw [split, String.utf8ByteSize_append, String.utf8ByteSize_singleton, ih, utf8Size]

theorem utf8Size_toList (text : String) : utf8Size text.toList = text.utf8ByteSize := by
  rw [← utf8ByteSize_ofList, String.ofList_toList]

theorem utf8Size_map_toLower (chars : List Char) :
    utf8Size (chars.map Char.toLower) = utf8Size chars := by
  induction chars with
  | nil => rfl
  | cons first rest ih => rw [List.map_cons, utf8Size, utf8Size, utf8Size_toLower, ih]

theorem utf8ByteSize_fold (text : String) : (fold text).utf8ByteSize = text.utf8ByteSize := by
  rw [← String.ofList_toList (s := fold text), toList_fold, utf8ByteSize_ofList,
    utf8Size_map_toLower, ← utf8ByteSize_ofList, String.ofList_toList]

end Size

end Fat32.Text
