import Fat32.Bytes

/-!
Blocks of bytes as lists: blocks in a row, and a block read from a list.
-/

namespace Fat32

theorem length_flatMap_eq_mul {α β : Type} {part : α → List β} {size : Nat}
    (each : ∀ value, (part value).length = size) (values : List α) :
    (values.flatMap part).length = values.length * size := by
  induction values with
  | nil => rw [List.flatMap_nil, List.length_nil, List.length_nil, Nat.zero_mul]
  | cons value rest ih =>
    rw [List.flatMap_cons, List.length_append, ih, each, List.length_cons, Nat.succ_mul,
      Nat.add_comm]

namespace Bytes

variable {n : Nat}

theorem length_flatMap_toList (blocks : List (Bytes n)) :
    (blocks.flatMap (·.toList)).length = blocks.length * n :=
  length_flatMap_eq_mul (fun _ => Vector.length_toList) blocks

theorem getElem?_flatMap_toList (nonempty : 0 < n) (blocks : List (Bytes n)) (index : Nat) :
    (blocks.flatMap (·.toList))[index]? =
      blocks[index / n]?.bind fun block => block[index % n]? := by
  induction blocks generalizing index with
  | nil => simp
  | cons block rest ih =>
    rw [List.flatMap_cons]
    by_cases inFirst : index < n
    · rw [List.getElem?_append_left (by simpa using inFirst), Nat.div_eq_of_lt inFirst,
        Nat.mod_eq_of_lt inFirst]
      simp
    · obtain ⟨index, rfl⟩ : ∃ later, index = later + n := ⟨index - n, by omega⟩
      rw [List.getElem?_append_right (by simp), Vector.length_toList, Nat.add_sub_cancel, ih,
        Nat.add_div_right _ nonempty, Nat.add_mod_right]
      rfl

theorem getElem_ofList (bytes : List UInt8) {index : Nat} (inside : index < n) :
    (ofList n bytes)[index] = bytes[index]?.getD 0 := by
  rw [ofList, Vector.getElem_ofFn]
  dsimp only
  rw [Array.getD_eq_getD_getElem?, List.getElem?_toArray]

theorem ofList_toList_append (bytes : Bytes n) (rest : List UInt8) :
    ofList n (bytes.toList ++ rest) = bytes := by
  apply Vector.ext
  intro index inside
  rw [getElem_ofList _ inside, List.getElem?_append_left (by rwa [Vector.length_toList]),
    Vector.getElem?_toList, Vector.getElem?_eq_getElem inside, Option.getD_some]

theorem toList_ofList {bytes : List UInt8} (fits : bytes.length ≤ n) :
    (ofList n bytes).toList = bytes ++ List.replicate (n - bytes.length) 0 := by
  apply List.ext_getElem?
  intro index
  by_cases inside : index < n
  · rw [Vector.getElem?_toList, Vector.getElem?_eq_getElem inside, getElem_ofList _ inside,
      List.getElem?_append]
    by_cases stored : index < bytes.length
    · rw [if_pos stored, List.getElem?_eq_getElem stored, Option.getD_some]
    · rw [if_neg stored, List.getElem?_eq_none (by omega), List.getElem?_replicate,
        if_pos (by omega), Option.getD_none]
  · rw [List.getElem?_eq_none (by rw [Vector.length_toList]; omega),
      List.getElem?_eq_none (by rw [List.length_append, List.length_replicate]; omega)]

end Bytes

end Fat32
