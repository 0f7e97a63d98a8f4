import Mathlib.Data.List.TakeWhile
import Fat32.Proofs.Bytes
import Fat32.Proofs.Name.Display

/-!
Short names as they are typed. What can be stored is a base or a base and an
extension with a dot between them (`Spelling`), and what is stored are the two
parts in capitals (`ofString?_eq_some_iff`). So a spelling and the name that is
shown for it differ in case and in a dot at the end only.
-/

namespace Fat32.ShortName

/-- A name that is written as a base, or as a base and an extension behind a dot. -/
structure Spelling (name : String) (base extension : List Char) : Prop where
  written : (name.toList = base ∧ extension = []) ∨ name.toList = base ++ '.' :: extension
  nonempty : base ≠ []
  base_le : base.length ≤ 8
  extension_le : extension.length ≤ 3
  plain : ∀ c ∈ base ++ extension, c.toNat < 128 ∧ c ≠ '.' ∧ c ≠ ' '

def capital (c : Char) : UInt8 := c.toUpper.toUInt8

/-- Characters as a field of a stored name: in capitals and filled up with spaces. -/
def field (width : Nat) (chars : List Char) : List UInt8 :=
  chars.map capital ++ List.replicate (width - chars.length) space

/-- A name without the dot at its end. -/
def undotted (name : String) : String :=
  .ofList (if name.toList.getLast? = some '.' then name.toList.dropLast else name.toList)

section Split

theorem splitExtension_of_dotless {name : List Char} (dotless : '.' ∉ name) :
    splitExtension name = (name, []) := if_neg dotless

theorem splitExtension_append (base : List Char) {extension : List Char}
    (dotless : '.' ∉ extension) :
    splitExtension (base ++ '.' :: extension) = (base, extension) := by
  have passes : ∀ c ∈ extension.reverse, (c != '.') = true := by
    intro c member
    rw [bne_iff_ne]
    rintro rfl
    exact dotless (List.mem_reverse.mp member)
  have reversed : (base ++ '.' :: extension).reverse =
      extension.reverse ++ '.' :: base.reverse := by simp
  unfold splitExtension
  rw [if_pos (by simp)]
  dsimp only
  rw [reversed, List.dropWhile_append_of_pos passes, List.takeWhile_append_of_pos passes]
  simp

theorem splitExtension_spec (name : List Char) :
    '.' ∉ (splitExtension name).2 ∧
      ((name = (splitExtension name).1 ∧ (splitExtension name).2 = []) ∨
        name = (splitExtension name).1 ++ '.' :: (splitExtension name).2) := by
  by_cases dotted : '.' ∈ name
  · obtain ⟨behind, front, reversed, dotless⟩ :=
      List.eq_append_cons_of_mem (List.mem_reverse.mpr dotted)
    have whole : name = front.reverse ++ '.' :: behind.reverse := by
      rw [← List.reverse_reverse name, reversed]
      simp
    have apart : '.' ∉ behind.reverse := fun member => dotless (List.mem_reverse.mp member)
    rw [whole, splitExtension_append _ apart]
    exact ⟨apart, .inr rfl⟩
  · rw [splitExtension_of_dotless dotted]
    exact ⟨List.not_mem_nil, .inl ⟨rfl, rfl⟩⟩

end Split

theorem storable_iff {base extension : List Char} :
    storable base extension = true ↔
      base ≠ [] ∧ base.length ≤ 8 ∧ extension.length ≤ 3 ∧
        (∀ c ∈ base, c.toNat < 128 ∧ c ≠ '.' ∧ c ≠ ' ') ∧
        ∀ c ∈ extension, c.toNat < 128 ∧ c ≠ ' ' := by
  simp [storable, and_assoc]

theorem map_rightpad (chars : List Char) (width : Nat) :
    (chars.rightpad width ' ').map capital = field width chars := by
  rw [List.rightpad, List.map_append, List.map_replicate]
  rfl

theorem length_field {width : Nat} {chars : List Char} (fits : chars.length ≤ width) :
    (field width chars).length = width := by
  rw [field, List.length_append, List.length_map, List.length_replicate]
  omega

theorem ofString?_eq (name : String) :
    ofString? name =
      let (base, extension) := splitExtension name.toList
      if storable base extension then
        some ⟨.ofList 11 (field 8 base ++ field 3 extension)⟩
      else none := by
  unfold ofString?
  dsimp only
  rw [← map_rightpad, ← map_rightpad, ← List.map_append]
  rfl

namespace Spelling

variable {name : String} {base extension : List Char} (spelling : Spelling name base extension)

include spelling

theorem splitExtension_eq : splitExtension name.toList = (base, extension) := by
  have dotless : ∀ {part : List Char}, (∀ c ∈ part, c ∈ base ++ extension) → '.' ∉ part :=
    fun inside member => (spelling.plain '.' (inside _ member)).2.1 rfl
  rcases spelling.written with ⟨written, rfl⟩ | written
  · rw [written]
    exact splitExtension_of_dotless (dotless fun c member => List.mem_append_left _ member)
  · rw [written]
    exact splitExtension_append base (dotless fun c member => List.mem_append_right _ member)

theorem storable_eq : storable base extension = true := by
  refine storable_iff.mpr
    ⟨spelling.nonempty, spelling.base_le, spelling.extension_le, fun c member => ?_,
      fun c member => ?_⟩
  · exact spelling.plain c (List.mem_append_left _ member)
  · obtain ⟨small, -, notSpace⟩ := spelling.plain c (List.mem_append_right _ member)
    exact ⟨small, notSpace⟩

end Spelling

theorem exists_spelling_of_storable {name : String}
    (fits : storable (splitExtension name.toList).1 (splitExtension name.toList).2 = true) :
    Spelling name (splitExtension name.toList).1 (splitExtension name.toList).2 := by
  obtain ⟨dotless, written⟩ := splitExtension_spec name.toList
  obtain ⟨nonempty, base_le, extension_le, inBase, inExtension⟩ := storable_iff.mp fits
  refine ⟨written, nonempty, base_le, extension_le, fun c member => ?_⟩
  rcases List.mem_append.mp member with front | behind
  · exact inBase c front
  · obtain ⟨small, notSpace⟩ := inExtension c behind
    refine ⟨small, ?_, notSpace⟩
    rintro rfl
    exact dotless behind

/-- What can be stored is what has a spelling, and what is stored are the two parts of it. -/
theorem ofString?_eq_some_iff {name : String} {short : ShortName} :
    ofString? name = some short ↔
      ∃ base extension, Spelling name base extension ∧
        short.raw.toList = field 8 base ++ field 3 extension := by
  have stored {base extension : List Char} (spelling : Spelling name base extension) :
      (Bytes.ofList 11 (field 8 base ++ field 3 extension)).toList =
        field 8 base ++ field 3 extension := by
    have length : (field 8 base ++ field 3 extension).length = 11 := by
      rw [List.length_append, length_field spelling.base_le, length_field spelling.extension_le]
    rw [Bytes.toList_ofList (Nat.le_of_eq length), length, List.replicate_zero, List.append_nil]
  rw [ofString?_eq]
  constructor
  · intro accepted
    dsimp only at accepted
    split at accepted
    · rename_i fits
      cases accepted
      have spelling := exists_spelling_of_storable fits
      exact ⟨_, _, spelling, stored spelling⟩
    · cases accepted
  · rintro ⟨base, extension, spelling, same⟩
    rw [spelling.splitExtension_eq]
    dsimp only
    rw [if_pos spelling.storable_eq]
    congr
    apply Vector.toList_inj.mp
    rw [stored spelling, same]

section Case

theorem splitExtension_map_toLower (name : List Char) :
    splitExtension (name.map Char.toLower) =
      ((splitExtension name).1.map Char.toLower, (splitExtension name).2.map Char.toLower) := by
  have dot (c : Char) : c.toLower = '.' ↔ c = '.' :=
    Text.toLower_eq_iff (by decide) (by decide)
  have dotted : '.' ∈ name.map Char.toLower ↔ '.' ∈ name := by simp [dot]
  have test : (· != '.') ∘ Char.toLower = (· != '.') :=
    Text.bne_comp_toLower (by decide) (by decide)
  unfold splitExtension
  simp only [dotted, ← List.map_reverse, List.dropWhile_map, List.takeWhile_map, test,
    ← List.map_drop]
  split <;> rfl

theorem storable_map_toLower (base extension : List Char) :
    storable (base.map Char.toLower) (extension.map Char.toLower) = storable base extension := by
  have dot (c : Char) : c.toLower = '.' ↔ c = '.' :=
    Text.toLower_eq_iff (by decide) (by decide)
  have blank (c : Char) : c.toLower = ' ' ↔ c = ' ' :=
    Text.toLower_eq_iff (by decide) (by decide)
  have small (c : Char) : c.toLower.toNat < 128 ↔ c.toNat < 128 := by
    rw [Text.toNat_toLower]
    split <;> omega
  rw [Bool.eq_iff_iff, storable_iff, storable_iff]
  simp only [List.forall_mem_map, List.length_map, Ne, List.map_eq_nil_iff, dot, blank, small]

theorem field_map_toLower (width : Nat) (chars : List Char) :
    field width (chars.map Char.toLower) = field width chars := by
  rw [field, field, List.map_map, List.length_map]
  congr 1
  apply List.map_congr_left
  intro c _
  rw [Function.comp_apply, capital, capital, Text.toUpper_toLower]

theorem ofString?_fold (name : String) : ofString? (Text.fold name) = ofString? name := by
  rw [ofString?_eq, ofString?_eq, Text.toList_fold, splitExtension_map_toLower]
  dsimp only
  rw [storable_map_toLower, field_map_toLower, field_map_toLower]

end Case

section Trim

theorem trim_append_replicate {part : List UInt8} (filled : part.getLast? ≠ some space)
    (count : Nat) : trim (part ++ List.replicate count space) = part := by
  have spaces : ∀ byte ∈ List.replicate count space, (byte == space) = true :=
    fun byte member => beq_iff_eq.mpr (List.eq_of_mem_replicate member)
  unfold trim
  rw [List.reverse_append, List.reverse_replicate, List.dropWhile_append_of_pos spaces]
  cases reversed : part.reverse with
  | nil => rw [List.reverse_eq_nil_iff.mp reversed]; rfl
  | cons last rest =>
    have ends : part.getLast? = some last := by rw [← List.head?_reverse, reversed]; rfl
    have notSpace : last ≠ space := by
      rintro rfl
      exact filled ends
    have kept : (last :: rest).dropWhile (· == space) = last :: rest :=
      List.dropWhile_cons_of_neg (by simpa using notSpace)
    rw [kept, ← reversed, List.reverse_reverse]

theorem trim_append (part : List UInt8) :
    trim part ++ List.replicate (part.length - (trim part).length) space = part := by
  have spaces : part.reverse.takeWhile (· == space) =
      List.replicate (part.reverse.takeWhile (· == space)).length space := by
    refine List.eq_replicate_of_mem fun byte member => ?_
    have passes := List.mem_takeWhile_imp member
    exact beq_iff_eq.mp passes
  have whole : part = trim part ++ List.replicate
      (part.reverse.takeWhile (· == space)).length space := by
    rw [← List.reverse_replicate, ← spaces, trim, ← List.reverse_append,
      List.takeWhile_append_dropWhile, List.reverse_reverse]
  have length := congrArg List.length whole
  rw [List.length_append, List.length_replicate] at length
  rw [length, Nat.add_sub_cancel_left, ← whole]

theorem base_append (short : ShortName) :
    short.base ++ List.replicate (8 - short.base.length) space = short.raw.toList.take 8 := by
  have length : (short.raw.toList.take 8).length = 8 := by
    rw [List.length_take, Vector.length_toList]
    rfl
  have whole := trim_append (short.raw.toList.take 8)
  rwa [length] at whole

theorem extension_append (short : ShortName) :
    short.extension ++ List.replicate (3 - short.extension.length) space =
      short.raw.toList.drop 8 := by
  have length : (short.raw.toList.drop 8).length = 3 := by
    rw [List.length_drop, Vector.length_toList]
  have whole := trim_append (short.raw.toList.drop 8)
  rwa [length] at whole

theorem length_base_le (short : ShortName) : short.base.length ≤ 8 := by
  have length := congrArg List.length short.base_append
  rw [List.length_append, List.length_replicate, List.length_take, Vector.length_toList] at length
  omega

theorem length_extension_le (short : ShortName) : short.extension.length ≤ 3 := by
  have length := congrArg List.length short.extension_append
  rw [List.length_append, List.length_replicate, List.length_drop, Vector.length_toList] at length
  omega

end Trim

section Letters

/-- The character that a stored byte shows. -/
def letter (byte : UInt8) : Char := (Text.latin1 byte).toLower

/-- The characters of a name as they are shown, if its first byte stands for itself. -/
def letters (short : ShortName) : List Char :=
  short.base.map letter ++
    if short.extension.isEmpty then [] else '.' :: short.extension.map letter

theorem toNat_letter {byte : UInt8} (ascii : byte < 0x80) :
    (letter byte).toNat = if 65 ≤ byte.toNat ∧ byte.toNat ≤ 90 then byte.toNat + 32
      else byte.toNat := by
  have small : byte.toNat < 128 := UInt8.lt_iff_toNat_lt.mp ascii
  have code : (Text.latin1 byte).toNat = byte.toNat := by
    have valid : byte.toNat.isValidChar := .inl (by omega)
    have named : Char.ofNat byte.toNat = Char.ofNatAux byte.toNat valid := dif_pos valid
    rw [Text.latin1, named]
    rfl
  rw [letter, Text.toNat_toLower, code]

theorem toNat_capital {c : Char} (ascii : c.toNat < 128) :
    (capital c).toNat = if 97 ≤ c.toNat ∧ c.toNat ≤ 122 then c.toNat - 32 else c.toNat := by
  have upper := Text.toNat_toUpper c
  have code : (capital c).toNat = c.toUpper.toNat % 2 ^ 8 := rfl
  rw [code, upper]
  split <;> omega

theorem capital_lt {c : Char} (ascii : c.toNat < 128) : capital c < 0x80 := by
  rw [UInt8.lt_iff_toNat_lt, toNat_capital ascii]
  change _ < 128
  split <;> omega

theorem eq_of_capital {c mark : Char} (ascii : c.toNat < 128) (low : mark.toNat < 65)
    (same : capital c = mark.toUInt8) : c = mark := by
  have code := toNat_capital ascii
  have stored : mark.toUInt8.toNat = mark.toNat % 2 ^ 8 := rfl
  rw [same, stored] at code
  rw [← Char.toNat_inj]
  split at code <;> omega

theorem eq_of_letter {byte : UInt8} {mark : Char} (ascii : byte < 0x80) (low : mark.toNat < 65)
    (same : letter byte = mark) : byte = mark.toUInt8 := by
  have code := toNat_letter ascii
  have stored : mark.toUInt8.toNat = mark.toNat % 2 ^ 8 := rfl
  rw [same] at code
  rw [← UInt8.toNat_inj, stored]
  split at code <;> omega

theorem letter_capital {c : Char} (ascii : c.toNat < 128) : letter (capital c) = c.toLower := by
  rw [← Char.toNat_inj, toNat_letter (capital_lt ascii), Text.toNat_toLower, toNat_capital ascii]
  split_ifs <;> omega

theorem capital_letter {byte : UInt8} (ascii : byte < 0x80)
    (notLower : ¬ (0x61 ≤ byte ∧ byte ≤ 0x7A)) : capital (letter byte) = byte := by
  have code := toNat_letter ascii
  have small : byte.toNat < 128 := UInt8.lt_iff_toNat_lt.mp ascii
  have capitals : ¬ (97 ≤ byte.toNat ∧ byte.toNat ≤ 122) := by
    rwa [UInt8.le_iff_toNat_le, UInt8.le_iff_toNat_le] at notLower
  have below : (letter byte).toNat < 128 := by
    rw [code]
    split <;> omega
  rw [← UInt8.toNat_inj, toNat_capital below, code]
  split_ifs <;> omega

theorem display_eq_letters {short : ShortName}
    (ascii : ∀ byte ∈ short.base ++ short.extension, byte < 0x80)
    (literal : short.base.head? ≠ some 0x05) : short.display = .ofList short.letters := by
  have unescaped : unescape short.base = short.base := by
    cases written : short.base with
    | nil => rfl
    | cons first rest =>
      rw [written] at literal
      have other : first ≠ 0x05 := fun same => literal (congrArg some same)
      rw [unescape, if_neg other]
  have shows : short.shown = short.letters := by
    unfold shown
    rw [unescaped]
    rfl
  have narrow : (short.base ++ short.extension).countP (0x80 ≤ ·) = 0 := by
    rw [List.countP_eq_zero]
    intro byte member
    simpa using ascii byte member
  have length : short.letters.length ≤ 12 := by
    have base_le := short.length_base_le
    have extension_le := short.length_extension_le
    unfold letters
    rw [List.length_append, List.length_map]
    split
    · rw [List.length_nil]
      omega
    · rw [List.length_cons, List.length_map]
      omega
  rw [display_eq_of_le, shows]
  rw [utf8Size_shown, unescaped, narrow, shows]
  exact length

end Letters

section Stored

variable {name : String} {short : ShortName} {base extension : List Char}

theorem trim_field {chars : List Char} (plain : ∀ c ∈ chars, c.toNat < 128 ∧ c ≠ ' ')
    (width : Nat) : trim (field width chars) = chars.map capital := by
  apply trim_append_replicate
  intro blank
  rw [List.getLast?_map] at blank
  obtain ⟨c, last, same⟩ := Option.map_eq_some_iff.mp blank
  obtain ⟨ascii, notSpace⟩ := plain c (List.mem_of_getLast? last)
  exact notSpace (eq_of_capital ascii (by decide) same)

namespace Spelling

variable (spelling : Spelling name base extension)
  (stored : short.raw.toList = field 8 base ++ field 3 extension)

include spelling

theorem toList_undotted :
    (undotted name).toList = base ++ if extension.isEmpty then [] else '.' :: extension := by
  have last {part : List Char} (inside : ∀ c ∈ part, c ∈ base ++ extension) :
      part.getLast? ≠ some '.' :=
    fun ends => (spelling.plain '.' (inside _ (List.mem_of_getLast? ends))).2.1 rfl
  unfold undotted
  rw [String.toList_ofList]
  rcases spelling.written with ⟨written, rfl⟩ | written
  · rw [written, if_neg (last fun c member => List.mem_append_left _ member)]
    exact (List.append_nil base).symm
  · rw [written]
    by_cases none : extension = []
    · rw [none, if_pos List.getLast?_concat, List.dropLast_concat]
      exact (List.append_nil base).symm
    · have ends : (base ++ '.' :: extension).getLast? = extension.getLast? := by
        obtain ⟨first, rest, rfl⟩ := List.exists_cons_of_ne_nil none
        rw [List.getLast?_append, List.getLast?_cons_cons, List.getLast?_eq_some_getLast none]
        rfl
      rw [ends, if_neg (last fun c member => List.mem_append_right _ member),
        if_neg (by simpa using none)]

theorem undotted : Spelling (undotted name) base extension where
  written := by
    rw [spelling.toList_undotted]
    by_cases none : extension = []
    · exact .inl ⟨by simp [none], none⟩
    · exact .inr (by simp [none])
  nonempty := spelling.nonempty
  base_le := spelling.base_le
  extension_le := spelling.extension_le
  plain := spelling.plain

include stored

theorem base_eq : short.base = base.map capital := by
  unfold ShortName.base
  rw [stored, List.take_left' (length_field spelling.base_le)]
  refine trim_field (fun c member => ?_) 8
  obtain ⟨ascii, -, notSpace⟩ := spelling.plain c (List.mem_append_left _ member)
  exact ⟨ascii, notSpace⟩

theorem extension_eq : short.extension = extension.map capital := by
  unfold ShortName.extension
  rw [stored, List.drop_left' (length_field spelling.base_le)]
  refine trim_field (fun c member => ?_) 3
  obtain ⟨ascii, -, notSpace⟩ := spelling.plain c (List.mem_append_right _ member)
  exact ⟨ascii, notSpace⟩

theorem fold_undotted_eq : Text.fold (ShortName.undotted name) = .ofList short.letters := by
  have lower {part : List Char} (inside : ∀ c ∈ part, c ∈ base ++ extension) :
      (part.map capital).map letter = part.map Char.toLower := by
    rw [List.map_map]
    apply List.map_congr_left
    intro c member
    exact letter_capital (spelling.plain c (inside c member)).1
  unfold letters
  rw [← String.toList_inj, Text.toList_fold, String.toList_ofList, spelling.toList_undotted,
    spelling.base_eq stored, spelling.extension_eq stored,
    lower fun c member => List.mem_append_left _ member,
    lower fun c member => List.mem_append_right _ member, List.map_append, List.isEmpty_map]
  split <;> rfl

/-- What is shown for a name that was typed differs from it in case and the last dot only. -/
theorem display_eq (literal : name.toList.head? ≠ some '\x05') :
    short.display = Text.fold (ShortName.undotted name) := by
  rw [spelling.fold_undotted_eq stored]
  apply display_eq_letters
  · rw [spelling.base_eq stored, spelling.extension_eq stored, ← List.map_append]
    intro byte member
    obtain ⟨c, typed, rfl⟩ := List.mem_map.mp member
    exact capital_lt (spelling.plain c typed).1
  · rw [spelling.base_eq stored]
    obtain ⟨first, rest, rfl⟩ := List.exists_cons_of_ne_nil spelling.nonempty
    intro escaped
    have ascii := (spelling.plain first List.mem_cons_self).1
    have five : first = '\x05' := eq_of_capital ascii (by decide) (Option.some.inj escaped)
    apply literal
    rcases spelling.written with ⟨written, -⟩ | written <;> rw [written, five] <;> rfl

end Spelling

theorem Spelling.exists_stored (spelling : Spelling name base extension) :
    ∃ short, ofString? name = some short := by
  rw [ofString?_eq, spelling.splitExtension_eq]
  exact ⟨_, if_pos spelling.storable_eq⟩

theorem first_of_ofString? {name : String} {short : ShortName}
    (spelled : ofString? name = some short) : short.raw[0]? ≠ some 0x2E := by
  obtain ⟨base, extension, spelling, stored⟩ := ofString?_eq_some_iff.mp spelled
  obtain ⟨first, rest, rfl⟩ := List.exists_cons_of_ne_nil spelling.nonempty
  obtain ⟨ascii, notDot, -⟩ := spelling.plain first List.mem_cons_self
  rw [← Vector.getElem?_toList, stored]
  intro dot
  exact notDot (eq_of_capital ascii (by decide) (Option.some.inj dot))

theorem Spelling.unique {otherBase otherExtension : List Char}
    (spelling : Spelling name base extension) (other : Spelling name otherBase otherExtension) :
    otherBase = base ∧ otherExtension = extension :=
  Prod.mk.inj (other.splitExtension_eq.symm.trans spelling.splitExtension_eq)

theorem ofString?_undotted (accepted : ofString? name = some short) :
    ofString? (undotted name) = some short := by
  obtain ⟨base, extension, spelling, stored⟩ := ofString?_eq_some_iff.mp accepted
  exact ofString?_eq_some_iff.mpr ⟨base, extension, spelling.undotted, stored⟩

/-- A byte that is shown in a way that spells it again. -/
structure Plain (byte : UInt8) : Prop where
  ascii : byte < 0x80
  notSpace : byte ≠ space
  notDot : byte ≠ 0x2E
  notLower : ¬ (0x61 ≤ byte ∧ byte ≤ 0x7A)

theorem field_map_letter {bytes : List UInt8} (plain : ∀ byte ∈ bytes, Plain byte) (width : Nat) :
    field width (bytes.map letter) = bytes ++ List.replicate (width - bytes.length) space := by
  have again : (bytes.map letter).map capital = bytes := by
    rw [List.map_map]
    refine (List.map_congr_left fun byte member => ?_).trans (List.map_id bytes)
    exact capital_letter (plain byte member).ascii (plain byte member).notLower
  rw [field, again, List.length_map]

theorem Plain.letter {byte : UInt8} (plain : Plain byte) :
    (letter byte).toNat < 128 ∧ ShortName.letter byte ≠ '.' ∧ ShortName.letter byte ≠ ' ' := by
  have small : byte.toNat < 128 := UInt8.lt_iff_toNat_lt.mp plain.ascii
  refine ⟨?_, ?_, ?_⟩
  · rw [toNat_letter plain.ascii]
    split <;> omega
  · exact fun same => plain.notDot (eq_of_letter plain.ascii (by decide) same)
  · exact fun same => plain.notSpace (eq_of_letter plain.ascii (by decide) same)

section Shown

variable (nonempty : short.base ≠ []) (plain : ∀ byte ∈ short.base ++ short.extension, Plain byte)

include nonempty plain

theorem spelling_letters :
    Spelling (.ofList short.letters) (short.base.map letter) (short.extension.map letter) where
  written := by
    unfold letters
    rw [String.toList_ofList]
    by_cases none : short.extension = []
    · exact .inl ⟨by simp [none], by simp [none]⟩
    · exact .inr (by simp [none])
  nonempty := by simpa using nonempty
  base_le := by
    rw [List.length_map]
    exact short.length_base_le
  extension_le := by
    rw [List.length_map]
    exact short.length_extension_le
  plain c member := by
    rw [← List.map_append] at member
    obtain ⟨byte, shown, rfl⟩ := List.mem_map.mp member
    exact (plain byte shown).letter

theorem ofString?_letters : ofString? (.ofList short.letters) = some short := by
  refine ofString?_eq_some_iff.mpr ⟨_, _, spelling_letters nonempty plain, ?_⟩
  have base : field 8 (short.base.map letter) = short.raw.toList.take 8 := by
    rw [field_map_letter fun byte member => plain byte (List.mem_append_left _ member)]
    exact short.base_append
  have extension : field 3 (short.extension.map letter) = short.raw.toList.drop 8 := by
    rw [field_map_letter fun byte member => plain byte (List.mem_append_right _ member)]
    exact short.extension_append
  rw [base, extension, List.take_append_drop]

theorem ofString?_display (literal : short.raw[0]? ≠ some 0x05) :
    ofString? short.display = some short := by
  have first : short.base.head? ≠ some 0x05 := by
    obtain ⟨byte, rest, written⟩ := List.exists_cons_of_ne_nil nonempty
    have same : some byte = (short.raw.toList.take 8)[0]? := by
      rw [← short.base_append, written]
      rfl
    rw [List.getElem?_take_of_lt (by decide), Vector.getElem?_toList] at same
    rw [written, List.head?_cons, same]
    exact literal
  rw [display_eq_letters (fun byte member => (plain byte member).ascii) first]
  exact ofString?_letters nonempty plain

end Shown

end Stored

/-- What can be stored is one to eight plain characters, or these and up to three more behind a dot,
and they are stored in capitals. A stored name of such characters is shown in a way that spells it
again, and what was typed is shown in lower case and without a dot at its end. So two spellings
of one name differ in case and in that dot only. -/
theorem short_names_round_trip :
    (∀ name, (∃ short, ofString? name = some short) ↔
      ∃ base extension, Spelling name base extension) ∧
    (∀ name short base extension, ofString? name = some short → Spelling name base extension →
      short.raw.toList = field 8 base ++ field 3 extension) ∧
    (∀ short : ShortName, short.base ≠ [] →
      (∀ byte ∈ short.base ++ short.extension, Plain byte) → short.raw[0]? ≠ some 0x05 →
      ofString? short.display = some short) ∧
    (∀ name short, ofString? name = some short → name.toList.head? ≠ some '\x05' →
      short.display = Text.fold (undotted name) ∧ ofString? short.display = some short) ∧
    ∀ name other short another, ofString? name = some short → ofString? other = some another →
      (short = another ↔ Text.fold (undotted name) = Text.fold (undotted other)) := by
  have again {name : String} {short : ShortName} (accepted : ofString? name = some short) :
      ofString? (Text.fold (undotted name)) = some short :=
    (ofString?_fold _).trans (ofString?_undotted accepted)
  refine ⟨fun name => ⟨?_, ?_⟩, ?_, fun short => ofString?_display, ?_, ?_⟩
  · rintro ⟨short, accepted⟩
    obtain ⟨base, extension, spelling, -⟩ := ofString?_eq_some_iff.mp accepted
    exact ⟨base, extension, spelling⟩
  · rintro ⟨base, extension, spelling⟩
    exact spelling.exists_stored
  · intro name short base extension accepted spelling
    obtain ⟨_, _, other, stored⟩ := ofString?_eq_some_iff.mp accepted
    obtain ⟨rfl, rfl⟩ := spelling.unique other
    exact stored
  · intro name short accepted literal
    obtain ⟨base, extension, spelling, stored⟩ := ofString?_eq_some_iff.mp accepted
    have shown := spelling.display_eq stored literal
    exact ⟨shown, shown ▸ again accepted⟩
  · intro name other short another accepted acceptedToo
    constructor
    · rintro rfl
      obtain ⟨_, _, spelling, stored⟩ := ofString?_eq_some_iff.mp accepted
      obtain ⟨_, _, otherSpelling, storedToo⟩ := ofString?_eq_some_iff.mp acceptedToo
      rw [spelling.fold_undotted_eq stored, otherSpelling.fold_undotted_eq storedToo]
    · intro same
      have spelled := again accepted
      rw [same, again acceptedToo] at spelled
      exact (Option.some.inj spelled).symm

/-- The name `AB` and two of its spellings, one with a dot at its end. -/
theorem short_names_round_trip_ab :
    let ab : ShortName :=
      ⟨#v[0x41, 0x42, 0x20, 0x20, 0x20, 0x20, 0x20, 0x20, 0x20, 0x20, 0x20]⟩
    Spelling "Ab." ['A', 'b'] [] ∧ (∃ short, ofString? "Ab." = some short) ∧
      ofString? "Ab." = some ab ∧ ab.raw.toList = field 8 ['A', 'b'] ++ field 3 [] ∧
      ab.base ≠ [] ∧ (∀ byte ∈ ab.base ++ ab.extension, Plain byte) ∧ ab.raw[0]? ≠ some 0x05 ∧
      ofString? ab.display = some ab ∧
      "Ab.".toList.head? ≠ some '\x05' ∧ ab.display = Text.fold (undotted "Ab.") ∧
      ofString? "aB" = some ab ∧ Text.fold (undotted "Ab.") = Text.fold (undotted "aB") := by
  intro ab
  have spelling : Spelling "Ab." ['A', 'b'] [] := by
    refine ⟨by decide, by decide, by decide, by decide, ?_⟩
    simp only [List.append_nil, List.forall_mem_cons, List.not_mem_nil, IsEmpty.forall_iff,
      implies_true, and_true]
    decide
  have spelled : ofString? "Ab." = some ab := by decide +kernel
  have again : ofString? "aB" = some ab := by decide +kernel
  have base : ab.base ++ ab.extension = [0x41, 0x42] := by decide
  have plain : ∀ byte ∈ ab.base ++ ab.extension, Plain byte := by
    rw [base]
    simp only [List.forall_mem_cons, List.not_mem_nil, IsEmpty.forall_iff, implies_true, and_true]
    exact ⟨⟨by decide, by decide, by decide, by decide⟩,
      ⟨by decide, by decide, by decide, by decide⟩⟩
  have nonempty : ab.base ≠ [] := by decide
  obtain ⟨accepts, stores, shows, displays, same⟩ := short_names_round_trip
  refine ⟨spelling, (accepts "Ab.").mpr ⟨_, _, spelling⟩, spelled, ?_, nonempty, plain, by decide,
    shows ab nonempty plain (by decide), by decide, ?_, again, ?_⟩
  · exact stores "Ab." ab _ _ spelled spelling
  · exact (displays "Ab." ab spelled (by decide)).1
  · exact (same "Ab." "aB" ab ab spelled again).mp rfl

end Fat32.ShortName
