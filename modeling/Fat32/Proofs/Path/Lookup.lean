import Fat32.Proofs.Directory.Batch
import Fat32.Proofs.Path.Ascent
import Fat32.Proofs.Path.Joined
import Fat32.Proofs.Volume.Walk

/-!
Entries found by their path. The last name of a path is looked for in the
directory that the rest of the path leads to, among all entries by a lookup and
among the directories by a walk. Both take the first entry that the name fits.
-/

namespace Fat32

namespace Entry

/-- A query fits an entry when it is its name up to ASCII case, or spells its short name. -/
def Fits (query : String) (entry : Entry) : Prop :=
  Text.fold entry.name = Text.fold query ∨ ShortName.ofString? query = some entry.shortName

theorem isNamed_iff {query : String} {entry : Entry} :
    entry.isNamed query = true ↔ entry.Fits query := by
  unfold isNamed answers Fits Query.ofString
  simp

/-- The first of some entries that a query fits, and its place among them. -/
structure First (query : String) (entries : List Entry) (place : Nat) (entry : Entry) : Prop where
  here : entries[place]? = some entry
  fits : entry.Fits query
  le : ∀ other another, entries[other]? = some another → another.Fits query → place ≤ other

variable {query : String} {entries : List Entry} {entry : Entry}

theorem find?_isNamed_iff :
    entries.find? (·.isNamed query) = some entry ↔ ∃ place, First query entries place entry := by
  rw [List.find?_eq_some_iff_getElem]
  constructor
  · rintro ⟨named, place, inside, rfl, earlier⟩
    refine ⟨place, List.getElem?_eq_getElem inside, isNamed_iff.mp named, ?_⟩
    intro other another listed fits
    by_contra before
    obtain ⟨_, rfl⟩ := List.getElem?_eq_some_iff.mp listed
    have unnamed := earlier other (Nat.lt_of_not_le before)
    rw [isNamed_iff.mpr fits] at unnamed
    cases unnamed
  · rintro ⟨place, here, fits, le⟩
    obtain ⟨inside, rfl⟩ := List.getElem?_eq_some_iff.mp here
    refine ⟨isNamed_iff.mpr fits, place, inside, rfl, ?_⟩
    intro other before
    rw [Bool.not_eq_true', Bool.eq_false_iff]
    intro named
    have listed := List.getElem?_eq_getElem (Nat.lt_trans before inside)
    exact Nat.not_le_of_lt before (le other _ listed (isNamed_iff.mp named))

theorem find?_isNamed_eq_none_iff :
    entries.find? (·.isNamed query) = none ↔ ∀ entry ∈ entries, ¬ entry.Fits query := by
  simp [List.find?_eq_none, ← isNamed_iff]

theorem exists_first {place : Nat} (listed : entries[place]? = some entry)
    (fits : entry.Fits query) :
    ∃ first ≤ place, ∃ answer, First query entries first answer ∧
      entries.find? (·.isNamed query) = some answer := by
  cases found : entries.find? (·.isNamed query) with
  | none =>
    have unfit := find?_isNamed_eq_none_iff.mp found entry (List.mem_of_getElem? listed)
    exact absurd fits unfit
  | some answer =>
    obtain ⟨first, isFirst⟩ := find?_isNamed_iff.mp found
    exact ⟨first, isFirst.le place entry listed fits, answer, isFirst, rfl⟩

theorem find?_isDirectoryNamed (found : entries.find? (·.isNamed query) = some entry)
    (isDirectory : entry.isDirectory = true) :
    entries.find? (isDirectoryNamed query) = some entry := by
  obtain ⟨named, before, behind, same, unnamed⟩ := List.find?_eq_some_iff_append.mp found
  refine List.find?_eq_some_iff_append.mpr ⟨?_, before, behind, same, fun other member => ?_⟩
  · rw [isDirectoryNamed, isDirectory, named, Bool.and_self]
  · have fails := unnamed other member
    rw [Bool.not_eq_true'] at fails ⊢
    rw [isDirectoryNamed, fails, Bool.and_false]

/-- A directory of the name stands at the first entry that the name fits, or behind it. -/
theorem exists_first_of_isDirectoryNamed {folder : Entry}
    (found : entries.find? (isDirectoryNamed query) = some folder) :
    ∃ place entry, First query entries place entry ∧
      entries.find? (·.isNamed query) = some entry ∧
      ∃ later, place ≤ later ∧ entries[later]? = some folder ∧
        folder.isDirectory = true ∧ folder.Fits query := by
  have passes : isDirectoryNamed query folder = true := List.find?_some found
  obtain ⟨isDirectory, named⟩ := (Bool.and_eq_true _ _).mp passes
  obtain ⟨later, listed⟩ := List.mem_iff_getElem?.mp (List.mem_of_find?_eq_some found)
  have fits := isNamed_iff.mp named
  obtain ⟨place, le, entry, isFirst, first⟩ := exists_first listed fits
  exact ⟨place, entry, isFirst, first, later, le, listed, isDirectory, fits⟩

end Entry

theorem Directory.result_entries_ne_notFound (volume : Volume) (medium : Medium)
    (cluster : UInt32) : (entries volume cluster).run.result medium ≠ .error .notFound := by
  intro failed
  rw [(entries_eq_batch volume medium cluster).2, batch, contents] at failed
  dsimp only at failed
  split at failed
  · cases failed
  · split at failed
    · rcases Volume.result_chain_eq_error failed with ⟨cause, impossible⟩ | impossible <;>
        cases impossible
    · cases failed

namespace Filesystem

variable {medium : Medium} {fs : Filesystem} (mountable : Path.IsMountPoint fs.mountPoint)

section Last

variable {directory name : String} (stem : directory = "" ∨ Path.endsInSlash directory = true)
  (component : Path.IsComponent name)

include stem component

/-- A lookup walks along the path up to its last name, and looks for that among all entries. -/
theorem lookupOn_append :
    fs.lookupOn medium (directory ++ name) =
      match fs.resolveOn medium directory with
      | .ok above =>
        match fs.volume.firstOn medium above.cluster (·.isNamed name) with
        | .ok (some entry) => .ok entry
        | .ok none => .error .notFound
        | .error error => .error error
      | .error error => .error error := by
  have entryName : Path.isEntryName name = true := by
    simp [Path.isEntryName, component.nonempty, component.notSelf, component.notParent]
  unfold lookupOn
  rw [Path.splitLast_of_stem stem component.slashless]
  exact if_pos entryName

theorem lookupOn_append_eq_ok_iff {entry : Entry} :
    fs.lookupOn medium (directory ++ name) = .ok entry ↔
      ∃ above, fs.resolveOn medium directory = .ok above ∧
        ((fs.directory above.cluster).run.itemsOn medium).find? (·.isNamed name) = some entry := by
  rw [lookupOn_append stem component]
  cases fs.resolveOn medium directory with
  | error error => simp
  | ok above =>
    have found : fs.volume.firstOn medium above.cluster (·.isNamed name) = .ok (some entry) ↔
        ((fs.directory above.cluster).run.itemsOn medium).find? (·.isNamed name) = some entry :=
      Volume.firstOn_eq_ok_some_iff
    simp only [Except.ok.injEq, exists_eq_left']
    rw [← found]
    rcases fs.volume.firstOn medium above.cluster (·.isNamed name) with error | (_ | first) <;> simp

include mountable

theorem resolveOn_append (relative : (directory ++ name).toList.head? ≠ some '/') :
    fs.resolveOn medium (directory ++ name) =
      match fs.resolveOn medium directory with
      | .ok above => fs.stepOn medium above (.down name)
      | .error error => .error error := by
  have relativeStem : directory.toList.head? ≠ some '/' := by
    intro starts
    rw [String.toList_append, List.head?_append, starts] at relative
    exact relative rfl
  obtain ⟨before, up, whole⟩ := Path.exists_moves_append stem component
  rw [resolveOn_of_relative mountable.absolute relative,
    resolveOn_of_relative mountable.absolute relativeStem, up, whole, walkOn_append, walkOn_append]
  cases fs.walkOn medium fs.current before with
  | error error => rfl
  | ok above =>
    dsimp only
    rw [walkOn_singleton, walkOn_singleton]
    rfl

variable (relative : (directory ++ name).toList.head? ≠ some '/') {above location : Location}

include relative

theorem resolveOn_append_of_found (walked : fs.resolveOn medium directory = .ok above)
    {folder : Entry} (found : ((fs.directory above.cluster).run.itemsOn medium).find?
      (Entry.isDirectoryNamed name) = some folder) :
    fs.resolveOn medium (directory ++ name) = above.descend (fs.target folder) name := by
  rw [resolveOn_append mountable stem component relative, walked]
  exact stepOn_down ⟨folder, Volume.firstOn_eq_ok_some_iff.mpr found, rfl⟩

theorem exists_of_resolveOn_append
    (resolved : fs.resolveOn medium (directory ++ name) = .ok location) :
    ∃ above folder, fs.resolveOn medium directory = .ok above ∧
      ((fs.directory above.cluster).run.itemsOn medium).find? (Entry.isDirectoryNamed name) =
        some folder := by
  rw [resolveOn_append mountable stem component relative] at resolved
  cases walked : fs.resolveOn medium directory with
  | error error =>
    rw [walked] at resolved
    cases resolved
  | ok above =>
    rw [walked] at resolved
    cases stepOn_eq_ok_iff.mp resolved with
    | down found went => exact ⟨above, _, rfl, Volume.firstOn_eq_ok_some_iff.mp found⟩

end Last

include mountable

theorem resolveOn_empty : fs.resolveOn medium "" = .ok fs.current :=
  resolveOn_of_slashless mountable List.not_mem_nil

section Component

variable {name : String} (component : Path.IsComponent name)

include component

theorem lookupOn_component :
    fs.lookupOn medium name =
      match fs.volume.firstOn medium fs.current.cluster (·.isNamed name) with
      | .ok (some entry) => .ok entry
      | .ok none => .error .notFound
      | .error error => .error error := by
  have whole : fs.lookupOn medium ("" ++ name) = _ := lookupOn_append (.inl rfl) component
  rwa [String.empty_append, resolveOn_empty mountable] at whole

theorem lookupOn_component_eq_ok_iff {entry : Entry} :
    fs.lookupOn medium name = .ok entry ↔
      (fs.list.run.itemsOn medium).find? (·.isNamed name) = some entry := by
  have whole : fs.lookupOn medium ("" ++ name) = .ok entry ↔ _ :=
    lookupOn_append_eq_ok_iff (.inl rfl) component
  rw [String.empty_append, resolveOn_empty mountable] at whole
  simp only [Except.ok.injEq, exists_eq_left'] at whole
  exact whole

theorem lookupOn_component_eq_notFound_iff :
    fs.lookupOn medium name = .error .notFound ↔
      fs.list.run.result medium = .ok () ∧
        ∀ entry ∈ fs.list.run.itemsOn medium, ¬ entry.Fits name := by
  rw [← Entry.find?_isNamed_eq_none_iff]
  cases passes : (fs.list.run.itemsOn medium).find? (·.isNamed name) with
  | some entry =>
    rw [(lookupOn_component_eq_ok_iff mountable component).mpr passes]
    exact ⟨nofun, nofun⟩
  | none =>
    have complete : fs.list.run.result medium ≠ .error .notFound :=
      Directory.result_entries_ne_notFound fs.volume medium fs.current.cluster
    have missed : fs.volume.firstOn medium fs.current.cluster (·.isNamed name) =
        (fs.list.run.result medium).map fun _ => none := Volume.firstOn_of_none passes
    rw [lookupOn_component mountable component, missed]
    cases ended : fs.list.run.result medium with
    | ok => exact ⟨fun _ => ⟨rfl, rfl⟩, fun _ => rfl⟩
    | error error =>
      refine ⟨fun same => ?_, fun ⟨impossible, _⟩ => nomatch impossible⟩
      cases same
      exact absurd ended complete

end Component

end Filesystem

theorem Path.isComponent_of_ofString? {query : String} {short : ShortName}
    (slashless : '/' ∉ query.toList) (spelled : ShortName.ofString? query = some short) :
    Path.IsComponent query := by
  have unspelled (text : String) (nothing : ShortName.ofString? text = none) : query ≠ text := by
    rintro rfl
    rw [nothing] at spelled
    cases spelled
  exact ⟨unspelled "" (by decide), slashless, unspelled "." (by decide), unspelled ".." (by decide)⟩

/-- Whatever a listing shows can be looked up, by the name that is shown and by any spelling of its
short name, and the answer is the first entry of the listing that the query fits. No lookup answers
with anything else, and none says that there is no such entry unless the listing is complete and
the query fits nothing in it. -/
theorem lookups_agree_with_listing {medium : Medium} {fs : Filesystem} {ledger : Ledger}
    (reachable : Reachable medium fs ledger) :
    let entries := fs.list.run.itemsOn medium
    let ending := fs.list.run.result medium
    let found (query : String) := (fs.lookup query : Attempt Empty _).run.result medium
    let FindsFirst (query : String) (place : Nat) :=
      ∃ first ≤ place, ∃ answer, Entry.First query entries first answer ∧ found query = .ok answer
    (∀ place entry, entries[place]? = some entry →
      (Path.IsComponent entry.name → FindsFirst entry.name place) ∧
      ∀ query, '/' ∉ query.toList → ShortName.ofString? query = some entry.shortName →
        FindsFirst query place) ∧
    ∀ query, Path.IsComponent query →
      (∀ answer, found query = .ok answer → answer ∈ entries) ∧
      (found query = .error .notFound ↔
        ending = .ok () ∧ ∀ entry ∈ entries, ¬ entry.Fits query) := by
  have mountable := reachable.proper_mountPoint.1
  intro entries ending found FindsFirst
  have looked (query : String) : found query = fs.lookupOn medium query :=
    Filesystem.result_lookup medium fs query
  have finds {place : Nat} {entry : Entry} {query : String} (here : entries[place]? = some entry)
      (component : Path.IsComponent query) (fits : entry.Fits query) : FindsFirst query place := by
    obtain ⟨first, le, answer, isFirst, passes⟩ := Entry.exists_first here fits
    refine ⟨first, le, answer, isFirst, ?_⟩
    rw [looked]
    exact (Filesystem.lookupOn_component_eq_ok_iff mountable component).mpr passes
  constructor
  · intro place entry here
    refine ⟨fun component => finds here component (.inl rfl), fun query slashless spelled => ?_⟩
    exact finds here (Path.isComponent_of_ofString? slashless spelled) (.inr spelled)
  · intro query component
    rw [looked]
    refine ⟨fun answer answered => ?_,
      Filesystem.lookupOn_component_eq_notFound_iff mountable component⟩
    exact List.mem_of_find?_eq_some
      ((Filesystem.lookupOn_component_eq_ok_iff mountable component).mp answered)

/-- A device with the small volume. Its root directory holds the file `a`, a directory of the same
name, and the directory `b`, whose record names cluster 0 and thus the root directory. -/
def Volume.twinMedium : Medium := fun lba =>
  match lba.toNat with
  | 0 => .ok smallBoot
  | 1 => .ok (.ofList 512 [0xF8, 0xFF, 0xFF, 0x0F, 0xFF, 0xFF, 0xFF, 0x0F, 0xFF, 0xFF, 0xFF, 0x0F])
  | 2 => .ok (.ofList 512 (
      [0x41, 0x20, 0x20, 0x20, 0x20, 0x20, 0x20, 0x20, 0x20, 0x20, 0x20, 0x20] ++ .replicate 20 0 ++
      [0x41, 0x20, 0x20, 0x20, 0x20, 0x20, 0x20, 0x20, 0x20, 0x20, 0x20, 0x10] ++
      .replicate 14 0 ++ [3] ++ .replicate 5 0 ++
      [0x42, 0x20, 0x20, 0x20, 0x20, 0x20, 0x20, 0x20, 0x20, 0x20, 0x20, 0x10]))
  | _ => .error .readError

namespace Entry

def twinFile : Entry :=
  ⟨"a", ⟨#v[0x41, 0x20, 0x20, 0x20, 0x20, 0x20, 0x20, 0x20, 0x20, 0x20, 0x20]⟩, ⟨0x20⟩, 0, 0⟩

def twinFolder : Entry := { twinFile with attributes := ⟨0x10⟩, cluster := 3 }

def rootFolder : Entry :=
  ⟨"b", ⟨#v[0x42, 0x20, 0x20, 0x20, 0x20, 0x20, 0x20, 0x20, 0x20, 0x20, 0x20]⟩, ⟨0x10⟩, 0, 0⟩

end Entry

theorem Filesystem.reachable_twins :
    Reachable Volume.twinMedium ⟨.small, ⟨2, "/home", []⟩, .empty⟩ .empty :=
  .small rfl rfl (by decide)

/-- The directory `a` stands second, so its name finds the file in front of it. -/
theorem lookups_agree_with_listing_twins :
    let fs : Filesystem := ⟨.small, ⟨2, "/home", []⟩, .empty⟩
    let entries := fs.list.run.itemsOn Volume.twinMedium
    let found (query : String) := (fs.lookup query : Attempt Empty _).run.result Volume.twinMedium
    let FindsFirst (query : String) (place : Nat) :=
      ∃ first ≤ place, ∃ answer, Entry.First query entries first answer ∧ found query = .ok answer
    Reachable Volume.twinMedium fs .empty ∧
      entries[1]? = some .twinFolder ∧ Path.IsComponent Entry.twinFolder.name ∧
      '/' ∉ "A.".toList ∧ ShortName.ofString? "A." = some Entry.twinFolder.shortName ∧
      FindsFirst "a" 1 ∧ FindsFirst "A." 1 ∧
      Path.IsComponent "c" ∧ (∀ answer, found "c" = .ok answer → answer ∈ entries) ∧
      found "c" = .error .notFound := by
  intro fs entries found FindsFirst
  have listed : entries[1]? = some .twinFolder := by decide +kernel
  have complete : fs.list.run.result Volume.twinMedium = .ok () :=
    eq_ok_of_toOption (by decide +kernel)
  have unnamed : ∀ entry ∈ entries, entry.isNamed "c" = false := by decide +kernel
  have unfit : ∀ entry ∈ entries, ¬ entry.Fits "c" := by
    intro entry member fits
    have named := Entry.isNamed_iff.mpr fits
    rw [unnamed entry member] at named
    cases named
  have present : Path.IsComponent "a" := ⟨by decide, by decide, by decide, by decide⟩
  have absent : Path.IsComponent "c" := ⟨by decide, by decide, by decide, by decide⟩
  have spelled : ShortName.ofString? "A." = some Entry.twinFolder.shortName := by decide +kernel
  obtain ⟨shown, looked⟩ := lookups_agree_with_listing Filesystem.reachable_twins
  obtain ⟨byName, bySpelling⟩ := shown 1 _ listed
  obtain ⟨answers, missing⟩ := looked "c" absent
  exact ⟨Filesystem.reachable_twins, listed, present, by decide, spelled, byName present,
    bySpelling "A." (by decide) spelled, absent, answers, missing.mpr ⟨complete, unfit⟩⟩

/-- A path whose last component is a name can lead to an entry and to a directory. Where the entry
is a directory, the path leads to it, unless the path of the directory would be too long. Where it
leads to a directory, it leads to an entry. And where that entry is a file, the directory stands
behind it under the same name. -/
theorem lookup_agrees_with_resolve (medium : Medium) {fs : Filesystem}
    (mountable : Path.IsMountPoint fs.mountPoint) {directory name : String}
    (stem : directory = "" ∨ Path.endsInSlash directory = true)
    (component : Path.IsComponent name)
    (relative : (directory ++ name).toList.head? ≠ some '/') :
    let resolved (path : String) := (fs.resolve path : Attempt Empty _).run.result medium
    let found := (fs.lookup (directory ++ name) : Attempt Empty _).run.result medium
    let entries (above : Location) := (fs.directory above.cluster).run.itemsOn medium
    (∀ entry, found = .ok entry → entry.isDirectory = true →
      ∃ above, resolved directory = .ok above ∧
        let cluster := if entry.cluster = 0 then fs.volume.rootCluster else entry.cluster
        let below : Location := ⟨cluster, above.mountPoint, above.components ++ [name]⟩
        resolved (directory ++ name) =
          if Path.maxBytes < below.path.utf8ByteSize then .error .nameTooLong else .ok below) ∧
    (∀ location, resolved (directory ++ name) = .ok location → ∃ entry, found = .ok entry) ∧
    ∀ entry location, found = .ok entry → entry.isDirectory = false →
      resolved (directory ++ name) = .ok location →
      ∃ above place later folder, resolved directory = .ok above ∧
        Entry.First name (entries above) place entry ∧
        place < later ∧ (entries above)[later]? = some folder ∧
        folder.isDirectory = true ∧ folder.Fits name := by
  intro resolved found entries
  have walks (path : String) : resolved path = fs.resolveOn medium path :=
    Filesystem.result_resolve medium fs path
  have looked : found = fs.lookupOn medium (directory ++ name) :=
    Filesystem.result_lookup medium fs _
  have finds {entry : Entry} : found = .ok entry ↔ ∃ above, resolved directory = .ok above ∧
      (entries above).find? (·.isNamed name) = some entry := by
    rw [looked, walks]
    exact Filesystem.lookupOn_append_eq_ok_iff stem component
  have leads {location : Location} (answered : resolved (directory ++ name) = .ok location) :
      ∃ above folder, resolved directory = .ok above ∧
        (entries above).find? (Entry.isDirectoryNamed name) = some folder := by
    rw [walks] at answered ⊢
    exact Filesystem.exists_of_resolveOn_append mountable stem component relative answered
  refine ⟨?_, ?_, ?_⟩
  · intro entry answered isDirectory
    obtain ⟨above, walked, first⟩ := finds.mp answered
    refine ⟨above, walked, ?_⟩
    rw [walks] at walked ⊢
    exact Filesystem.resolveOn_append_of_found mountable stem component relative walked
      (Entry.find?_isDirectoryNamed first isDirectory)
  · intro location answered
    obtain ⟨above, folder, walked, found⟩ := leads answered
    obtain ⟨-, entry, -, first, -⟩ := Entry.exists_first_of_isDirectoryNamed found
    exact ⟨entry, finds.mpr ⟨above, walked, first⟩⟩
  · intro entry location answered isFile resolves
    obtain ⟨above, walked, first⟩ := finds.mp answered
    obtain ⟨_, folder, again, found⟩ := leads resolves
    cases walked.symm.trans again
    obtain ⟨place, _, isFirst, same, later, le, listed, isDirectory, fits⟩ :=
      Entry.exists_first_of_isDirectoryNamed found
    cases first.symm.trans same
    refine ⟨above, place, later, folder, walked, isFirst, ?_, listed, isDirectory, fits⟩
    refine Nat.lt_of_le_of_ne le ?_
    rintro rfl
    cases isFirst.here.symm.trans listed
    rw [isFile] at isDirectory
    cases isDirectory

/-- The path `b/b` leads to an entry and to a directory, which is the root directory again, and
`b/a` to the file `a` and to the directory behind it. -/
theorem lookup_agrees_with_resolve_twins :
    let fs : Filesystem := ⟨.small, ⟨2, "/home", []⟩, .empty⟩
    let resolved (path : String) :=
      (fs.resolve path : Attempt Empty _).run.result Volume.twinMedium
    let found (path : String) := (fs.lookup path : Attempt Empty _).run.result Volume.twinMedium
    let entries (above : Location) := (fs.directory above.cluster).run.itemsOn Volume.twinMedium
    Path.IsMountPoint fs.mountPoint ∧ Path.endsInSlash "b/" = true ∧
      Path.IsComponent "b" ∧ ("b/" ++ "b").toList.head? ≠ some '/' ∧
      found "b/b" = .ok .rootFolder ∧ Entry.rootFolder.isDirectory = true ∧
      (∃ above, resolved "b/" = .ok above ∧
        let below : Location := ⟨fs.volume.rootCluster, above.mountPoint, above.components ++ ["b"]⟩
        resolved "b/b" =
          if Path.maxBytes < below.path.utf8ByteSize then .error .nameTooLong else .ok below) ∧
      Path.IsComponent "a" ∧ ("b/" ++ "a").toList.head? ≠ some '/' ∧
      found "b/a" = .ok .twinFile ∧ Entry.twinFile.isDirectory = false ∧
      resolved "b/a" = .ok ⟨3, "/home", ["b", "a"]⟩ ∧
      ∃ above place later folder, resolved "b/" = .ok above ∧
        Entry.First "a" (entries above) place .twinFile ∧
        place < later ∧ (entries above)[later]? = some folder ∧
        folder.isDirectory = true ∧ folder.Fits "a" := by
  intro fs resolved found entries
  have mountable : Path.IsMountPoint fs.mountPoint :=
    Filesystem.reachable_twins.proper_mountPoint.1
  have stem : "b/" = "" ∨ Path.endsInSlash "b/" = true := .inr (by decide)
  have folder : Path.IsComponent "b" := ⟨by decide, by decide, by decide, by decide⟩
  have twin : Path.IsComponent "a" := ⟨by decide, by decide, by decide, by decide⟩
  have atRoot : found "b/b" = .ok .rootFolder := eq_ok_of_toOption (by decide +kernel)
  have atFile : found "b/a" = .ok .twinFile := eq_ok_of_toOption (by decide +kernel)
  have behind : resolved "b/a" = .ok ⟨3, "/home", ["b", "a"]⟩ :=
    eq_ok_of_toOption (by decide +kernel)
  have same : ("b/" ++ "b" : String) = "b/b" := by decide
  have other : ("b/" ++ "a" : String) = "b/a" := by decide
  obtain ⟨leads, -, -⟩ := lookup_agrees_with_resolve Volume.twinMedium mountable stem folder
    (by decide)
  obtain ⟨-, -, hides⟩ := lookup_agrees_with_resolve Volume.twinMedium mountable stem twin
    (by decide)
  rw [same] at leads
  rw [other] at hides
  exact ⟨mountable, by decide, folder, by decide, atRoot, rfl, leads _ atRoot rfl, twin, by decide,
    atFile, rfl, behind, hides _ _ atFile rfl behind⟩

end Fat32
