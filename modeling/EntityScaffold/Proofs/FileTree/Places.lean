import EntityScaffold.FileTree.Access
import EntityScaffold.Proofs.Path.Descent

/-
Places in a file tree. A path that can be followed leads to one location, whatever tree it is followed
in; the tree only decides whether the directories on the way are there. A path without components
that lead up is followed just when it is not too long and each location above its own is that of a
directory.
-/

namespace EntityScaffold

namespace Location

/-- The location of a name seen from a directory. -/
def enter (directory : Location) (name : String) : Location :=
  if name = ".." then directory.above else directory ++ [name]

theorem foldl_enter (directory : Location) {names : List String} (down : ".." ∉ names) :
    names.foldl enter directory = directory ++ names := by
  induction names generalizing directory with
  | nil => exact (List.append_nil directory).symm
  | cons name rest ih =>
      have first : name ≠ ".." := fun same => down (same ▸ List.mem_cons_self)
      have later : ".." ∉ rest := fun member => down (List.mem_cons_of_mem name member)
      rw [List.foldl_cons, enter, if_neg first, ih _ later, List.append_assoc, List.singleton_append]

theorem isGiven_top : isGiven top = true := by decide

theorem isGiven_nil : isGiven [] = true := by decide

end Location

namespace Path

def start (path : Path) : Location := if path.isAbsolute then Location.top else []

def location (path : Path) : Location := path.parts.foldl Location.enter path.start

/-- A path that the file system takes: neither it nor one of its components is too long. -/
structure Fits (path : Path) : Prop where
  whole : path.toString.utf8ByteSize ≤ FileTree.longestPath
  each : ∀ part ∈ path.parts, part.utf8ByteSize ≤ FileTree.longestName

instance (path : Path) : Decidable path.Fits :=
  decidable_of_iff (path.toString.utf8ByteSize ≤ FileTree.longestPath ∧
      ∀ part ∈ path.parts, part.utf8ByteSize ≤ FileTree.longestName)
    ⟨fun both => ⟨both.1, both.2⟩, fun fits => ⟨fits.whole, fits.each⟩⟩

theorem isGiven_start (path : Path) : path.start.isGiven = true := by
  unfold start
  split
  · exact Location.isGiven_top
  · exact Location.isGiven_nil

theorem location_eq {path : Path} (down : ".." ∉ path.parts) :
    path.location = path.start ++ path.parts := Location.foldl_enter path.start down

theorem start_descend (base : Path) (names : List String) :
    (base.descend names).start = base.start := rfl

theorem location_descend {base : Path} {names : List String} (down : ".." ∉ names) :
    (base.descend names).location = base.location ++ names := by
  unfold location
  rw [descend_parts, List.foldl_append, start_descend]
  exact Location.foldl_enter _ down

theorem parent_parts (path : Path) : path.parent.parts = path.parts.dropLast := rfl

theorem start_parent (path : Path) : path.parent.start = path.start := rfl

theorem up_not_mem_parent {path : Path} (down : ".." ∉ path.parts) : ".." ∉ path.parent.parts :=
  fun member => down ((List.dropLast_sublist path.parts).subset member)

/-- The locations of the directories on the way to a path, and its own. -/
def ways (path : Path) : List Location := path.withDirectories.map location

theorem mem_ways_iff {path : Path} {target : Location} :
    target ∈ path.ways ↔
      ∃ length ≤ path.parts.length, target = location ⟨path.root, path.parts.take length⟩ := by
  simp only [ways, withDirectories, List.map_map, List.mem_map, List.mem_range, Function.comp,
    Nat.lt_succ_iff]
  exact exists_congr fun length => and_congr_right fun _ => eq_comm

theorem location_mem_ways (path : Path) : path.location ∈ path.ways :=
  mem_ways_iff.mpr ⟨path.parts.length, Nat.le_refl _, by rw [List.take_length]⟩

theorem ways_parent_subset (path : Path) : path.parent.ways ⊆ path.ways := by
  intro target member
  obtain ⟨length, bound, same⟩ := mem_ways_iff.mp member
  rw [parent_parts, List.length_dropLast] at bound
  refine mem_ways_iff.mpr ⟨length, by omega, ?_⟩
  have taken : path.parts.dropLast.take length = path.parts.take length := by
    rw [List.dropLast_eq_take, List.take_take, Nat.min_eq_left bound]
  rw [same, parent_parts, taken]
  rfl

/-- The directories on the way to a path that leads down stand above its location. -/
theorem prefix_of_mem_ways {path : Path} (down : ".." ∉ path.parts) {target : Location}
    (member : target ∈ path.ways) : target <+: path.location := by
  obtain ⟨length, _, same⟩ := mem_ways_iff.mp member
  have front : ".." ∉ path.parts.take length := fun up => down (List.mem_of_mem_take up)
  have place : location ⟨path.root, path.parts.take length⟩ =
      path.start ++ path.parts.take length := location_eq front
  rw [same, place, location_eq down]
  exact (List.prefix_append_right_inj path.start).mpr (List.take_prefix length path.parts)

theorem parent_descend (base : Path) {names : List String} (someNames : names ≠ []) :
    (base.descend names).parent = base.descend names.dropLast := by
  rw [parent, descend, List.dropLast_append_of_ne_nil someNames, descend]

theorem parent_descend_singleton (base : Path) (name : String) :
    (base.descend [name]).parent = base := by
  rw [parent, descend, List.dropLast_concat]

end Path

namespace FileTree

/-! ### What stands at a location -/

theorem get?_of_isGiven {location : Location} (given : location.isGiven = true) (tree : FileTree) :
    tree.get? location = some .directory := by
  rw [get?, given, if_pos rfl]

theorem get?_put_self {location : Location} (notGiven : location.isGiven = false) (tree : FileTree)
    (node : FileNode) : (tree.put location node).get? location = some node := by
  simp [get?, put, notGiven]

theorem lookup_filter_ne (entries : List (Location × FileNode)) {location other : Location}
    (different : other ≠ location) :
    (entries.filter fun entry => entry.1 != location).lookup other = entries.lookup other := by
  induction entries with
  | nil => rfl
  | cons entry rest ih =>
      obtain ⟨place, node⟩ := entry
      by_cases dropped : place = location
      · have passed : (other == place) = false := by
          rw [dropped]
          exact beq_eq_false_iff_ne.mpr different
        rw [List.filter_cons_of_neg (by simp [dropped]), ih, List.lookup_cons, passed]
      · rw [List.filter_cons_of_pos (by simp [dropped]), List.lookup_cons, List.lookup_cons, ih]

theorem get?_put_of_ne {location other : Location} (different : other ≠ location) (tree : FileTree)
    (node : FileNode) : (tree.put location node).get? other = tree.get? other := by
  have passed : (other == location) = false := beq_eq_false_iff_ne.mpr different
  have rest := lookup_filter_ne tree.entries different
  simp only [get?, put, List.lookup_cons, passed, rest]

/-! ### Following paths -/

/-- A path that can be followed leads to its location. -/
theorem eq_of_follow_eq_ok {tree : FileTree} {directory location : Location} {names : List String}
    (followed : tree.follow directory names = .ok location) :
    location = names.foldl Location.enter directory := by
  induction names generalizing directory with
  | nil =>
      rw [follow] at followed
      exact (Except.ok.inj followed).symm
  | cons name rest ih =>
      rw [follow] at followed
      rw [List.foldl_cons, Location.enter]
      split at followed
      · cases followed
      · split at followed
        · next up =>
          rw [if_pos up]
          exact ih followed
        · next notUp =>
          rw [if_neg notUp]
          dsimp only at followed
          split at followed
          · next last =>
            rw [List.isEmpty_iff.mp last]
            exact (Except.ok.inj followed).symm
          · split at followed
            · cases followed
            · cases followed
            · exact ih followed

theorem locate_eq_follow (tree : FileTree) (path : Path) :
    tree.locate path =
      if longestPath < path.toString.utf8ByteSize then .error .nameTooLong
      else tree.follow path.start path.parts := by
  by_cases absolute : path.isAbsolute = true
  · simp [locate, Path.start, absolute]
  · simp [locate, Path.start, absolute]

theorem eq_location_of_locate_eq_ok {tree : FileTree} {path : Path} {location : Location}
    (located : tree.locate path = .ok location) : location = path.location := by
  rw [locate_eq_follow] at located
  split at located
  · cases located
  · exact eq_of_follow_eq_ok located

/-- What is done with the place that a path leads to is done with its location. -/
theorem bind_locate_eq_ok_iff {α : Type} {tree : FileTree} {path : Path}
    {next : Location → Except SystemError α} {value : α} :
    tree.locate path >>= next = .ok value ↔
      tree.locate path = .ok path.location ∧ next path.location = .ok value := by
  cases located : tree.locate path with
  | error error => simp [bind, Except.bind]
  | ok location =>
      rw [← eq_location_of_locate_eq_ok located]
      simp [bind, Except.bind]

theorem lookup_eq_ok_iff {tree : FileTree} {path : Path} {node : FileNode} :
    tree.lookup path = .ok node ↔
      tree.locate path = .ok path.location ∧ tree.get? path.location = some node := by
  unfold lookup
  rw [bind_locate_eq_ok_iff]
  cases tree.get? path.location <;>
    simp [pure, Except.pure, throw, throwThe, MonadExceptOf.throw]

/-- The locations between a directory and the last of some names are those of directories. -/
def Passes (tree : FileTree) (directory : Location) (names : List String) : Prop :=
  ∀ front behind, names = front ++ behind → front ≠ [] → behind ≠ [] →
    tree.get? (directory ++ front) = some .directory

theorem passes_singleton (tree : FileTree) (directory : Location) (name : String) :
    tree.Passes directory [name] := by
  intro front behind split someFront someBehind
  have lengths := congrArg List.length split
  have frontLength := List.length_pos_iff.mpr someFront
  have behindLength := List.length_pos_iff.mpr someBehind
  simp only [List.length_append, List.length_singleton] at lengths
  omega

theorem passes_cons_cons {tree : FileTree} {directory : Location} {name next : String}
    {more : List String} :
    tree.Passes directory (name :: next :: more) ↔
      tree.get? (directory ++ [name]) = some .directory ∧
        tree.Passes (directory ++ [name]) (next :: more) := by
  constructor
  · intro passes
    refine ⟨passes [name] (next :: more) rfl (List.cons_ne_nil _ _) (List.cons_ne_nil _ _), ?_⟩
    intro front behind split _ someBehind
    have deeper := passes (name :: front) behind (by rw [split]; rfl) (List.cons_ne_nil _ _) someBehind
    rwa [List.append_assoc, List.singleton_append]
  · rintro ⟨standing, passes⟩ front behind split someFront someBehind
    cases front with
    | nil => exact absurd rfl someFront
    | cons head front =>
        rw [List.cons_append, List.cons.injEq] at split
        rw [← split.1]
        by_cases nothing : front = []
        · rw [nothing]
          exact standing
        · have deeper := passes front behind split.2 nothing someBehind
          rwa [List.append_assoc, List.singleton_append] at deeper

theorem follow_singleton {name : String} (down : name ≠ "..") (tree : FileTree)
    (directory : Location) :
    tree.follow directory [name] =
      if longestName < name.utf8ByteSize then .error .nameTooLong
      else .ok (directory ++ [name]) := by
  rw [follow, if_neg down]
  rfl

theorem follow_cons_cons {name : String} (down : name ≠ "..") (tree : FileTree)
    (directory : Location) (next : String) (more : List String) :
    tree.follow directory (name :: next :: more) =
      if longestName < name.utf8ByteSize then .error .nameTooLong
      else match tree.get? (directory ++ [name]) with
        | none => .error .notFound
        | some (.file _) => .error .notDirectory
        | some .directory => tree.follow (directory ++ [name]) (next :: more) := by
  rw [follow, if_neg down]
  rfl

/-- Names that lead down are followed just when none is too long and each location on the way is
that of a directory. -/
theorem follow_eq_ok_iff {tree : FileTree} {directory location : Location} {names : List String}
    (down : ".." ∉ names) :
    tree.follow directory names = .ok location ↔
      (∀ name ∈ names, name.utf8ByteSize ≤ longestName) ∧ tree.Passes directory names ∧
        location = directory ++ names := by
  induction names generalizing directory with
  | nil =>
      have passes : tree.Passes directory [] := fun front behind split someFront =>
        absurd (List.append_eq_nil_iff.mp split.symm).1 someFront
      simp [follow, passes, eq_comm]
  | cons name rest ih =>
      have first : name ≠ ".." := fun same => down (same ▸ List.mem_cons_self)
      have later : ".." ∉ rest := fun member => down (List.mem_cons_of_mem name member)
      -- the last name is not looked up, only measured
      cases rest with
      | nil =>
          rw [follow_singleton first]
          simp only [List.mem_singleton, forall_eq, tree.passes_singleton, true_and]
          split
          · next long => simp; omega
          · next short =>
            constructor
            · intro same
              exact ⟨by omega, (Except.ok.inj same).symm⟩
            · rintro ⟨_, same⟩
              rw [same]
      | cons next more =>
          rw [follow_cons_cons first, passes_cons_cons, List.forall_mem_cons]
          split
          · next long => simp; omega
          · next short =>
            cases standing : tree.get? (directory ++ [name]) with
            | none => simp
            | some node =>
                cases node with
                | file content => simp
                | directory =>
                    rw [ih later, List.append_assoc, List.singleton_append]
                    simp only [true_and]
                    constructor
                    · rintro ⟨shorter, passes, same⟩
                      exact ⟨⟨by omega, shorter⟩, passes, same⟩
                    · rintro ⟨⟨_, shorter⟩, passes, same⟩
                      exact ⟨shorter, passes, same⟩

/-- When no file stands on the way and no name is too long, following names can only fail because a
directory is missing. -/
theorem error_of_follow_eq_error {tree : FileTree} {directory : Location} {names : List String}
    {error : SystemError} (down : ".." ∉ names)
    (short : ∀ name ∈ names, name.utf8ByteSize ≤ longestName)
    (noFile : ∀ front, front <+: names → ∀ content,
      tree.get? (directory ++ front) ≠ some (.file content))
    (failed : tree.follow directory names = .error error) : error = .notFound := by
  induction names generalizing directory with
  | nil => cases failed
  | cons name rest ih =>
      have first : name ≠ ".." := fun same => down (same ▸ List.mem_cons_self)
      have later : ".." ∉ rest := fun member => down (List.mem_cons_of_mem name member)
      obtain ⟨bound, shorter⟩ := List.forall_mem_cons.mp short
      have noFileLater : ∀ front, front <+: rest → ∀ content,
          tree.get? (directory ++ [name] ++ front) ≠ some (.file content) := by
        intro front isPrefix
        have whole := noFile (name :: front) (List.cons_prefix_cons.mpr ⟨rfl, isPrefix⟩)
        rwa [List.append_assoc, List.singleton_append]
      cases rest with
      | nil =>
          rw [follow_singleton first, if_neg (Nat.not_lt.mpr bound)] at failed
          cases failed
      | cons next more =>
          rw [follow_cons_cons first, if_neg (Nat.not_lt.mpr bound)] at failed
          have here := noFile [name] (List.cons_prefix_cons.mpr ⟨rfl, List.nil_prefix⟩)
          split at failed
          · exact (Except.error.inj failed).symm
          · next content standing => exact absurd standing (here content)
          · exact ih later shorter noFileLater failed

/-- A path that leads down is found just when the file system takes it and each location on the way
is that of a directory. -/
theorem locate_eq_ok_iff {tree : FileTree} {path : Path} {location : Location}
    (down : ".." ∉ path.parts) :
    tree.locate path = .ok location ↔
      path.Fits ∧ tree.Passes path.start path.parts ∧ location = path.location := by
  rw [locate_eq_follow, Path.location_eq down]
  split
  · next long =>
    constructor
    · intro impossible
      cases impossible
    · rintro ⟨fits, _⟩
      have bound := fits.whole
      omega
  · next short =>
    rw [follow_eq_ok_iff down]
    constructor
    · rintro ⟨each, passes, same⟩
      exact ⟨⟨Nat.not_lt.mp short, each⟩, passes, same⟩
    · rintro ⟨fits, passes, same⟩
      exact ⟨fits.each, passes, same⟩

end FileTree

end EntityScaffold
