import EntityScaffold.Proofs.FileTree.Growth
import EntityScaffold.Proofs.Path.Descent
import EntityScaffold.Rendering

/-
What runs ask of the engine that renders skeletons. An engine may do anything, so a result about runs
says which of two properties it relies on: rendering leaves the tree alone, and rendering again, with
the same skeletons at hand, gives the same text. The packaged library has both properties, and so have
the libraries of the simple engine.

A run asks for each skeleton once. So an engine that draws lots is one engine in one run and perhaps
another one in the next, and rendering again compares two libraries.
-/

namespace EntityScaffold

namespace Library

variable {library again : Library} {reads : List String → Prop} {before middle after : FileTree}
  {locations written made : List Location}

def KeepsTree (library : Library) : Prop :=
  ∀ tree skeleton bindings, library.treeAfter tree skeleton bindings = tree

/-- The path of a file in the directory of a library, by the names that lead to it from there. -/
def source? (library : Library) (names : List String) : Option Path :=
  match library with
  | .packaged => none
  | .directory path _ => path.toPath?.map (·.descend names)

/-- Under some names, two trees have the same skeletons for a library. -/
def SameSkeletons (library : Library) (reads : List String → Prop) (before after : FileTree) : Prop :=
  ∀ names, reads names → ∀ source ∈ library.source? names, ∀ content,
    before.readContent source = .ok content ↔ after.readContent source = .ok content

/-- A library that reads skeletons under some names only is repeated by another one: what it renders,
the other one renders too wherever those skeletons are the same. -/
def IsRepeatedBy (library again : Library) (reads : List String → Prop) : Prop :=
  ∀ before after, library.SameSkeletons reads before after → ∀ skeleton bindings text,
    library.renderText before skeleton bindings = .ok text →
      again.renderText after skeleton bindings = .ok text

/-- Some locations are apart from the skeletons of a library: none is the place of one, and every
skeleton that stands in its place can be read there. -/
structure IsApartFrom (library : Library) (reads : List String → Prop) (tree : FileTree)
    (locations : List Location) : Prop where
  unwritten : ∀ names, reads names → ∀ source ∈ library.source? names, source.location ∉ locations
  readable : ∀ names, reads names → ∀ source ∈ library.source? names, ∀ content,
    tree.get? source.location = some (.file content) → tree.readContent source = .ok content

namespace SameSkeletons

theorem symm (same : library.SameSkeletons reads before after) :
    library.SameSkeletons reads after before := fun names isRead source given content =>
  (same names isRead source given content).symm

theorem trans (first : library.SameSkeletons reads before middle)
    (second : library.SameSkeletons reads middle after) :
    library.SameSkeletons reads before after := fun names isRead source given content =>
  (first names isRead source given content).trans (second names isRead source given content)

end SameSkeletons

/-- When only locations that are apart from the skeletons are written, the skeletons stay the same. -/
theorem IsApartFrom.sameSkeletons (apart : library.IsApartFrom reads before locations)
    (grown : before.Grows after written made) (within : written ⊆ locations) :
    library.SameSkeletons reads before after := by
  intro names isRead source given content
  have unwritten : source.location ∉ written := fun member =>
    apart.unwritten names isRead source given (within member)
  constructor
  · exact grown.readContent_eq_ok unwritten
  · intro held
    obtain ⟨_, _, standing⟩ := FileTree.readContent_eq_ok_iff.mp held
    exact apart.readable names isRead source given content
      (grown.get?_eq_some_file_of_after unwritten standing)

/-! ### The packaged library -/

theorem packaged_keepsTree : Library.packaged.KeepsTree := fun _ _ _ => rfl

theorem keepsTree_of_packaged (packaged : library = .packaged) : library.KeepsTree :=
  packaged ▸ packaged_keepsTree

theorem packaged_isRepeatedBy (reads : List String → Prop) :
    Library.packaged.IsRepeatedBy .packaged reads := fun _ _ _ _ _ _ rendered => rendered

/-! ### The simple engine -/

theorem simple_keepsTree (path : CodePath) : (Library.directory path .simple).KeepsTree :=
  fun _ _ _ => rfl

theorem readFile_congr {path : Path}
    (same : ∀ content, before.readContent path = .ok content ↔ after.readContent path = .ok content) :
    Engine.readFile before path = Engine.readFile after path := by
  unfold Engine.readFile
  cases held : before.readContent path with
  | ok content => rw [(same content).mp held]
  | error error =>
      cases heldAfter : after.readContent path with
      | error other => rfl
      | ok content =>
          rw [(same content).mpr heldAfter] at held
          cases held

theorem up_not_mem_fileParts {name : String} {parts : List String}
    (found : Skeleton.fileParts? name = some parts) : ".." ∉ parts := by
  unfold Skeleton.fileParts? at found
  dsimp only at found
  split at found
  · cases found
  · next inside =>
    rw [← Option.some.inj found]
    intro member
    obtain ⟨piece, listed, same⟩ := List.mem_map.mp member
    have up : piece = ['.', '.'] := by
      rw [← String.toList_ofList (l := piece), same]
      rfl
    exact inside (List.contains_iff_mem.mpr (up ▸ (List.mem_filter.mp listed).1))

/-- The simple engine reads nothing but files below its directory. -/
theorem simple_isRepeatedBy (path : CodePath) :
    (Library.directory path .simple).IsRepeatedBy (.directory path .simple) (".." ∉ ·) := by
  intro before after same skeleton bindings text rendered
  have sources : Engine.source path before = Engine.source path after := by
    funext name
    unfold Engine.source
    cases unicode : path.toPath? with
    | none => rfl
    | some directory =>
        cases found : Skeleton.fileParts? name with
        | none => rfl
        | some parts =>
            have given : directory.descend parts ∈ (Library.directory path .simple).source? parts := by
              rw [source?, unicode]
              exact rfl
            have files := readFile_congr (same parts (up_not_mem_fileParts found) _ given)
            change (Engine.readFile before (directory.descend parts) >>= Skeleton.read) =
              (Engine.readFile after (directory.descend parts) >>= Skeleton.read)
            rw [files]
  change (Skeleton.renderNamed (Engine.source path after) skeleton bindings).mapError _ = _
  rw [← sources]
  exact rendered

end Library

end EntityScaffold
