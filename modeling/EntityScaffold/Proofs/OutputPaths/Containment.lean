import EntityScaffold.Proofs.OutputPaths.Layout

/-
Containment. The outputs of a run lie below the root of the bundle unless the name of the entity
begins with a dot. A name or a namespace that begins with a dot is a text that begins with a
separator, so that joining it forgets the bundle: the controller and the test follow the namespace,
and the views follow the name when no directory of views stands in front of it.
-/

namespace EntityScaffold

open Text

namespace Path

theorem IsBelow.descend {path base : Path} {names : List String} (below : path.IsBelow base)
    (down : ".." ∉ names) : (path.descend names).IsBelow base := by
  obtain ⟨root, first, someLeft, firstDown, parts⟩ := below
  refine ⟨root, first ++ names, List.append_ne_nil_of_left_ne_nil someLeft names, ?_, ?_⟩
  · rw [List.mem_append, not_or]
    exact ⟨firstDown, down⟩
  · rw [descend_parts, parts, List.append_assoc]

theorem IsBelow.join_isName {path base : Path} {name : String} (below : path.IsBelow base)
    (isName : IsName name.toList) : (path.join name).IsBelow base := by
  rw [join_of_isComponent isName.1]
  refine below.descend ?_
  rw [List.mem_singleton]
  exact isName.ne_up.symm

/-- A path that nothing leads up from lies below another one just when it is put in something within
that one. -/
theorem isBelow_descend_singleton_iff {path base : Path} {name : String}
    (down : ".." ∉ path.parts) (nameDown : name ≠ "..") :
    (path.descend [name]).IsBelow base ↔ path.IsWithin base := by
  constructor
  · rintro ⟨root, names, someLeft, _, parts⟩
    refine ⟨root, ?_⟩
    obtain ⟨front, last, split⟩ := (List.eq_nil_or_concat names).resolve_left someLeft
    rw [descend_parts, split, List.concat_eq_append, ← List.append_assoc] at parts
    exact ⟨front, (List.append_inj' parts rfl).1.symm⟩
  · rintro ⟨root, names, parts⟩
    refine ⟨root, names ++ [name], List.append_ne_nil_of_right_ne_nil names (List.cons_ne_nil _ _),
      ?_, ?_⟩
    · rw [List.mem_append, List.mem_singleton, not_or]
      refine ⟨fun member => down ?_, nameDown.symm⟩
      rw [← parts]
      exact List.mem_append_right _ member
    · rw [descend_parts, ← parts, List.append_assoc]

theorem isBelow_iff_parent_isWithin {path base : Path} (someLeft : path.parts ≠ [])
    (down : ".." ∉ path.parts) : path.IsBelow base ↔ path.parent.IsWithin base := by
  obtain ⟨front, last, split⟩ := (List.eq_nil_or_concat path.parts).resolve_left someLeft
  rw [List.concat_eq_append] at split
  have whole : path.parent.descend [last] = path := by
    rw [parent, descend, split, List.dropLast_concat, ← split]
  have parentDown : ".." ∉ path.parent.parts := fun member =>
    down ((List.dropLast_sublist path.parts).subset member)
  have lastDown : last ≠ ".." := by
    intro same
    apply down
    rw [split, same]
    exact List.mem_append_right front (List.mem_singleton.mpr rfl)
  have moved : (path.parent.descend [last]).IsBelow base ↔ path.parent.IsWithin base :=
    isBelow_descend_singleton_iff parentDown lastDown
  rwa [whole] at moved

end Path

namespace EntityName

/-- Joining a dotted text that begins with a dot leads to the path of that text. -/
theorem join_asPath_of_dot {dotted : String} (plain : '/' ∉ dotted.toList)
    (dot : dotted.toList.head? = some '.') (base : Path) :
    base.join (asPath dotted) = Path.ofString (asPath dotted) :=
  Path.join_of_absolute ((asPath_head?_eq_slash_iff plain).mpr dot) base

theorem parts_ofString_asPath (dotted : String) :
    (Path.ofString (asPath dotted)).parts = folders dotted := by
  rw [folders, Path.ofString]

theorem up_not_mem_folders {dotted : String} (plain : '/' ∉ dotted.toList) :
    ".." ∉ folders dotted := by
  intro member
  exact (inside_of_mem_folders plain member).2.1 (by decide)

/-- A file in the directory of a dotted text lies below a root if the text is seen from below that
root, or leads within it by itself. -/
theorem join_asPath_isBelow_iff {dotted : String} {base root : Path} {name : String}
    (plain : '/' ∉ dotted.toList) (below : base.IsBelow root) (isName : Path.IsName name.toList) :
    ((base.join (asPath dotted)).join name).IsBelow root ↔
      (dotted.toList.head? = some '.' → (Path.ofString (asPath dotted)).IsWithin root) := by
  have foldersDown := up_not_mem_folders plain
  rw [Path.join_of_isComponent isName.1]
  by_cases dot : dotted.toList.head? = some '.'
  · have partsDown : ".." ∉ (Path.ofString (asPath dotted)).parts := by
      rw [parts_ofString_asPath]
      exact foldersDown
    rw [join_asPath_of_dot plain dot, Path.isBelow_descend_singleton_iff partsDown isName.ne_up]
    exact ⟨fun within _ => within, fun within => within dot⟩
  · rw [join_asPath plain dot]
    have nameSingle : ".." ∉ [name] := by
      rw [List.mem_singleton]
      exact isName.ne_up.symm
    exact ⟨fun _ impossible => absurd impossible dot,
      fun _ => (below.descend foldersDown).descend nameSingle⟩

end EntityName

namespace OutputPaths

variable {root : Path} {entity controllerDir : String} {format : RoutingFormat}
  {extensions : Extensions} {paths : OutputPaths}

theorem up_not_mem_folderNames (written : String) : ".." ∉ ControllerDir.folderNames written := by
  intro member
  exact ControllerDir.dot_not_mem_of_mem_folderNames member (by decide)

theorem isBelow_join_of_isName {name : String} (isName : Path.IsName name.toList) (base : Path) :
    (base.join name).IsBelow base := by
  rw [Path.join_of_isComponent isName.1]
  refine Path.isBelow_descend (List.cons_ne_nil _ _) ?_
  rw [List.mem_singleton]
  exact isName.ne_up.symm

theorem isBelow_join_normalize (controllerDir : String) {base : Path}
    (within : base = root ∨ base.IsBelow root) :
    (base.join (ControllerDir.normalize controllerDir)).IsBelow root := by
  rw [ControllerDir.join_normalize]
  have down := up_not_mem_folderNames controllerDir
  have someFolder : ControllerDir.folderNames controllerDir ≠ [] := by
    rw [ControllerDir.folderNames, ne_eq, List.map_eq_nil_iff]
    exact ControllerDir.folders_ne_nil controllerDir
  rcases within with same | below
  · rw [same]
    exact Path.isBelow_descend someFolder down
  · exact below.descend down

theorem up_not_mem_viewFolderNames (written : String) :
    ".." ∉ ControllerDir.viewFolderNames written := fun member =>
  up_not_mem_folderNames written (ControllerDir.mem_folderNames_of_mem_viewFolderNames member)

/-- The directory of the views lies below a root if a directory of views stands in front of the name
of the entity, if that name begins with no dot, or if it leads below the root by itself. -/
theorem join_viewSubDir_isBelow_iff (controllerDir : String) {base : Path} {name : EntityName}
    (split : EntityName.split? entity = some name) (plain : '/' ∉ entity.toList)
    (below : base.IsBelow root) :
    (base.join (ControllerDir.viewSubDir (ControllerDir.normalize controllerDir) ++
        EntityName.asPath entity)).IsBelow root ↔
      (entity.toList.head? = some '.' → ControllerDir.normalize controllerDir = ControllerDir.topLevel →
        (Path.ofString (EntityName.asPath entity)).parent.IsWithin root) := by
  by_cases absolute : entity.toList.head? = some '.' ∧
      ControllerDir.normalize controllerDir = ControllerDir.topLevel
  · obtain ⟨dot, top⟩ := absolute
    have nothing : ControllerDir.viewSubDir (ControllerDir.normalize controllerDir) = "" := by
      apply String.toList_inj.mp
      rw [ControllerDir.viewSubDir_normalize_toList, ControllerDir.viewFolders_eq_nil_iff.mpr top]
      rfl
    have someLeft : (Path.ofString (EntityName.asPath entity)).parts ≠ [] := by
      rw [EntityName.parts_ofString_asPath, EntityName.folders_of_split? split plain]
      exact List.append_ne_nil_of_right_ne_nil _ (List.cons_ne_nil _ _)
    have down : ".." ∉ (Path.ofString (EntityName.asPath entity)).parts := by
      rw [EntityName.parts_ofString_asPath]
      exact EntityName.up_not_mem_folders plain
    rw [nothing, String.empty_append, EntityName.join_asPath_of_dot plain dot,
      Path.isBelow_iff_parent_isWithin someLeft down]
    exact ⟨fun within _ _ => within, fun within => within dot top⟩
  · have relative : ControllerDir.viewFolders controllerDir = [] →
        (EntityName.asPath entity).toList.head? ≠ some '/' := fun none slash =>
      absolute ⟨(EntityName.asPath_head?_eq_slash_iff plain).mp slash,
        ControllerDir.viewFolders_eq_nil_iff.mp none⟩
    rw [ControllerDir.join_viewSubDir_append relative]
    have down : ".." ∉ ControllerDir.viewFolderNames controllerDir ++ EntityName.folders entity := by
      rw [List.mem_append, not_or]
      exact ⟨up_not_mem_viewFolderNames controllerDir, EntityName.up_not_mem_folders plain⟩
    exact ⟨fun _ dot top => absurd ⟨dot, top⟩ absolute, fun _ => below.descend down⟩

section Resolved

variable (resolved : resolve? root entity controllerDir format extensions = some paths)
  (plain : '/' ∉ entity.toList)

include resolved

include plain in
theorem controller_isBelow_iff (sourceExtension : '/' ∉ extensions.source.toList) :
    paths.controller.IsBelow root ↔
      (paths.entity.nameSpace.toList.head? = some '.' →
        (Path.ofString (EntityName.asPath paths.entity.nameSpace)).IsWithin root) := by
  obtain ⟨split, same⟩ := eq_of_resolve? resolved
  have directory := isBelow_join_normalize controllerDir (.inl (rfl : root = root))
  have below := EntityName.join_asPath_isBelow_iff (EntityName.slash_not_mem_nameSpace split plain)
    directory (isName_controllerFile (EntityName.slash_not_mem_className split plain) sourceExtension)
  have controller := congrArg OutputPaths.controller same
  dsimp only at controller
  rwa [← controller] at below

include plain in
theorem test_isBelow_iff (sourceExtension : '/' ∉ extensions.source.toList) :
    paths.test.IsBelow root ↔
      (paths.entity.nameSpace.toList.head? = some '.' →
        (Path.ofString (EntityName.asPath paths.entity.nameSpace)).IsWithin root) := by
  obtain ⟨split, same⟩ := eq_of_resolve? resolved
  have tests : (root.join "Tests").IsBelow root := isBelow_join_of_isName (by decide) root
  have directory := isBelow_join_normalize controllerDir (.inr tests)
  have below := EntityName.join_asPath_isBelow_iff (EntityName.slash_not_mem_nameSpace split plain)
    directory (isName_testFile (EntityName.slash_not_mem_className split plain) sourceExtension)
  have test := congrArg OutputPaths.test same
  dsimp only at test
  rwa [← test] at below

include plain in
theorem viewDir_isBelow_iff :
    paths.viewDir.IsBelow root ↔
      (entity.toList.head? = some '.' →
        ControllerDir.normalize controllerDir = ControllerDir.topLevel →
        (Path.ofString (EntityName.asPath entity)).parent.IsWithin root) := by
  obtain ⟨split, same⟩ := eq_of_resolve? resolved
  have resources : (root.join "Resources").IsBelow root := isBelow_join_of_isName (by decide) root
  have views : Path.IsName "views".toList := by decide
  have below := join_viewSubDir_isBelow_iff controllerDir split plain (resources.join_isName views)
  have viewDir := congrArg OutputPaths.viewDir same
  dsimp only at viewDir
  rwa [← viewDir] at below

theorem view_isBelow (viewExtension : '/' ∉ extensions.view.toList)
    (viewDir : paths.viewDir.IsBelow root) (view : View) : (paths.view view).IsBelow root := by
  have isName := isName_viewFile view viewExtension
  have extension := congrArg OutputPaths.viewExtension (eq_of_resolve? resolved).2
  rw [OutputPaths.view, extension]
  exact viewDir.join_isName isName

include plain in
theorem routing_isBelow {path : Path} (member : path ∈ paths.routing) : path.IsBelow root := by
  have resources : (root.join "Resources").IsBelow root := isBelow_join_of_isName (by decide) root
  rw [congrArg OutputPaths.routing (eq_of_resolve? resolved).2] at member
  split at member
  · rw [← Option.mem_some_iff.mp member]
    exact ((resources.join_isName (by decide)).join_isName (by decide)).join_isName
      (isName_routingFile format plain)
  · cases member

end Resolved

/-- All outputs of a run lie below the root of the bundle, unless the namespace begins with a dot
and leads elsewhere, or the name does and no directory of views stands in front of it. -/
theorem outputs_isBelow_iff
    (resolved : resolve? root entity controllerDir format extensions = some paths)
    (plain : '/' ∉ entity.toList) (sourceExtension : '/' ∉ extensions.source.toList)
    (viewExtension : '/' ∉ extensions.view.toList) :
    (∀ path ∈ paths.outputs, path.IsBelow root) ↔
      (paths.entity.nameSpace.toList.head? = some '.' →
        (Path.ofString (EntityName.asPath paths.entity.nameSpace)).IsWithin root) ∧
      (entity.toList.head? = some '.' →
        ControllerDir.normalize controllerDir = ControllerDir.topLevel →
        (Path.ofString (EntityName.asPath entity)).parent.IsWithin root) := by
  constructor
  · intro allBelow
    have controller : paths.controller.IsBelow root := allBelow _ (by simp [outputs])
    have viewDir : paths.viewDir.IsBelow root := allBelow _ (by simp [outputs])
    exact ⟨(controller_isBelow_iff resolved plain sourceExtension).mp controller,
      (viewDir_isBelow_iff resolved plain).mp viewDir⟩
  · rintro ⟨nameSpace, name⟩ path member
    have viewDir := (viewDir_isBelow_iff resolved plain).mpr name
    simp only [outputs, List.mem_append, List.mem_cons, List.not_mem_nil, or_false, List.mem_map,
      Option.mem_toList] at member
    rcases member with ((isController | isTest | isViewDir) | ⟨view, _, isView⟩) | isRouting
    · rw [isController]
      exact (controller_isBelow_iff resolved plain sourceExtension).mpr nameSpace
    · rw [isTest]
      exact (test_isBelow_iff resolved plain sourceExtension).mpr nameSpace
    · rw [isViewDir]
      exact viewDir
    · rw [← isView]
      exact view_isBelow resolved viewExtension viewDir view
    · exact routing_isBelow resolved plain isRouting

/-- The controller of `.Blog.Post` is written beside the bundle, not below it. -/
theorem outputs_of_leading_dot_escape :
    ∃ paths, resolve? (.ofString "/src/BlogBundle") ".Blog.Post" ControllerDir.topLevel .yaml {} =
        some paths ∧
      ¬∀ path ∈ paths.outputs, path.IsBelow (.ofString "/src/BlogBundle") := by
  have split : EntityName.split? ".Blog.Post" = some ⟨".Blog", "Post"⟩ := by decide
  obtain ⟨paths, resolved⟩ := Option.isSome_iff_exists.mp
    (isSome_resolve? (.ofString "/src/BlogBundle") ControllerDir.topLevel .yaml {} split)
  refine ⟨paths, resolved, fun allBelow => ?_⟩
  have conditions :=
    (outputs_isBelow_iff resolved (by decide) (by decide) (by decide)).mp allBelow
  have name : paths.entity = ⟨".Blog", "Post"⟩ :=
    Option.some.inj ((eq_of_resolve? resolved).1.symm.trans split)
  rw [name] at conditions
  have outside : ¬(Path.ofString (EntityName.asPath ".Blog")).IsWithin
      (.ofString "/src/BlogBundle") := by decide
  exact outside (conditions.1 (by decide))

end OutputPaths

end EntityScaffold
