import EntityScaffold.Proofs.OutputPaths.Apart

/-
Outputs that two runs share. Two placements below the same root, with the same extensions and with
controllers below the top level, put outputs of different kinds in different places. Outputs of one
kind share their place when the controllers do; the routing files, which forget where the namespace
ends and which letters are capitals, share theirs when their formats and their stems are the same.
-/

namespace EntityScaffold

open Text

namespace EntityName

/-- A stem holds no dot: it comes from a text in which each dot was replaced. -/
theorem dot_not_mem_fileStem (dotted : String) : '.' ∉ (fileStem dotted).toList := by
  rw [fileStem, String.toList_ofList]
  intro member
  exact not_mem_replaceChar (by decide) _ (mem_of_mem_lower member (by decide)).1

end EntityName

namespace OutputPaths

theorem controllerFile_inj {left right : String} {extensions : Extensions} :
    controllerFile left extensions = controllerFile right extensions ↔ left = right := by
  unfold controllerFile
  rw [String.append_left_inj, String.append_left_inj]

theorem testFile_inj {left right : String} {extensions : Extensions} :
    testFile left extensions = testFile right extensions ↔ left = right := by
  unfold testFile
  rw [String.append_left_inj, String.append_left_inj]

theorem routingFile_inj {left right : String} {leftFormat rightFormat : RoutingFormat} :
    routingFile left leftFormat = routingFile right rightFormat ↔
      EntityName.fileStem left = EntityName.fileStem right ∧ leftFormat = rightFormat := by
  constructor
  · intro same
    have chars := congrArg String.toList same
    simp only [routingFile, String.toList_append, List.append_assoc] at chars
    have pieces := congrArg (splitWhere (· == '.')) chars
    have dot : ".".toList = ['.'] := rfl
    have isDot : (fun char => char == '.') '.' = true := rfl
    have whole (dotted : String) : splitWhere (· == '.') (EntityName.fileStem dotted).toList =
        [(EntityName.fileStem dotted).toList] :=
      splitWhere_of_none fun char member => beq_eq_false_iff_ne.mpr fun same =>
        EntityName.dot_not_mem_fileStem dotted (same ▸ member)
    simp only [dot, List.singleton_append, splitWhere_append_separated (· == '.') isDot, whole,
      List.cons.injEq] at pieces
    refine ⟨String.toList_injective pieces.1, ?_⟩
    have endings := pieces.2
    revert endings
    cases leftFormat <;> cases rightFormat <;> decide
  · rintro ⟨stems, formats⟩
    unfold routingFile
    rw [stems, formats]

end OutputPaths

namespace Placement

variable {left right : Placement}

/-- Two placements with the same extensions, whose controllers lie below the top level. -/
structure Compares (left right : Placement) : Prop where
  extensions : left.extensions = right.extensions
  left : ControllerDir.IsInTopLevel left.controllerDir
  right : ControllerDir.IsInTopLevel right.controllerDir

theorem folders_eq_cons {placement : Placement}
    (inside : ControllerDir.IsInTopLevel placement.controllerDir) :
    placement.folders = ControllerDir.topLevel :: placement.viewFolders := by
  have mapped := congrArg (List.map String.ofList) inside.folders_eq
  rw [List.map_cons, String.ofList_toList] at mapped
  unfold folders viewFolders ControllerDir.folderNames
  rw [mapped, List.cons_append]
  rfl

namespace Compares

/-- The views and the controllers of two placements lie in the same folders together. -/
theorem folders_eq_iff (compares : left.Compares right) :
    left.folders = right.folders ↔ left.viewFolders = right.viewFolders := by
  rw [folders_eq_cons compares.left, folders_eq_cons compares.right, List.cons.injEq]
  exact and_iff_right rfl

theorem controller_eq_iff (compares : left.Compares right) :
    left.names .controller = right.names .controller ↔
      left.folders = right.folders ∧ left.name.className = right.name.className := by
  unfold names
  rw [compares.extensions]
  constructor
  · intro same
    obtain ⟨folders, files⟩ := List.append_inj' same rfl
    exact ⟨folders, OutputPaths.controllerFile_inj.mp (List.singleton_inj.mp files)⟩
  · rintro ⟨folders, classes⟩
    rw [folders, classes]

theorem test_eq_iff (compares : left.Compares right) :
    left.names .test = right.names .test ↔
      left.folders = right.folders ∧ left.name.className = right.name.className := by
  unfold names
  rw [compares.extensions]
  constructor
  · intro same
    obtain ⟨folders, files⟩ := List.append_inj' (List.cons.inj same).2 rfl
    exact ⟨folders, OutputPaths.testFile_inj.mp (List.singleton_inj.mp files)⟩
  · rintro ⟨folders, classes⟩
    rw [folders, classes]

theorem view_eq_iff (compares : left.Compares right) (view other : View) :
    left.names (.view view) = right.names (.view other) ↔
      view = other ∧ left.folders = right.folders ∧
        left.name.className = right.name.className := by
  rw [compares.folders_eq_iff]
  constructor
  · intro same
    obtain ⟨viewDirs, files⟩ := List.append_inj' same rfl
    obtain ⟨folders, classes⟩ := List.append_inj' (List.cons.inj (List.cons.inj viewDirs).2).2 rfl
    refine ⟨?_, folders, List.singleton_inj.mp classes⟩
    have texts := List.singleton_inj.mp files
    rw [compares.extensions, String.append_left_inj] at texts
    revert texts
    cases view <;> cases other <;> decide
  · rintro ⟨views, folders, classes⟩
    unfold names viewDirNames
    rw [views, folders, classes, compares.extensions]

theorem routing_eq_iff {left right : Placement} :
    left.names .routing = right.names .routing ↔
      EntityName.fileStem left.entity = EntityName.fileStem right.entity ∧
        left.format = right.format := by
  rw [← OutputPaths.routingFile_inj]
  simp only [names, List.cons.injEq, true_and, and_true]

/-- Outputs of different kinds have different places: they differ in the first or second name. -/
theorem output_eq_of_names_eq (compares : left.Compares right) {output other : Output}
    (same : left.names output = right.names other) : output = other := by
  have tests : ControllerDir.topLevel ≠ "Tests" := by decide
  have resources : ControllerDir.topLevel ≠ "Resources" := by decide
  have apart : "Tests" ≠ "Resources" := by decide
  have below : "views" ≠ "config" := by decide
  have leftFolders := folders_eq_cons compares.left
  have rightFolders := folders_eq_cons compares.right
  have heads := congrArg List.head? same
  have seconds := congrArg (fun names => names[1]?) same
  cases output with
  | controller =>
      cases other with
      | controller => rfl
      | view view => simp [names, viewDirNames, leftFolders, resources] at heads
      | test => simp [names, leftFolders, tests] at heads
      | routing => simp [names, leftFolders, resources] at heads
  | view view =>
      cases other with
      | controller => simp [names, viewDirNames, rightFolders, resources.symm] at heads
      | view other => rw [((compares.view_eq_iff view other).mp same).1]
      | test => simp [names, viewDirNames] at heads
      | routing => simp [names, viewDirNames] at seconds
  | test =>
      cases other with
      | controller => simp [names, rightFolders, tests.symm] at heads
      | view view => simp [names, viewDirNames] at heads
      | test => rfl
      | routing => simp [names] at heads
  | routing =>
      cases other with
      | controller => simp [names, rightFolders, resources.symm] at heads
      | view view => simp [names, viewDirNames] at seconds
      | test => simp [names] at heads
      | routing => rfl

/-- Two outputs other than routing files share a place only if they are of one kind, and then the
controllers share theirs. -/
theorem names_eq_iff_controller (compares : left.Compares right) {output other : Output}
    (guarded : output ≠ .routing) :
    left.names output = right.names other ↔
      output = other ∧ left.names .controller = right.names .controller := by
  have ofSame : ∀ kind : Output, kind ≠ .routing →
      (left.names kind = right.names kind ↔
        left.names .controller = right.names .controller) := by
    intro kind notRouting
    rw [compares.controller_eq_iff]
    cases kind with
    | controller => exact compares.controller_eq_iff
    | view view => rw [compares.view_eq_iff view view, and_iff_right rfl]
    | test => exact compares.test_eq_iff
    | routing => exact absurd rfl notRouting
  constructor
  · intro same
    have kinds := compares.output_eq_of_names_eq same
    subst kinds
    exact ⟨rfl, (ofSame _ guarded).mp same⟩
  · rintro ⟨kinds, controllers⟩
    subst kinds
    exact (ofSame _ guarded).mpr controllers

end Compares

end Placement

/-! ### Resolved paths -/

namespace OutputPaths

/-- The files that the check for a controller guards: the controller, the test and the views. -/
def guarded (paths : OutputPaths) : List Path :=
  [paths.controller, paths.test] ++ View.all.map paths.view

def filePaths (paths : OutputPaths) : List Path := paths.guarded ++ paths.routing.toList

variable {root path : Path} {paths left right : OutputPaths}
  {placement leftPlacement rightPlacement : Placement}

theorem IsLaidOut.mem_guarded_iff (laidOut : paths.IsLaidOut root placement) :
    path ∈ paths.guarded ↔
      ∃ output, output ≠ .routing ∧ path = root.descend (placement.names output) := by
  constructor
  · intro member
    rcases List.mem_append.mp member with first | isView
    · rcases List.mem_cons.mp first with isController | isTest
      · exact ⟨.controller, by decide, isController.trans laidOut.controller⟩
      · exact ⟨.test, by decide, (List.mem_singleton.mp isTest).trans laidOut.test⟩
    · obtain ⟨view, _, same⟩ := List.mem_map.mp isView
      exact ⟨.view view, by simp, same.symm.trans (laidOut.view view)⟩
  · rintro ⟨output, guarded, same⟩
    subst same
    cases output with
    | controller => exact laidOut.controller ▸ List.mem_cons_self
    | test => exact laidOut.test ▸ List.mem_cons_of_mem _ List.mem_cons_self
    | view view =>
        rw [← laidOut.view view]
        exact List.mem_append_right _ (List.mem_map_of_mem (by cases view <;> decide))
    | routing => exact absurd rfl guarded

theorem IsLaidOut.routing_eq_some_iff (laidOut : paths.IsLaidOut root placement) :
    paths.routing = some path ↔
      placement.format ≠ .annotations ∧ path = root.descend (placement.names .routing) := by
  rw [laidOut.routing]
  cases placement.format <;> simp [RoutingFormat.hasFile, eq_comm]

theorem mem_filePaths_iff :
    path ∈ paths.filePaths ↔ path ∈ paths.guarded ∨ paths.routing = some path := by
  rw [filePaths, List.mem_append, Option.mem_toList]

/-- A guarded file is shared just when the controllers are. -/
theorem exists_shared_guarded_iff (compares : leftPlacement.Compares rightPlacement)
    (onLeft : left.IsLaidOut root leftPlacement) (onRight : right.IsLaidOut root rightPlacement) :
    (∃ path ∈ left.guarded, path ∈ right.guarded) ↔ left.controller = right.controller := by
  rw [onLeft.controller, onRight.controller, Path.descend_inj]
  constructor
  · rintro ⟨path, inLeft, inRight⟩
    obtain ⟨output, guarded, place⟩ := onLeft.mem_guarded_iff.mp inLeft
    obtain ⟨other, _, otherPlace⟩ := onRight.mem_guarded_iff.mp inRight
    have same := Path.descend_inj.mp (place.symm.trans otherPlace)
    exact ((compares.names_eq_iff_controller guarded).mp same).2
  · intro same
    exact ⟨_, onLeft.mem_guarded_iff.mpr ⟨.controller, by decide, rfl⟩,
      onRight.mem_guarded_iff.mpr ⟨.controller, by decide, by rw [same]⟩⟩

/-- Beside guarded files only the routing file can be shared. -/
theorem guarded_or_routing_of_shared (compares : leftPlacement.Compares rightPlacement)
    (onLeft : left.IsLaidOut root leftPlacement) (onRight : right.IsLaidOut root rightPlacement)
    (inLeft : path ∈ left.filePaths) (inRight : path ∈ right.filePaths) :
    (path ∈ left.guarded ∧ path ∈ right.guarded) ∨
      (left.routing = some path ∧ right.routing = some path) := by
  have place {paths : OutputPaths} {placement : Placement}
      (laidOut : paths.IsLaidOut root placement) (member : path ∈ paths.filePaths) :
      ∃ output, path = root.descend (placement.names output) ∧
        if output = .routing then paths.routing = some path else path ∈ paths.guarded := by
    rcases mem_filePaths_iff.mp member with guarded | routing
    · obtain ⟨output, notRouting, same⟩ := laidOut.mem_guarded_iff.mp guarded
      exact ⟨output, same, by rwa [if_neg notRouting]⟩
    · exact ⟨.routing, (laidOut.routing_eq_some_iff.mp routing).2, routing⟩
  obtain ⟨output, outputPlace, kind⟩ := place onLeft inLeft
  obtain ⟨other, otherPlace, otherKind⟩ := place onRight inRight
  have same := Path.descend_inj.mp (outputPlace.symm.trans otherPlace)
  have kinds := compares.output_eq_of_names_eq same
  subst kinds
  by_cases routing : output = .routing
  · rw [if_pos routing] at kind otherKind
    exact Or.inr ⟨kind, otherKind⟩
  · rw [if_neg routing] at kind otherKind
    exact Or.inl ⟨kind, otherKind⟩

theorem exists_shared_routing_iff
    (onLeft : left.IsLaidOut root leftPlacement) (onRight : right.IsLaidOut root rightPlacement) :
    (∃ path, left.routing = some path ∧ right.routing = some path) ↔
      leftPlacement.format = rightPlacement.format ∧ leftPlacement.format ≠ .annotations ∧
        EntityName.fileStem leftPlacement.entity = EntityName.fileStem rightPlacement.entity := by
  constructor
  · rintro ⟨path, inLeft, inRight⟩
    obtain ⟨hasFile, place⟩ := onLeft.routing_eq_some_iff.mp inLeft
    obtain ⟨_, otherPlace⟩ := onRight.routing_eq_some_iff.mp inRight
    have same := Path.descend_inj.mp (place.symm.trans otherPlace)
    obtain ⟨stems, formats⟩ := Placement.Compares.routing_eq_iff.mp same
    exact ⟨formats, hasFile, stems⟩
  · rintro ⟨formats, hasFile, stems⟩
    have same := Placement.Compares.routing_eq_iff.mpr ⟨stems, formats⟩
    refine ⟨_, onLeft.routing_eq_some_iff.mpr ⟨hasFile, rfl⟩, ?_⟩
    exact onRight.routing_eq_some_iff.mpr ⟨formats ▸ hasFile, by rw [same]⟩

end OutputPaths

end EntityScaffold
