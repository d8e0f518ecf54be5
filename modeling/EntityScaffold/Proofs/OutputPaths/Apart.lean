import EntityScaffold.Proofs.OutputPaths.Layout

/-
The outputs of a run stand apart. Neither is the place of one output that of another, nor does one
stand where a directory above another has to be. The controller directory is free, so that the
controller may stand among the views or the tests; what keeps it apart there is that the views repeat
the folders of the controller two names further down, and the tests one name further down.
-/

namespace EntityScaffold

open Text

namespace Placement

variable {placement : Placement}

/-! ### Names of folders and of files -/

theorem dot_not_mem_of_mem_folders (sound : placement.IsSound) {name : String}
    (member : name ∈ placement.folders) : '.' ∉ name.toList := by
  rcases List.mem_append.mp member with inDirectory | inNameSpace
  · exact ControllerDir.dot_not_mem_of_mem_folderNames inDirectory
  · have plain := EntityName.slash_not_mem_nameSpace sound.split sound.plain
    exact (EntityName.inside_of_mem_folders plain inNameSpace).2.1

theorem folders_eq_viewFolders (placement : Placement) :
    placement.folders = placement.viewFolders ∨
      placement.folders = ControllerDir.topLevel :: placement.viewFolders := by
  unfold folders viewFolders
  rcases ControllerDir.folderNames_eq_viewFolderNames placement.controllerDir with same | headed
  · exact Or.inl (by rw [same])
  · exact Or.inr (by rw [headed, List.cons_append])

theorem length_folders_le (placement : Placement) :
    placement.viewFolders.length ≤ placement.folders.length ∧
      placement.folders.length ≤ placement.viewFolders.length + 1 := by
  rcases placement.folders_eq_viewFolders with same | headed
  · rw [same]
    omega
  · rw [headed, List.length_cons]
    omega

theorem capital_not_mem_routingFile (entity : String) (format : RoutingFormat) :
    'C' ∉ (OutputPaths.routingFile entity format).toList := by
  have ending : 'C' ∉ format.text.toList := by cases format <;> decide
  have stem : 'C' ∉ (EntityName.fileStem entity).toList := by
    rw [EntityName.fileStem, String.toList_ofList]
    exact capital_not_mem_lower _
  simp only [OutputPaths.routingFile, String.toList_append, List.mem_append, not_or]
  exact ⟨⟨stem, by decide⟩, ending⟩

theorem dot_mem_routingFile (entity : String) (format : RoutingFormat) :
    '.' ∈ (OutputPaths.routingFile entity format).toList := by
  have dot : '.' ∈ ".".toList := by decide
  simp only [OutputPaths.routingFile, String.toList_append, List.mem_append]
  exact Or.inl (Or.inr dot)

/-- The file of the controller has none of the names without a capital C. -/
theorem controllerFile_ne {className name : String} {extensions : Extensions}
    (small : 'C' ∉ name.toList) : OutputPaths.controllerFile className extensions ≠ name := by
  intro same
  apply small
  rw [← same]
  exact OutputPaths.capital_mem_controllerFile className extensions

/-! ### No output obstructs another -/

/-- A file behind some folders is not met on the way that starts elsewhere and then repeats the
folders: the way holds the file less often. -/
private theorem not_prefix_of_repeated (folders front behind : List String) {file : String}
    (someFront : front ≠ []) (absent : file ∉ front) :
    ¬(folders ++ [file]) <+: (front ++ folders ++ behind) := by
  intro obstructs
  have within : (folders ++ [file]) <+: (front ++ folders) := by
    refine List.prefix_of_prefix_length_le obstructs (List.prefix_append _ _) ?_
    have longer := List.length_pos_iff.mpr someFront
    simp only [List.length_append, List.length_singleton]
    omega
  have counted := within.sublist.count_le file
  rw [List.count_append, List.count_append, List.count_eq_zero_of_not_mem absent,
    List.count_singleton_self] at counted
  omega

theorem controller_not_prefix_test (placement : Placement) :
    ¬placement.names .controller <+: placement.names .test := by
  have absent : OutputPaths.controllerFile placement.name.className placement.extensions ∉
      ["Tests"] := by
    rw [List.mem_singleton]
    exact controllerFile_ne (by decide)
  exact not_prefix_of_repeated placement.folders ["Tests"]
    [OutputPaths.testFile placement.name.className placement.extensions] (List.cons_ne_nil _ _)
    absent

theorem controller_not_prefix_viewDir (placement : Placement) (file : String) :
    ¬placement.names .controller <+: placement.viewDirNames ++ [file] := by
  rcases placement.folders_eq_viewFolders with same | headed
  · have absent : OutputPaths.controllerFile placement.name.className placement.extensions ∉
        ["Resources", "views"] := by
      rw [List.mem_cons, List.mem_singleton, not_or]
      exact ⟨controllerFile_ne (by decide), controllerFile_ne (by decide)⟩
    have apart := not_prefix_of_repeated placement.folders ["Resources", "views"]
      [placement.name.className, file] (List.cons_ne_nil _ _) absent
    rw [viewDirNames, ← same]
    simpa [names] using apart
  · rw [names, headed, viewDirNames, List.cons_append, List.cons_append, List.cons_prefix_cons]
    intro obstructs
    have different : ControllerDir.topLevel ≠ "Resources" := by decide
    exact different obstructs.1

theorem controller_not_prefix_routing (placement : Placement) :
    ¬placement.names .controller <+: placement.names .routing := by
  intro obstructs
  have member : OutputPaths.controllerFile placement.name.className placement.extensions ∈
      placement.names .routing := by
    refine obstructs.subset ?_
    exact List.mem_append_right _ (List.mem_singleton.mpr rfl)
  have small : ∀ name ∈ placement.names .routing, 'C' ∉ name.toList := by
    intro name listed
    simp only [names, List.mem_cons, List.not_mem_nil, or_false] at listed
    rcases listed with same | same | same | same
    · rw [same]; decide
    · rw [same]; decide
    · rw [same]; decide
    · rw [same]; exact capital_not_mem_routingFile _ _
  exact controllerFile_ne (small _ member) rfl

theorem routing_not_prefix_controller (sound : placement.IsSound) :
    ¬placement.names .routing <+: placement.names .controller := by
  intro obstructs
  have member : OutputPaths.routingFile placement.entity placement.format ∈
      placement.names .controller := by
    refine obstructs.subset ?_
    simp [names]
  rcases List.mem_append.mp member with folder | file
  · exact dot_not_mem_of_mem_folders sound folder (dot_mem_routingFile _ _)
  · exact controllerFile_ne (capital_not_mem_routingFile _ _) (List.mem_singleton.mp file).symm

theorem view_not_prefix_controller (placement : Placement) (view : View) :
    ¬placement.names (.view view) <+: placement.names .controller := by
  intro obstructs
  have lengths := obstructs.length_le
  have bound := placement.length_folders_le.2
  simp only [names, viewDirNames, List.length_append, List.length_cons, List.length_nil] at lengths
  omega

theorem view_eq_of_obstructs {left right : View}
    (obstructs : placement.names (.view left) <+: placement.names (.view right)) :
    left = right := by
  have same := obstructs.eq_of_length (by simp [names])
  have files := (List.append_inj' same rfl).2
  have texts : left.text.toList ++ placement.extensions.view.toList =
      right.text.toList ++ placement.extensions.view.toList := by
    have joined := congrArg String.toList (List.singleton_inj.mp files)
    rwa [String.toList_append, String.toList_append] at joined
  have letters := List.append_cancel_right texts
  revert letters
  cases left <;> cases right <;> decide

/-- No output stands at the place of another one, or where a directory above it has to be. -/
theorem not_prefix_of_ne (sound : placement.IsSound) (left right : Output)
    (different : left ≠ right) : ¬placement.names left <+: placement.names right := by
  have testsFirst : "Tests" ≠ "Resources" := by decide
  have viewsSecond : "views" ≠ "config" := by decide
  intro obstructs
  cases left with
  | controller =>
      cases right with
      | controller => exact different rfl
      | view view => exact placement.controller_not_prefix_viewDir _ obstructs
      | test => exact placement.controller_not_prefix_test obstructs
      | routing => exact placement.controller_not_prefix_routing obstructs
  | view view =>
      cases right with
      | controller => exact placement.view_not_prefix_controller view obstructs
      | view other => exact different (congrArg Output.view (view_eq_of_obstructs obstructs))
      | test => exact testsFirst (List.cons_prefix_cons.mp obstructs).1.symm
      | routing =>
          exact viewsSecond (List.cons_prefix_cons.mp (List.cons_prefix_cons.mp obstructs).2).1
  | test =>
      cases right with
      | controller =>
          have lengths := obstructs.length_le
          simp only [names, List.length_append, List.length_cons, List.length_nil] at lengths
          omega
      | view view => exact testsFirst (List.cons_prefix_cons.mp obstructs).1
      | test => exact different rfl
      | routing => exact testsFirst (List.cons_prefix_cons.mp obstructs).1
  | routing =>
      cases right with
      | controller => exact routing_not_prefix_controller sound obstructs
      | view view =>
          exact viewsSecond
            (List.cons_prefix_cons.mp (List.cons_prefix_cons.mp obstructs).2).1.symm
      | test => exact testsFirst (List.cons_prefix_cons.mp obstructs).1.symm
      | routing => exact different rfl

/-- No output stands at the place of the directory of the views, or above it. -/
theorem not_prefix_viewDir (sound : placement.IsSound) (output : Output) :
    ¬placement.names output <+: placement.viewDirNames := by
  intro obstructs
  cases output with
  | view view =>
      have lengths := obstructs.length_le
      simp only [names, List.length_append, List.length_cons, List.length_nil] at lengths
      omega
  | controller | test | routing =>
      exact not_prefix_of_ne sound _ (.view .index) (by decide)
        (obstructs.trans (List.prefix_append _ _))

/-! ### Directories on the way -/

/-- Names that lead to a directory above an output, in which no output stands in the way. -/
structure IsOnTheWay (placement : Placement) (front : List String) : Prop where
  before : ∃ output, front <+: placement.names output
  clear : ∀ output, ¬placement.names output <+: front

theorem names_ne_nil (placement : Placement) (output : Output) : placement.names output ≠ [] := by
  cases output <;> simp [names, viewDirNames]

theorem isOnTheWay_dropLast (sound : placement.IsSound) (output : Output) :
    placement.IsOnTheWay (placement.names output).dropLast := by
  refine ⟨⟨output, List.dropLast_prefix _⟩, fun other obstructs => ?_⟩
  by_cases same : other = output
  · have lengths := obstructs.length_le
    have filled := List.length_pos_iff.mpr (placement.names_ne_nil output)
    rw [same, List.length_dropLast] at lengths
    omega
  · exact not_prefix_of_ne sound other output same (obstructs.trans (List.dropLast_prefix _))

theorem isOnTheWay_viewDirNames (sound : placement.IsSound) :
    placement.IsOnTheWay placement.viewDirNames :=
  ⟨⟨.view .index, List.prefix_append _ _⟩, not_prefix_viewDir sound⟩

end Placement

end EntityScaffold
