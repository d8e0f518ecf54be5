import EntityScaffold.Proofs.Generation.Declarations
import EntityScaffold.Proofs.Generation.Templates

/-
What routes lead to. A routing file names the method that answers a route by a bundle, a controller
and an action; the controller is looked for in the name space of the top-level controller directory of
the bundle. The reference is made of the entity alone, while the class is declared in the name space
of the controller directory. So routes lead to the class just when that directory is the top level.
-/

namespace EntityScaffold

open Generated
open Text (joinWith replaceChar splitWhere)
open FileTree (perform)

/-! ### Names of classes -/

/-- A class in a name space; the names in an empty name space stand for themselves. -/
def inNameSpace (nameSpace : String) (inner : List Char) : List Char :=
  if nameSpace.toList = [] then inner
  else replaceChar '.' '\x5c' nameSpace.toList ++ '\x5c' :: inner

theorem inNameSpace_inj {nameSpace : String} {first second : List Char} :
    inNameSpace nameSpace first = inNameSpace nameSpace second ↔ first = second := by
  unfold inNameSpace
  split
  · exact Iff.rfl
  · rw [List.append_cancel_left_eq, List.cons_inj_right]

/-- A method as a routing file refers to it. -/
structure MethodReference where
  bundle : List Char
  controller : List Char
  action : List Char
  deriving DecidableEq

namespace MethodReference

def ofChars? (chars : List Char) : Option MethodReference :=
  match splitWhere (· == ':') chars with
  | [bundle, controller, action] => some ⟨bundle, controller, action⟩
  | _ => none

/-- The full name of the class that is asked for the method. -/
def className (nameSpace : String) (reference : MethodReference) : List Char :=
  inNameSpace nameSpace ("Controller".toList ++ '\x5c' ::
    (replaceChar '/' '\x5c' reference.controller ++ "Controller".toList))

/-- The reference to an action, as the routing file of a request makes it. -/
def ofAction (request : GenerationRequest) (action : Action) : MethodReference where
  bundle := request.bundle.name.toList
  controller := (EntityName.asPath request.entity).toList
  action := action.letters

end MethodReference

/-- The methods that answer the routes of a file. -/
def routedMethods (format : RoutingFormat) (text : List Char) : List MethodReference :=
  (DeclaredRoute.inFile format text).filterMap fun route => MethodReference.ofChars? route.2

variable {plan : GenerationPlan}

/-! ### What the routing file refers to -/

theorem MethodReference.ofChars?_answering (plain : plan.HasPlainNames) (action : Action) :
    ofChars? (DeclaredRoute.answering plan action) = some (ofAction plan.request action) := by
  have isMark : (fun char : Char => char == ':') ':' = true := rfl
  have whole {text : List Char} (absent : ':' ∉ text) : splitWhere (· == ':') text = [text] :=
    Text.splitWhere_of_none fun char member => beq_eq_false_iff_ne.mpr fun same =>
      absent (same ▸ member)
  have path : ':' ∉ (EntityName.asPath plan.request.entity).toList := by
    rw [EntityName.asPath_toList]
    intro member
    rcases Text.mem_replaceChar member with same | inEntity
    · revert same
      decide
    · exact plain.entity.not_mem (by decide) inEntity
  have word : ':' ∉ action.letters := by
    cases action <;> decide
  rw [ofChars?, DeclaredRoute.answering,
    Text.splitWhere_append_separated (fun char => char == ':') isMark,
    Text.splitWhere_append_separated (fun char => char == ':') isMark, whole path, whole word,
    whole (plain.bundle.not_mem (by decide))]
  rfl

theorem routedMethods_of_routing (plain : plan.HasPlainNames) (inFile : plan.format.hasFile = true)
    {file : PlannedFile} (listed : file ∈ plan.routingFiles) :
    routedMethods plan.format file.text =
      plan.actions.actions.map (MethodReference.ofAction plan.request) := by
  obtain ⟨path, _, same⟩ := List.mem_map.mp listed
  obtain ⟨text, rendered, declared⟩ := exists_routing_file plain inFile .empty
  have isText : file.text = text := by
    subst same
    exact PlannedFile.text_eq rendered
  have each (action : Action) : ((fun route : DeclaredRoute × List Char =>
      MethodReference.ofChars? route.2) ∘ fun action => (DeclaredRoute.ofAction plan action,
        DeclaredRoute.answering plan action)) action =
          some (MethodReference.ofAction plan.request action) :=
    MethodReference.ofChars?_answering plain action
  rw [routedMethods, isText, declared, List.filterMap_map, funext each, List.filterMap_eq_map']

/-! ### The class that is declared -/

theorem inNameSpace_append (nameSpace : String) (inner behind : List Char) :
    inNameSpace nameSpace inner ++ behind = inNameSpace nameSpace (inner ++ behind) := by
  unfold inNameSpace
  split
  · rfl
  · rw [List.append_assoc, List.cons_append]

theorem EntityName.words_of_split? {dotted : String} {name : EntityName}
    (split : split? dotted = some name) (plain : '/' ∉ dotted.toList) :
    words dotted = words name.nameSpace ++ [name.className.toList] := by
  rw [← map_toList_folders plain, folders_of_split? split plain, List.map_append,
    map_toList_folders (slash_not_mem_nameSpace split plain), List.map_singleton]

theorem ControllerDir.joinWith_folders_eq_iff {written : String} :
    joinWith ['\x5c'] (folders written) = topLevel.toList ↔ normalize written = topLevel := by
  rw [normalize_eq_topLevel_iff]
  constructor
  · intro joined
    have split := splitWhere_joinWith_folders (show isMark '\x5c' = true from rfl) written
    rw [joined] at split
    rw [← split]
    decide
  · intro top
    rw [top]
    rfl

section Resolved

variable {root : Path} {entity controllerDir : String} {format : RoutingFormat}
  {extensions : Extensions} {paths : OutputPaths}
  (resolved : OutputPaths.resolve? root entity controllerDir format extensions = some paths)
  (regular : EntityName.IsRegular entity)

include resolved regular

/-- The name space of a class is that of its bundle and the words of its directories. -/
theorem nameSpaceChars_of_resolve? (nameSpace : String) :
    Skeleton.nameSpaceChars [nameSpace, paths.controllerNameSpace, paths.entity.nameSpace] =
      inNameSpace nameSpace (joinWith ['\x5c']
        (ControllerDir.folders controllerDir ++ EntityName.words paths.entity.nameSpace)) := by
  obtain ⟨split, same⟩ := OutputPaths.eq_of_resolve? resolved
  have isController := congrArg OutputPaths.controllerNameSpace same
  obtain ⟨full, _⟩ := OutputPaths.words_of_resolve? resolved regular
  obtain ⟨ofController, ofEntity⟩ := List.forall_mem_cons.mp full
  have words : EntityName.words paths.controllerNameSpace = ControllerDir.folders controllerDir := by
    rw [isController]
    exact ControllerDir.words_nameSpaceOf controllerDir
  have someFolder := ControllerDir.folders_ne_nil controllerDir
  by_cases nothing : nameSpace.toList = []
  · have filled : paths.controllerNameSpace.toList ≠ [] := fun empty => by
      rw [EntityName.words, empty] at words
      exact someFolder words.symm
    rw [Skeleton.nameSpaceChars_cons_of_empty nothing, Skeleton.nameSpaceChars_cons filled ofEntity,
      EntityName.replaceChar_eq_joinWith_words ofController, words, List.flatMap_singleton,
      Text.joinWith_joinWith_cons _ someFolder, inNameSpace, if_pos nothing]
  · rw [Skeleton.nameSpaceChars_cons nothing full, List.flatMap_cons, List.flatMap_singleton, words,
      inNameSpace, if_neg nothing]
    have joined := Text.joinWith_append ['\x5c']
      (List.cons_ne_nil (replaceChar '.' '\x5c' nameSpace.toList) [])
      (List.append_ne_nil_of_left_ne_nil someFolder (EntityName.words paths.entity.nameSpace))
    rw [List.append_assoc] at joined
    exact joined

end Resolved

namespace Generator

variable {generator : Generator} {request : GenerationRequest}

/-- The full name of the class that a controller declares. -/
theorem qualified_controllerDeclaration (planned : generator.plan request = .ok plan)
    (regular : EntityName.IsRegular request.entity) :
    (controllerDeclaration plan).qualified = inNameSpace request.bundle.nameSpace
      (joinWith ['\x5c'] (ControllerDir.folders request.controllerDir) ++
        '\x5c' :: (joinWith ['\x5c'] (EntityName.words request.entity) ++ "Controller".toList)) := by
  obtain ⟨requested, _, _, resolved⟩ := eq_of_plan planned
  have split := (OutputPaths.eq_of_resolve? resolved).1
  have someFolder := ControllerDir.folders_ne_nil request.controllerDir
  have words := EntityName.words_of_split? split regular.slash_not_mem
  have someWord : EntityName.words request.entity ≠ [] := by
    rw [words]
    exact List.append_ne_nil_of_right_ne_nil _ (List.cons_ne_nil _ [])
  have nameSpace : (controllerDeclaration plan).nameSpace = inNameSpace request.bundle.nameSpace
      (joinWith ['\x5c'] (ControllerDir.folders request.controllerDir ++
        EntityName.words plan.paths.entity.nameSpace)) := by
    rw [← nameSpaceChars_of_resolve? resolved regular, ← requested]
    rfl
  -- the name of the class is the last word of the entity, with an ending
  have joined := Text.joinWith_append ['\x5c'] (List.append_ne_nil_of_left_ne_nil someFolder
    (EntityName.words plan.paths.entity.nameSpace))
    (List.cons_ne_nil plan.paths.entity.className.toList [])
  rw [List.append_assoc, ← words, Text.joinWith_append ['\x5c'] someFolder someWord] at joined
  have name : (controllerDeclaration plan).name =
      plan.paths.entity.className.toList ++ "Controller".toList := rfl
  rw [Declaration.qualified, nameSpace, inNameSpace_append, inNameSpace_inj, name,
    ← List.cons_append, ← List.append_assoc]
  have same := congrArg (· ++ "Controller".toList) joined.symm
  simp only [List.append_assoc, List.cons_append, List.nil_append] at same ⊢
  exact same

theorem className_ofAction (regular : EntityName.IsRegular request.entity) (action : Action) :
    (MethodReference.ofAction request action).className request.bundle.nameSpace =
      inNameSpace request.bundle.nameSpace (ControllerDir.topLevel.toList ++
        '\x5c' :: (joinWith ['\x5c'] (EntityName.words request.entity) ++
          "Controller".toList)) := by
  have path : replaceChar '/' '\x5c' (EntityName.asPath request.entity).toList =
      joinWith ['\x5c'] (EntityName.words request.entity) := by
    rw [EntityName.asPath_toList, Text.replaceChar_eq_joinWith,
      Text.splitWhere_replaceChar regular.slash_not_mem, EntityName.words_of_full regular.nil_not_mem_splitWhere]
  rw [MethodReference.className, MethodReference.ofAction, path]
  rfl

/-- A routing file refers to the declared class just when the controller directory is the top level. -/
theorem className_eq_qualified_iff (planned : generator.plan request = .ok plan)
    (regular : EntityName.IsRegular request.entity) (action : Action) :
    (MethodReference.ofAction request action).className request.bundle.nameSpace =
        (controllerDeclaration plan).qualified ↔
      ControllerDir.normalize request.controllerDir = ControllerDir.topLevel := by
  rw [className_ofAction regular, qualified_controllerDeclaration planned regular, inNameSpace_inj,
    List.append_cancel_right_eq, eq_comm, ControllerDir.joinWith_folders_eq_iff]

/-- The declared class has the methods for all planned actions, so that it is the only thing the
references may miss. -/
theorem references_answered_iff (planned : generator.plan request = .ok plan)
    (plain : request.HasPlainNames) (regular : EntityName.IsRegular request.entity) :
    (∀ reference ∈ plan.actions.actions.map (MethodReference.ofAction request),
        reference.className request.bundle.nameSpace = (controllerDeclaration plan).qualified ∧
          reference.action ∈ actionMethods plan.controllerFile.text) ↔
      ControllerDir.normalize request.controllerDir = ControllerDir.topLevel := by
  obtain ⟨plainPlan, actions⟩ := hasPlainNames_of_plan planned plain
  rw [GenerationPlan.actionMethods_controllerFile plainPlan actions]
  constructor
  · intro answered
    have index : Action.index ∈ plan.actions.actions := by
      rw [actions]
      cases plan.request.withWrite <;> decide
    exact (className_eq_qualified_iff planned regular .index).mp
      (answered _ (List.mem_map_of_mem index)).1
  · intro top reference listed
    obtain ⟨action, inActions, same⟩ := List.mem_map.mp listed
    subst same
    exact ⟨(className_eq_qualified_iff planned regular action).mpr top, List.mem_map_of_mem inActions⟩

/-! ### Runs -/

variable {before after : FileTree} {result : GenerationResult}

/-- When a run with a routing file ends well, the file refers to one method for each planned action.
All of these are methods of the class that the controller of the run declares just when the
controller directory is the top level. -/
theorem routes_answered_iff_of_run_eq_ok (packaged : generator.library = .packaged)
    (plain : request.HasPlainNames) (regular : EntityName.IsRegular request.entity)
    (inFile : (RoutingFormat.negotiate request.format).hasFile = true)
    (ran : perform (generator.run request) before = (.ok result, after)) :
    ∃ routing ∈ result.plan.files, ∃ declaration : Declaration,
      result.plan.paths.routing = some routing.path ∧
      (∀ file ∈ [result.plan.controllerFile, routing],
        result.plan.Renders generator before file (String.ofList file.text) ∧
          (request.IsPlain generator.extensions →
            after.readContent file.path = .ok (.text (String.ofList file.text)))) ∧
      declaration.IsIn "Controller".toList result.plan.controllerFile.text ∧
      (request.HasOneLineNames → Declaration.ofText? "Controller".toList
        result.plan.controllerFile.text = some declaration) ∧
      routedMethods result.plan.format routing.text =
        result.plan.actions.actions.map (MethodReference.ofAction request) ∧
      ((∀ reference ∈ routedMethods result.plan.format routing.text,
          reference.className request.bundle.nameSpace = declaration.qualified ∧
            reference.action ∈ actionMethods result.plan.controllerFile.text) ↔
        ControllerDir.normalize request.controllerDir = ControllerDir.topLevel) := by
  obtain ⟨planned, _⟩ := took_of_run_eq_ok ran
  obtain ⟨plainPlan, actions⟩ := hasPlainNames_of_plan planned plain
  obtain ⟨requested, _, format, resolved⟩ := eq_of_plan planned
  have hasFile : result.plan.format.hasFile = true := format ▸ inFile
  obtain ⟨routing, inRouting, place⟩ :=
    result.plan.exists_routingFile ((OutputPaths.isSome_routing resolved).trans hasFile)
  have member := result.plan.mem_files_of_mem_routingFiles inRouting
  obtain ⟨text, rendered, declared, read⟩ := exists_controller_declaration actions .empty
  have isText : result.plan.controllerFile.text = text := PlannedFile.text_eq rendered
  have routed := routedMethods_of_routing plainPlan hasFile inRouting
  rw [requested] at routed
  refine ⟨routing, member, controllerDeclaration result.plan, place, fun file listed => ?_,
    isText ▸ declared, fun oneLine => isText ▸ read (lacks_newline_of_plan planned oneLine), routed,
    ?_⟩
  · have inPlan : file ∈ result.plan.files := by
      rcases List.mem_cons.mp listed with isController | isRouting
      · rw [isController]
        exact result.plan.controllerFile_mem
      · rw [List.mem_singleton.mp isRouting]
        exact member
    exact ⟨renders_text_of_run_eq_ok packaged ran inPlan, fun isPlain =>
      held_text_of_run_eq_ok packaged isPlain ran inPlan⟩
  · rw [routed]
    exact references_answered_iff planned plain regular

/-- The routes of a controller below the top level lead to a class that is not the declared one. -/
theorem routes_unanswered_of_subdirectory :
    ∃ result after, perform (run {} subdirectoryRequest) .empty = (.ok result, after) ∧
      ∃ routing ∈ result.plan.files, result.plan.paths.routing = some routing.path ∧
        (routedMethods result.plan.format routing.text).map (·.className "Acme") =
          ["Acme\x5cController\x5cPostController".toList,
            "Acme\x5cController\x5cPostController".toList] ∧
        ¬∀ reference ∈ routedMethods result.plan.format routing.text, ∃ declaration,
          Declaration.ofText? "Controller".toList result.plan.controllerFile.text =
              some declaration ∧
            reference.className "Acme" = declaration.qualified ∧
            reference.action ∈ actionMethods result.plan.controllerFile.text := by
  have prepared : IsPrepared {} subdirectoryRequest .empty :=
    isPrepared_empty ⟨by decide, by decide, by decide, by decide⟩ rfl (by decide) (by decide +kernel)
  have oneLine : subdirectoryRequest.HasOneLineNames := by
    constructor <;> decide
  obtain ⟨result, after, ran⟩ := prepared.exists_run_eq_ok (by decide)
  obtain ⟨routing, member, declaration, place, _, _, read, routed, answered⟩ :=
    routes_answered_iff_of_run_eq_ok rfl ⟨by decide, by decide, by decide⟩ prepared.regular.entity
      (by decide) ran
  refine ⟨result, after, ran, routing, member, place, ?_, fun all => ?_⟩
  · rw [routed, (eq_of_plan (took_of_run_eq_ok ran).1).2.1]
    decide +kernel
  · have top := answered.mp fun reference listed => by
      obtain ⟨found, isFound, leads⟩ := all reference listed
      rw [read oneLine, Option.some.injEq] at isFound
      rw [isFound]
      exact leads
    revert top
    decide

end Generator

end EntityScaffold
