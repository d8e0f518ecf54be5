import EntityScaffold.Proofs.Generation.EmptyBundle
import EntityScaffold.Proofs.Generation.Routes
import EntityScaffold.Proofs.Generation.Texts
import EntityScaffold.Proofs.Ordered

/-
References to routes. Views link to routes by their names, and the controller generates addresses from
names. Each of these names is declared exactly once by the same run, whatever its format and whether
it writes records or not. The one text that could bring in a name of its own is the controller
directory, which the form's place in a view repeats; a quote in it is taken as the end of that place.
-/

namespace EntityScaffold

open Generated
open FileTree (perform)

/-- The names of the routes that a view links to. -/
def linkedNames (text : List Char) : List (List Char) := (linkPattern.gapsIn text).flatten

/-- The names of the routes that a controller generates addresses from. -/
def addressedNames (text : List Char) : List (List Char) :=
  (ClassPart.address.pattern.gapsIn text).flatten

/-- The names of the actions that the class in a text has methods for. -/
def actionMethods (text : List Char) : List (List Char) :=
  (ClassPart.method.pattern.gapsIn (classBody text)).flatten

/-- Does the class in a text call the method that makes the form for deletion? -/
def CallsDeleteForm (text : List Char) : Prop :=
  ClassPart.formCall.pattern.gapsIn (classBody text) ≠ []

/-- Does the class in a text define the method that makes the form for deletion? -/
def DefinesDeleteForm (text : List Char) : Prop :=
  ClassPart.formMaker.pattern.gapsIn (classBody text) ≠ []

namespace GenerationPlan

/-- The names of the routes that a plan declares, in its routing file or in its controller. -/
def declaredNames (plan : GenerationPlan) : List (List Char) :=
  match plan.format with
  | .annotations => (DeclaredRoute.inController plan.controllerFile.text).map DeclaredRoute.name
  | format => plan.routingFiles.flatMap fun file =>
    (DeclaredRoute.inFile format file.text).map fun route => route.1.name

/-- All references in the files of a plan lead to what its files declare. -/
structure HasClosedReferences (plan : GenerationPlan) : Prop where
  linked : ∀ view ∈ plan.views, ∀ name ∈ linkedNames (plan.viewFile view).text,
    plan.declaredNames.count name = 1
  addressed : ∀ name ∈ addressedNames plan.controllerFile.text, plan.declaredNames.count name = 1
  deleteForm : CallsDeleteForm plan.controllerFile.text → DefinesDeleteForm plan.controllerFile.text
  methods : actionMethods plan.controllerFile.text = plan.actions.actions.map Action.letters

variable {plan : GenerationPlan}

/-! ### Declared names -/

def routeOf (plan : GenerationPlan) (action : Action) : List Char :=
  (DeclaredRoute.ofAction plan action).name

theorem routeOf_injective {first second : Action}
    (same : plan.routeOf first = plan.routeOf second) : first = second := by
  have ends : first.nameEnd = second.nameEnd := by
    have names : (Route.name plan.request.routeNamePrefix first.text).toList =
        (Route.name plan.request.routeNamePrefix second.text).toList := same
    rw [Route.name_toList, Route.name_toList] at names
    exact List.append_cancel_left names
  revert ends
  cases first <;> cases second <;> decide

theorem declaredNames_eq (plain : plan.HasPlainNames)
    (actions : plan.actions = ActionPlan.make plan.request.withWrite)
    (routing : plan.paths.routing.isSome = plan.format.hasFile) :
    plan.declaredNames = plan.actions.actions.map plan.routeOf := by
  by_cases annotated : plan.format = .annotations
  · obtain ⟨text, rendered, declared⟩ := exists_annotated_controller plain actions annotated .empty
    have isText : plan.controllerFile.text = text := PlannedFile.text_eq rendered
    rw [declaredNames, annotated]
    dsimp only
    rw [isText, declared, List.map_map]
    rfl
  · have hasFile : plan.format.hasFile = true := by
      revert annotated
      cases plan.format <;> decide
    obtain ⟨text, rendered, declared⟩ := exists_routing_file plain hasFile .empty
    obtain ⟨path, given⟩ := Option.isSome_iff_exists.mp (routing.trans hasFile)
    have isText : PlannedFile.text ⟨routingSkeleton plan.format.text, path,
        plan.routingContext.bindings⟩ = text := PlannedFile.text_eq rendered
    have names : plan.declaredNames = plan.routingFiles.flatMap fun file =>
        (DeclaredRoute.inFile plan.format file.text).map fun route => route.1.name := by
      unfold declaredNames
      revert annotated
      cases plan.format <;> intro annotated <;> first | exact absurd rfl annotated | rfl
    rw [names, routingFiles, given, Option.toList_some, List.map_singleton, List.flatMap_singleton,
      isText, declared, List.map_map]
    rfl

theorem count_declaredNames (actions : plan.actions = ActionPlan.make plan.request.withWrite)
    (declared : plan.declaredNames = plan.actions.actions.map plan.routeOf) {action : Action}
    (planned : action ∈ plan.actions.actions) : plan.declaredNames.count (plan.routeOf action) = 1 := by
  have distinct : plan.actions.actions.Nodup := by
    rw [actions]
    cases plan.request.withWrite <;> decide
  have names : (plan.actions.actions.map plan.routeOf).Nodup :=
    List.Pairwise.map plan.routeOf (fun _ _ different same => different (routeOf_injective same))
      distinct
  rw [declared, names.count, if_pos (List.mem_map_of_mem planned)]

/-! ### What the files say -/

theorem flatten_saidByLinks (plan : GenerationPlan) (linked : List Action) :
    (linked.map (saidByLink plan)).flatten = linked.map plan.routeOf := by
  rw [← List.flatMap_def, List.map_eq_flatMap]
  refine congrArg (List.flatMap · linked) (funext fun action => ?_)
  exact congrArg (fun name => [name]) (fill_nameOf plan action)

theorem mem_actions_of_mem_linkedActions
    (actions : plan.actions = ActionPlan.make plan.request.withWrite) {view : View}
    (listed : view ∈ plan.views) {action : Action} (linked : action ∈ linkedActions plan view) :
    action ∈ plan.actions.actions := by
  cases writes : plan.request.withWrite with
  | true =>
      rw [actions, writes]
      cases action <;> decide
  | false =>
      rw [views, writes] at listed
      rw [writes] at actions
      have isPlanned : ∀ action ∈ [Action.index, .show], action ∈ plan.actions.actions := by
        rw [actions]
        decide
      refine isPlanned action ?_
      have readOnly : view = .index ∨ view = .show := by
        revert listed
        cases view <;> decide
      rcases readOnly with isIndex | isShow
      · subst isIndex
        rw [linkedActions, writes, if_neg Bool.false_ne_true, List.append_nil] at linked
        rcases List.mem_append.mp linked with inCells | inRowLinks
        · obtain ⟨_, _, same⟩ := List.mem_map.mp inCells
          exact same ▸ List.mem_cons_of_mem _ List.mem_cons_self
        · rw [linkedByLoop, actions] at inRowLinks
          exact List.mem_cons_of_mem _ inRowLinks
      · subst isShow
        rw [linkedActions, writes, if_neg Bool.false_ne_true] at linked
        exact List.mem_cons.mpr (Or.inl (List.mem_singleton.mp linked))

/-- The names that the method of an action generates addresses from. -/
def addressedActions : Action → List Action
  | .index | .show => []
  | .new => [.show]
  | .edit => [.edit]
  | .delete => [.index]

theorem saidByAction_address (plan : GenerationPlan) (action : Action) :
    saidByAction plan action .address = (addressedActions action).map (saidByLink plan) := by
  cases action <;> rfl

theorem saidByAction_method (plan : GenerationPlan) (action : Action) :
    saidByAction plan action .method = [[action.letters]] := by
  simp only [saidByAction, foundInAction, List.flatMap_singleton, Text.Outline.Finding.filled,
    List.map_cons, List.map_nil, Text.Outline.fill_ofChars]

theorem mem_actions_of_mem_addressedActions
    (actions : plan.actions = ActionPlan.make plan.request.withWrite) {action other : Action}
    (planned : action ∈ plan.actions.actions) (addressed : other ∈ addressedActions action) :
    other ∈ plan.actions.actions := by
  rw [actions] at planned ⊢
  revert planned addressed
  cases plan.request.withWrite <;> cases action <;> cases other <;> decide

/-- What the body of a class says when every planned action says something of its own. -/
theorem flatMap_saidByAction {part : ClassPart} {said : Action → List (List (List Char))}
    (same : ∀ action, saidByAction plan action part = said action) :
    (plan.actions.actions.flatMap fun action => saidByAction plan action part) =
      plan.actions.actions.flatMap said :=
  congrArg (List.flatMap · plan.actions.actions) (funext same)

theorem actionMethods_controllerFile (plain : plan.HasPlainNames)
    (actions : plan.actions = ActionPlan.make plan.request.withWrite) :
    actionMethods plan.controllerFile.text = plan.actions.actions.map Action.letters := by
  obtain ⟨text, rendered, said, _⟩ := exists_controller_text plain actions .empty
  have isText : plan.controllerFile.text = text := PlannedFile.text_eq rendered
  rw [isText, actionMethods, said, flatMap_saidByAction (saidByAction_method plan),
    ← List.map_eq_flatMap, ← List.flatMap_def, ← List.map_eq_flatMap]

theorem hasClosedReferences (plain : plan.HasPlainNames) (noQuote : plan.HasUnquotedTexts)
    (inNameSpace : '\'' ∉ plan.request.bundle.nameSpace.toList)
    (inController : '\'' ∉ plan.paths.controllerNameSpace.toList)
    (actions : plan.actions = ActionPlan.make plan.request.withWrite)
    (routing : plan.paths.routing.isSome = plan.format.hasFile) : plan.HasClosedReferences := by
  have declared := declaredNames_eq plain actions routing
  obtain ⟨text, rendered, said, _, addresses⟩ := exists_controller_text plain actions .empty
  have isText : plan.controllerFile.text = text := PlannedFile.text_eq rendered
  refine
    { linked := ?_
      addressed := ?_
      deleteForm := ?_
      methods := ?_ }
  · intro view listed name member
    obtain ⟨viewText, viewRendered, links⟩ := exists_view_text plain noQuote actions view .empty
    have isViewText : (plan.viewFile view).text = viewText := PlannedFile.text_eq viewRendered
    rw [isViewText, linkedNames, links, flatten_saidByLinks] at member
    obtain ⟨action, linked, same⟩ := List.mem_map.mp member
    rw [← same]
    exact count_declaredNames actions declared
      (mem_actions_of_mem_linkedActions actions listed linked)
  · intro name member
    rw [isText, addressedNames, addresses inNameSpace inController,
      flatMap_saidByAction (saidByAction_address plan), ← List.map_flatMap, flatten_saidByLinks]
      at member
    obtain ⟨other, listed, same⟩ := List.mem_map.mp member
    obtain ⟨action, planned, addressed⟩ := List.mem_flatMap.mp listed
    rw [← same]
    exact count_declaredNames actions declared
      (mem_actions_of_mem_addressedActions actions planned addressed)
  · -- without writing actions, nothing calls the method
    rw [isText, CallsDeleteForm, DefinesDeleteForm, said, said, actions]
    simp only [saidByAction]
    cases plan.request.withWrite with
    | false => exact fun calls => absurd rfl calls
    | true => exact fun _ => List.cons_ne_nil [] []
  · exact actionMethods_controllerFile plain actions

end GenerationPlan

/-! ### Free texts of a request -/

theorem CodeText.mem_of_mem_octetsReplaced {text : CodeText} {char : Char}
    (member : char ∈ text.octetsReplaced.toList) (written : char ≠ '\uFFFD') :
    CodePoint.ofChar char ∈ text := by
  rw [octetsReplaced, String.toList_ofList] at member
  obtain ⟨point, listed, inside⟩ := List.mem_flatMap.mp member
  split at inside
  · next found =>
    rw [List.mem_singleton.mp inside, CodePoint.ofChar_eq_of_toChar? found]
    exact listed
  · exact absurd (List.eq_of_mem_replicate inside) written

/-- What is asked of a request so that its texts bring in no names of routes: its names and its
namespace are plain, and neither its fields nor its controller directory hold a single quote. -/
structure GenerationRequest.HasQuietTexts (request : GenerationRequest) : Prop where
  names : request.HasPlainNames
  nameSpace : IsPlainName request.bundle.nameSpace
  fields : ∀ field ∈ request.metadata.fields, CodePoint.ofChar '\'' ∉ field.1
  controllerDir : '\'' ∉ request.controllerDir.toList

namespace GenerationRequest.HasQuietTexts

variable {request : GenerationRequest}

theorem seenEntries (quiet : request.HasQuietTexts) :
    ∀ entry ∈ seenEntries request.metadata.fields, '\'' ∉ entry.1.toList := by
  intro entry listed member
  have key := (Ordered.mem_of_mem_ofListBy listed).1
  rw [List.map_map] at key
  obtain ⟨field, inFields, same⟩ := List.mem_map.mp key
  rw [← same] at member
  exact quiet.fields field inFields (CodeText.mem_of_mem_octetsReplaced member (by decide))

end GenerationRequest.HasQuietTexts

namespace OutputPaths

variable {root : Path} {entity controllerDir : String} {format : RoutingFormat}
  {extensions : Extensions} {paths : OutputPaths} {char : Char}

theorem mem_of_mem_controllerNameSpace
    (resolved : resolve? root entity controllerDir format extensions = some paths)
    (member : char ∈ paths.controllerNameSpace.toList) (mark : char ≠ '/' ∧ char ≠ '.')
    (other : char ∉ ControllerDir.topLevel.toList) : char ∈ controllerDir.toList := by
  have same := congrArg OutputPaths.controllerNameSpace (eq_of_resolve? resolved).2
  rw [same, ControllerDir.nameSpaceOf, String.toList_ofList] at member
  exact ControllerDir.mem_written_of_mem_normalize
    ((Text.mem_replaceChar member).resolve_left mark.2) mark.1 other

/-- The place of a form is made of the controller directory and the entity, or is the directory of
all views. -/
theorem mem_of_mem_formDir
    (resolved : resolve? root entity controllerDir format extensions = some paths)
    (member : char ∈ paths.formDir.toList) (noSlash : char ≠ '/')
    (other : char ∉ ControllerDir.topLevel.toList ∧ char ∉ "views".toList) :
    char ∈ controllerDir.toList ∨ char ∈ entity.toList := by
  have whole := (eq_of_resolve? resolved).2
  have views : Path.IsComponent "views".toList := by decide
  have inSubDir (member : char ∈ (ControllerDir.viewSubDir
      (ControllerDir.normalize controllerDir)).toList) : char ∈ controllerDir.toList :=
    ControllerDir.mem_written_of_mem_viewSubDir member noSlash other.1
  rw [congrArg OutputPaths.formDir whole, String.toList_append, List.mem_append,
    congrArg OutputPaths.viewDir whole] at member
  rcases member with before | inName
  · exact Or.inl (inSubDir before)
  · rcases Path.mem_of_mem_name_join inName with inText | inBase
    · rw [String.toList_append, List.mem_append, EntityName.asPath_toList] at inText
      rcases inText with before | inEntity
      · exact Or.inl (inSubDir before)
      · exact Or.inr ((Text.mem_replaceChar inEntity).resolve_left noSlash)
    · rw [Path.join_of_isComponent views, Path.name, Path.descend_parts, List.getLast?_concat]
        at inBase
      exact absurd inBase other.2

theorem isSome_routing (resolved : resolve? root entity controllerDir format extensions = some paths) :
    paths.routing.isSome = format.hasFile := by
  rw [congrArg OutputPaths.routing (eq_of_resolve? resolved).2]
  cases format.hasFile <;> rfl

end OutputPaths

namespace Generator

variable {generator : Generator} {request : GenerationRequest} {before after : FileTree}
  {result : GenerationResult}

/-- When a run with the packaged skeletons ends well, it has rendered the texts of all files of its
plan, and all references in these texts are closed. The files of a plain request hold the texts. -/
theorem references_closed_of_run_eq_ok (packaged : generator.library = .packaged)
    (quiet : request.HasQuietTexts)
    (ran : perform (generator.run request) before = (.ok result, after)) :
    (∀ file ∈ result.plan.files,
      result.plan.Renders generator before file (String.ofList file.text) ∧
        (request.IsPlain generator.extensions →
          after.readContent file.path = .ok (.text (String.ofList file.text)))) ∧
      result.plan.HasClosedReferences := by
  obtain ⟨planned, _⟩ := took_of_run_eq_ok ran
  obtain ⟨plain, actions⟩ := hasPlainNames_of_plan planned quiet.names
  obtain ⟨requested, _, _, resolved⟩ := eq_of_plan planned
  refine ⟨fun file member => ⟨renders_text_of_run_eq_ok packaged ran member, fun regular =>
    held_text_of_run_eq_ok packaged regular ran member⟩, ?_⟩
  have noQuote : result.plan.HasUnquotedTexts := by
    constructor
    · rw [GenerationPlan.fields, GenerationPlan.typedFields, requested, List.forall_mem_map]
      exact quiet.seenEntries
    · intro member
      rcases OutputPaths.mem_of_mem_formDir resolved member (by decide) (by decide) with
        inDirectory | inEntity
      · exact quiet.controllerDir inDirectory
      · exact quiet.names.entity.not_mem (by decide) inEntity
  refine GenerationPlan.hasClosedReferences plain noQuote ?_ ?_ actions
    (OutputPaths.isSome_routing resolved)
  · rw [requested]
    exact quiet.nameSpace.not_mem (by decide)
  · exact fun member => quiet.controllerDir
      (OutputPaths.mem_of_mem_controllerNameSpace resolved member (by decide) (by decide))

def adminRequest : GenerationRequest where
  bundle := ⟨"Blog", "Acme", .ofString "b"⟩
  entity := "Post"
  metadata := ⟨[(CodeText.ofString "title", CodeText.ofString "string")], [CodeText.ofString "id"]⟩
  format := "annotation"
  withWrite := true
  controllerDir := "Admin"

theorem references_closed_of_admin_run :
    ∃ result after, perform (run {} adminRequest) .empty = (.ok result, after) ∧
      result.plan.HasClosedReferences := by
  have prepared : IsPrepared {} adminRequest .empty :=
    isPrepared_empty ⟨by decide, by decide, by decide, by decide⟩ rfl (by decide) (by decide +kernel)
  have quiet : adminRequest.HasQuietTexts :=
    ⟨⟨by decide, by decide, by decide⟩, by decide, by decide, by decide⟩
  obtain ⟨result, after, ran⟩ := prepared.exists_run_eq_ok (by decide)
  exact ⟨result, after, ran, (references_closed_of_run_eq_ok rfl quiet ran).2⟩

/-- A request with quotes in its controller directory, and a link between them. -/
def quotedRequest : GenerationRequest where
  bundle := ⟨"Blog", "Acme", .ofString "b"⟩
  entity := "Post"
  metadata := ⟨[], [CodeText.ofString "id"]⟩
  withWrite := true
  controllerDir := "a' ~ path('evil') ~ 'b"

/-- The view for a new record links to a route that is not declared, behind the first quote. -/
theorem links_undeclared_of_quoted :
    quotedRequest.HasPlainNames ∧ IsPlainName quotedRequest.bundle.nameSpace ∧
      ∃ result after, perform (run {} quotedRequest) .empty = (.ok result, after) ∧
        .new ∈ result.plan.views ∧
        after.readContent (result.plan.viewFile .new).path =
          .ok (.text (String.ofList (result.plan.viewFile .new).text)) ∧
        "evil".toList ∈ linkedNames (result.plan.viewFile .new).text ∧
        "evil".toList ∉ result.plan.declaredNames := by
  have prepared : IsPrepared {} quotedRequest .empty :=
    isPrepared_empty ⟨by decide, by decide, by decide, by decide⟩ rfl (by decide) (by decide +kernel)
  have linked : ∀ plan ∈ (Generator.plan {} quotedRequest).toOption,
      .new ∈ plan.views ∧ "evil".toList ∈ linkedNames (plan.viewFile .new).text := by
    decide +kernel
  have undeclared : ∀ plan ∈ (Generator.plan {} quotedRequest).toOption,
      "evil".toList ∉ plan.declaredNames := by
    decide +kernel
  obtain ⟨result, after, ran⟩ := prepared.exists_run_eq_ok (by decide)
  have planned := (took_of_run_eq_ok ran).1
  obtain ⟨listed, links⟩ := linked result.plan (planned ▸ rfl)
  exact ⟨⟨by decide, by decide, by decide⟩, by decide, result, after, ran, listed,
    held_text_of_run_eq_ok rfl prepared.regular.isPlain ran
      (GenerationPlan.viewFile_mem result.plan listed), links, undeclared result.plan (planned ▸ rfl)⟩

end Generator

end EntityScaffold
