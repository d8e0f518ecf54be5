import EntityScaffold.Proofs.Attempt
import EntityScaffold.Proofs.Generated.ControllerText
import EntityScaffold.Proofs.Generated.RoutingText
import EntityScaffold.Proofs.Generated.TestText
import EntityScaffold.Proofs.Generation.Plan

/-
The routes of a plan. Four formats declare them: three kinds of routing files, and the annotations of
a controller, which give each path in two parts. Whatever the format, the planned actions have the
same routes, and the functional test asks for the path of the index route.
-/

namespace EntityScaffold

open Generated
open Text.Outline (fill ofChars)

namespace Action

def methods : Action → List (List Char)
  | .index | .show => [['G', 'E', 'T']]
  | .new | .edit => [['G', 'E', 'T'], ['P', 'O', 'S', 'T']]
  | .delete => [['P', 'O', 'S', 'T'], ['D', 'E', 'L', 'E', 'T', 'E']]

end Action

structure DeclaredRoute where
  name : List Char
  path : List Char
  methods : List (List Char)
  deriving DecidableEq

namespace DeclaredRoute

/-- The words in capitals. -/
def words (text : List Char) : List (List Char) :=
  Text.fieldsOf (fun char => !Text.isAsciiUpper char) text

/-- A route that a file declares, with the controller that answers it. -/
def ofFile? : RoutingFormat → List (List Char) → Option (DeclaredRoute × List Char)
  | .yaml, [name, path, controller, methods] => some (⟨name, path, words methods⟩, controller)
  | .xml, [name, path, methods, controller] => some (⟨name, path, words methods⟩, controller)
  | .php, [name, path, controller, methods] => some (⟨name, path, words methods⟩, controller)
  | _, _ => none

def inFile (format : RoutingFormat) (text : List Char) : List (DeclaredRoute × List Char) :=
  ((routePattern format).gapsIn text).filterMap (ofFile? format)

/-- A route that a method declares behind the start that its class gives to all paths. -/
def ofMethod? (start : List Char) : List (List Char) → Option DeclaredRoute
  | [path, name, methods] => some ⟨name, start ++ path, words methods⟩
  | _ => none

def inController (text : List Char) : List DeclaredRoute :=
  let start := ((ClassPart.classRoute.pattern.gapsIn text).getLast?.bind List.head?).getD []
  (ClassPart.route.pattern.gapsIn (classBody text)).filterMap (ofMethod? start)

def ofAction (plan : GenerationPlan) (action : Action) : DeclaredRoute where
  name := (Route.name plan.request.routeNamePrefix action.text).toList
  path := (Route.base plan.request.routePrefix).toList ++ action.pathEnd
  methods := action.methods

def answering (plan : GenerationPlan) (action : Action) : List Char :=
  plan.request.bundle.name.toList ++ ':' ::
    (EntityName.asPath plan.request.entity).toList ++ ':' :: action.letters

end DeclaredRoute

/-- The pages that a test asks for by their paths. -/
def requestedPaths (text : List Char) : List (List Char) := (requestPattern.gapsIn text).flatten

structure GenerationRequest.HasPlainNames (request : GenerationRequest) : Prop where
  bundle : IsPlainName request.bundle.name
  entity : IsPlainName request.entity
  routePrefix : IsPlainName request.routePrefix

variable {plan : GenerationPlan}

theorem Generator.hasPlainNames_of_plan {generator : Generator} {request : GenerationRequest}
    (planned : generator.plan request = .ok plan) (plain : request.HasPlainNames) :
    plan.HasPlainNames ∧ plan.actions = ActionPlan.make plan.request.withWrite := by
  obtain ⟨requested, actions, _, resolved⟩ := eq_of_plan planned
  have split := (OutputPaths.eq_of_resolve? resolved).1
  subst requested
  exact ⟨⟨plain.bundle, plain.entity, plain.routePrefix,
    (EntityName.split?_eq_some_iff.mp split).2⟩, actions⟩

/-! ### What is read -/

theorem fill_nameOf (plan : GenerationPlan) (action : Action) :
    fill (details plan) (nameOf action) =
      (Route.name plan.request.routeNamePrefix action.text).toList :=
  fill_nameOf_fillings action

theorem fill_pathOf (plan : GenerationPlan) (action : Action) :
    fill (details plan) (pathOf action) =
      (Route.base plan.request.routePrefix).toList ++ action.pathEnd := by
  rw [pathOf, fill, Text.Outline.fill_ofChars]
  rfl

theorem fill_controllerOf (plan : GenerationPlan) (action : Action) :
    fill (details plan) (controllerOf action) = DeclaredRoute.answering plan action := by
  simp only [controllerOf, fill, Text.Outline.fill_ofChars, DeclaredRoute.answering,
    EntityName.asPath, String.toList_ofList, List.append_assoc, List.cons_append]
  rfl

theorem words_methods (action : Action) :
    DeclaredRoute.words (yamlMethods action) = action.methods ∧
      DeclaredRoute.words (xmlMethods action) = action.methods ∧
      DeclaredRoute.words (phpMethods action) = action.methods ∧
      DeclaredRoute.words (annotatedMethods action) = action.methods := by
  cases action <;> decide +kernel

theorem ofFile?_foundInRoute {format : RoutingFormat} (hasFile : format.hasFile = true)
    (action : Action) :
    DeclaredRoute.ofFile? format ((foundInRoute format action).map (fill (details plan))) =
      some (DeclaredRoute.ofAction plan action, DeclaredRoute.answering plan action) := by
  obtain ⟨yaml, xml, php, _⟩ := words_methods action
  cases format with
  | annotations => cases hasFile
  | yaml | xml | php =>
      simp only [foundInRoute, List.map_cons, List.map_nil, DeclaredRoute.ofFile?, fill_nameOf,
        fill_pathOf, fill_controllerOf, Text.Outline.fill_ofChars, yaml, xml, php,
        DeclaredRoute.ofAction]

theorem exists_routing_file (plain : plan.HasPlainNames) {format : RoutingFormat}
    (hasFile : format.hasFile = true) (tree : FileTree) :
    ∃ text, Library.packaged.renderText tree (GenerationPlan.routingSkeleton format.text)
        plan.routingContext.bindings = .ok (CodeText.ofChars text) ∧
      DeclaredRoute.inFile format text = plan.actions.actions.map fun action =>
        (DeclaredRoute.ofAction plan action, DeclaredRoute.answering plan action) := by
  obtain ⟨text, rendered, said⟩ := exists_routing_text plain hasFile tree
  refine ⟨text, rendered, ?_⟩
  rw [DeclaredRoute.inFile, said, List.filterMap_map]
  have each (action : Action) : (DeclaredRoute.ofFile? format ∘ fun action =>
      (foundInRoute format action).map (fill (details plan))) action =
        some (DeclaredRoute.ofAction plan action, DeclaredRoute.answering plan action) :=
    ofFile?_foundInRoute hasFile action
  rw [funext each, List.filterMap_eq_map']

theorem saidByAction_route (annotated : plan.format = .annotations) (action : Action) :
    saidByAction plan action .route =
      [[action.pathEnd, fill (details plan) (nameOf action), annotatedMethods action]] := by
  rw [saidByAction, decide_eq_true annotated]
  simp only [foundInAction, if_true, List.flatMap_singleton, Text.Outline.Finding.filled,
    List.map_cons, List.map_nil, Text.Outline.fill_ofChars]

theorem exists_annotated_controller (plain : plan.HasPlainNames)
    (actions : plan.actions = ActionPlan.make plan.request.withWrite)
    (annotated : plan.format = .annotations) (tree : FileTree) :
    ∃ text, Library.packaged.renderText tree "controller" plan.controllerContext.bindings =
        .ok (CodeText.ofChars text) ∧
      DeclaredRoute.inController text =
        plan.actions.actions.map (DeclaredRoute.ofAction plan) := by
  obtain ⟨text, rendered, said, start, _⟩ := exists_controller_text plain actions tree
  have rows : ClassPart.route.pattern.gapsIn (classBody text) = plan.actions.actions.map fun action =>
      [action.pathEnd, fill (details plan) (nameOf action), annotatedMethods action] := by
    rw [said .route, funext (saidByAction_route annotated)]
    exact List.map_eq_flatMap.symm
  have each (action : Action) : (DeclaredRoute.ofMethod? (Detail.pathStart.ofPlan plan) ∘
      fun action => [action.pathEnd, fill (details plan) (nameOf action),
        annotatedMethods action]) action = some (DeclaredRoute.ofAction plan action) := by
    obtain ⟨_, _, _, methods⟩ := words_methods action
    simp only [Function.comp, DeclaredRoute.ofMethod?, fill_nameOf, methods]
    rfl
  refine ⟨text, rendered, ?_⟩
  unfold DeclaredRoute.inController
  rw [start annotated, rows, List.filterMap_map]
  change plan.actions.actions.filterMap (DeclaredRoute.ofMethod? (Detail.pathStart.ofPlan plan) ∘ _) = _
  rw [funext each, List.filterMap_eq_map']

/-! ### All formats -/

def GenerationPlan.annotated (plan : GenerationPlan) : GenerationPlan :=
  { plan with format := .annotations }

/-- The three routing files declare the same routes, each answered by the same controller, and so do
the annotations of the controller: one for each planned action, in the order of the plan. The test
asks for the path of the index route, and for no other path when its free texts stay within lines. -/
theorem declared_routes_agree (plain : plan.HasPlainNames)
    (actions : plan.actions = ActionPlan.make plan.request.withWrite) (tree : FileTree) :
    ∃ (file : RoutingFormat → List Char) (controller test : List Char),
      (∀ format : RoutingFormat, format.hasFile = true →
        Library.packaged.renderText tree (GenerationPlan.routingSkeleton format.text)
            plan.routingContext.bindings = .ok (CodeText.ofChars (file format)) ∧
          (DeclaredRoute.inFile format (file format)).map Prod.fst =
            plan.actions.actions.map (DeclaredRoute.ofAction plan) ∧
          (DeclaredRoute.inFile format (file format)).map Prod.snd =
            plan.actions.actions.map (DeclaredRoute.answering plan)) ∧
      (Library.packaged.renderText tree "controller" plan.annotated.controllerContext.bindings =
          .ok (CodeText.ofChars controller) ∧
        DeclaredRoute.inController controller =
          plan.actions.actions.map (DeclaredRoute.ofAction plan)) ∧
      Library.packaged.renderText tree "tests/test" plan.functionalTestContext.bindings =
          .ok (CodeText.ofChars test) ∧
        (DeclaredRoute.ofAction plan .index).path ∈ requestedPaths test ∧
        (plan.HasOneLineTexts →
          requestedPaths test = [(DeclaredRoute.ofAction plan .index).path]) := by
  have files (format : RoutingFormat) (hasFile : format.hasFile = true) :=
    exists_routing_file plain hasFile tree
  obtain ⟨controller, controllerRendered, annotated⟩ :=
    @exists_annotated_controller plan.annotated ⟨plain.bundle, plain.entity, plain.routePrefix,
      plain.words⟩ actions rfl tree
  obtain ⟨test, testRendered, asks, onlyAsks⟩ := exists_test_text plain actions tree
  have indexPath : fill (details plan) (pathOf .index) =
      (DeclaredRoute.ofAction plan .index).path := fill_pathOf plan .index
  rw [indexPath] at asks onlyAsks
  refine ⟨fun format => if hasFile : format.hasFile = true then (files format hasFile).choose else [],
    controller, test, fun format hasFile => ?_, ⟨controllerRendered, annotated⟩, testRendered, ?_,
    fun oneLine => ?_⟩
  · obtain ⟨rendered, declared⟩ := (files format hasFile).choose_spec
    dsimp only
    rw [dif_pos hasFile, declared, List.map_map, List.map_map]
    exact ⟨rendered, rfl, rfl⟩
  · exact List.mem_flatten.mpr ⟨_, asks, List.mem_cons_self⟩
  · rw [requestedPaths, onlyAsks oneLine]
    rfl

/-- A request with slashes around its prefix, for an entity in a namespace. -/
def slashedRequest : GenerationRequest where
  bundle := ⟨"Blog", "Acme", .ofString "b"⟩
  entity := "Admin.Post"
  metadata := ⟨[(CodeText.ofString "title", CodeText.ofString "string")], [CodeText.ofString "id"]⟩
  routePrefix := "//admin/posts/"
  withWrite := true

/-- The routes of the request; the slashes around its prefix stay in their names. -/
def slashedRoutes : List DeclaredRoute :=
  [⟨"__admin_posts_".toList, "/admin/posts/".toList, [['G', 'E', 'T']]⟩,
    ⟨"__admin_posts__show".toList, "/admin/posts/\x7bid\x7d/show".toList, [['G', 'E', 'T']]⟩,
    ⟨"__admin_posts__new".toList, "/admin/posts/new".toList,
      [['G', 'E', 'T'], ['P', 'O', 'S', 'T']]⟩,
    ⟨"__admin_posts__edit".toList, "/admin/posts/\x7bid\x7d/edit".toList,
      [['G', 'E', 'T'], ['P', 'O', 'S', 'T']]⟩,
    ⟨"__admin_posts__delete".toList, "/admin/posts/\x7bid\x7d/delete".toList,
      [['P', 'O', 'S', 'T'], ['D', 'E', 'L', 'E', 'T', 'E']]⟩]

theorem slashed_routes_declared :
    ∃ (plan : GenerationPlan) (file : RoutingFormat → List Char) (controller test : List Char),
      Generator.plan {} slashedRequest = .ok plan ∧
      (∀ format : RoutingFormat, format.hasFile = true →
        Library.packaged.renderText .empty (GenerationPlan.routingSkeleton format.text)
            plan.routingContext.bindings = .ok (CodeText.ofChars (file format)) ∧
          (DeclaredRoute.inFile format (file format)).map Prod.fst = slashedRoutes) ∧
      (Library.packaged.renderText .empty "controller" plan.annotated.controllerContext.bindings =
          .ok (CodeText.ofChars controller) ∧
        DeclaredRoute.inController controller = slashedRoutes) ∧
      Library.packaged.renderText .empty "tests/test" plan.functionalTestContext.bindings =
          .ok (CodeText.ofChars test) ∧
        "/admin/posts/".toList ∈ requestedPaths test := by
  have names : slashedRequest.HasPlainNames := by
    constructor <;> decide
  have isPlanned : (Generator.plan {} slashedRequest).isOk = true := by decide +kernel
  obtain ⟨plan, planned⟩ := exists_eq_ok_of_isOk isPlanned
  obtain ⟨plain, actions⟩ := Generator.hasPlainNames_of_plan planned names
  obtain ⟨requested, _⟩ := Generator.eq_of_plan planned
  have rows : plan.actions.actions.map (DeclaredRoute.ofAction plan) = slashedRoutes := by
    unfold DeclaredRoute.ofAction
    rw [actions, requested]
    decide +kernel
  have indexPath : (DeclaredRoute.ofAction plan .index).path = "/admin/posts/".toList := by
    unfold DeclaredRoute.ofAction
    rw [requested]
    decide +kernel
  obtain ⟨file, controller, test, files, annotated, tested, asks, _⟩ :=
    declared_routes_agree plain actions .empty
  refine ⟨plan, file, controller, test, planned, fun format hasFile => ?_, ?_, tested, ?_⟩
  · obtain ⟨rendered, declared, _⟩ := files format hasFile
    exact ⟨rendered, declared.trans rows⟩
  · exact ⟨annotated.1, annotated.2.trans rows⟩
  · exact indexPath ▸ asks

end EntityScaffold
