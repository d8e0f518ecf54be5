import EntityScaffold.Proofs.Generated.ActionText
import EntityScaffold.Proofs.Skeleton.Lookup
import EntityScaffold.Skeleton.Packaged.Routing

/-
The texts of routing files. Each pass over the planned actions renders the entry of one route, and an
empty line behind it unless it is the last of a YAML file. Each format has a pattern of its own for a
route; in each file the routes of the planned actions are declared, one after another, and nothing else
is.
-/

namespace EntityScaffold.Generated

open Skeleton Skeleton.Packaged
open Text (Outline Pattern)
open Text.Outline (Finding fill spell ofChars read?)

def routePattern : RoutingFormat → Pattern
  | .yaml => .ofTexts "\n"
      [":\n    path:     ", "\n    defaults: \x7b _controller: '", "' \x7d\n    methods:  [", "]"]
  | .xml => .ofTexts "\n    <route id=\""
      ["\" path=\"", "\" methods=\"", "\">\n        <default key=\"_controller\">", "</default>"]
  | .php => .ofTexts "\n$collection->add('"
      ["', new Route('", "', array(\n    '_controller' => '",
        "',\n), array(), array(), '', array(), array(", ")));"]
  | .annotations => ClassPart.route.pattern

def controllerOf (action : Action) : Outline (Hole Empty) :=
  .hole (.detail .bundle) :: .char ':' :: .hole (.detail .entityPath) :: .char ':' ::
    ofChars action.letters

def yamlMethods : Action → List Char
  | .index | .show => ['G', 'E', 'T']
  | .new | .edit => ['G', 'E', 'T', ',', ' ', 'P', 'O', 'S', 'T']
  | .delete => ['P', 'O', 'S', 'T', ',', ' ', 'D', 'E', 'L', 'E', 'T', 'E']

def xmlMethods : Action → List Char
  | .index | .show => ['G', 'E', 'T']
  | .new | .edit => ['G', 'E', 'T', '|', 'P', 'O', 'S', 'T']
  | .delete => ['P', 'O', 'S', 'T', '|', 'D', 'E', 'L', 'E', 'T', 'E']

def phpMethods : Action → List Char
  | .index | .show => ['\'', 'G', 'E', 'T', '\'']
  | .new | .edit => ['\'', 'G', 'E', 'T', '\'', ',', ' ', '\'', 'P', 'O', 'S', 'T', '\'']
  | .delete => ['\'', 'P', 'O', 'S', 'T', '\'', ',', ' ', '\'', 'D', 'E', 'L', 'E', 'T', 'E', '\'']

def foundInRoute : RoutingFormat → Action → List (Outline (Hole Empty))
  | .yaml, action => [nameOf action, pathOf action, controllerOf action, ofChars (yamlMethods action)]
  | .xml, action => [nameOf action, pathOf action, ofChars (xmlMethods action), controllerOf action]
  | .php, action => [nameOf action, pathOf action, controllerOf action, ofChars (phpMethods action)]
  | .annotations, action =>
    [ofChars action.pathEnd, nameOf action, ofChars (annotatedMethods action)]

def isFormAction : Action → Bool
  | .new | .edit => true
  | _ => false

def isDeletion : Action → Bool
  | .delete => true
  | _ => false

structure RouteScope (values : Hole Empty → List Char) (scope : Scope) (action : Action)
    (last : Bool) : Prop where
  name : Shows values scope (routeTo (.name "action")) (nameOf action)
  path : Shows values scope (.routePath (.name "route_prefix") (.name "action")) (pathOf action)
  bundle : Shows values scope (.name "bundle") [.hole (.detail .bundle)]
  entity : Shows values scope (entityWith '/') [.hole (.detail .entityPath)]
  word : Shows values scope (.name "action") (ofChars action.letters)
  forms : (Expr.oneOf (.name "action") ["new", "edit"]).eval scope =
    .ok (.flag (isFormAction action))
  deletion : (Expr.equals (.name "action") "delete").eval scope = .ok (.flag (isDeletion action))
  goesOn : (Expr.negated .isLast).eval scope = .ok (.flag !last)

variable {plan : GenerationPlan} {values : Hole Empty → List Char} {scope : Scope} {action : Action}
  {last : Bool} {included : CodeText → Scope → Except RenderFault CodeText}

theorem routeScope_of_item (plan : GenerationPlan) (action : Action) (place : Datum)
    (first last : Bool) :
    RouteScope (details plan)
      (itemScope "action" ⟨plan.routingContext.bindings, false, false⟩ place (.string action.text)
        first last) action last where
  name := shows_routeTo rfl rfl
  path := shows_routePath rfl rfl
  bundle := shows_detail rfl rfl
  entity := shows_entityWith rfl rfl
  word := shows_action _ rfl
  forms := by
    rw [eval_oneOf_string (itemScope_get_self _ _ _ _ _)]
    cases action <;> rfl
  deletion := by
    rw [eval_equals_string (itemScope_get_self _ _ _ _ _)]
    cases action <;> rfl
  goesOn := rfl

theorem RouteScope.assign (facts : RouteScope values scope action last) (datum : Datum) :
    RouteScope values (scope.assign "methods" datum) action last where
  name := facts.name.assign rfl datum
  path := facts.path.assign rfl datum
  bundle := facts.bundle.assign rfl datum
  entity := facts.entity.assign rfl datum
  word := facts.word.assign rfl datum
  forms := (Expr.eval_assign _ rfl).trans facts.forms
  deletion := (Expr.eval_assign _ rfl).trans facts.deletion
  goesOn := (Expr.eval_assign _ rfl).trans facts.goesOn

set_option maxRecDepth 4000

def routingFile : RoutingFormat → Skeleton
  | .yaml => yamlRouting
  | .xml => xmlRouting
  | .php => phpRouting
  | .annotations => []

/-- The lines of a route, with an empty line behind them unless it is the last one. -/
def routeOutline (action : Action) (last : Bool) : Outline (Hole Empty) :=
  nameOf action ++ spell ":\n" ++ spell "    path:     " ++ pathOf action ++ spell "\n" ++
    spell "    defaults: \x7b _controller: '" ++ controllerOf action ++ spell "' \x7d\n" ++
    spell "    methods:  [" ++ ofChars (yamlMethods action) ++ spell "]\n" ++
    spell (if last then "" else "\n")

theorem render_route (facts : RouteScope values scope action last) :
    (renderPieces included scope (loopBody yamlRouting)).map Prod.fst =
      .ok (filled values (routeOutline action last)) := by
  have forms := facts.forms
  have deletion := facts.deletion
  have goesOn := facts.goesOn
  cases last
  all_goals
    cases action
  all_goals
    simp only [loopBody, yamlRouting, when, List.flatMap_cons, List.flatMap_nil, repeated_each,
      List.append_nil, List.nil_append, renderPieces_text values, renderPieces_lines values,
      renderPieces_nil values, renderPieces_emit facts.name, renderPieces_emit facts.path,
      renderPieces_emit facts.bundle, renderPieces_emit facts.entity, renderPieces_emit facts.word,
      renderPieces_branch forms, renderPieces_branch deletion, renderPieces_branch goesOn,
      prepend_ok, isFormAction, isDeletion, cond_true, cond_false, Bool.not_true, Bool.not_false,
      List.cons_append, spell, routeOutline]
    repeat rewrite [String.toList_ofList]
    rfl

/-- The entry of a route in a routing file. -/
def entryOutline (format : RoutingFormat) (action : Action) : Outline (Hole Empty) :=
  match format with
  | .yaml => routeOutline action true
  | .xml =>
    spell "    <route id=\"" ++ nameOf action ++ spell "\" path=\"" ++ pathOf action ++
      spell "\" methods=\"" ++ ofChars (xmlMethods action) ++ spell "\">\n" ++
      spell "        <default key=\"_controller\">" ++ controllerOf action ++ spell "</default>\n" ++
      spell "    </route>\n"
  | .php =>
    spell "$collection->add('" ++ nameOf action ++ spell "', new Route('" ++ pathOf action ++
      spell "', array(\n" ++ spell "    '_controller' => '" ++ controllerOf action ++ spell "',\n" ++
      spell "), array(), array(), '', array(), array(" ++ ofChars (phpMethods action) ++
      spell ")));\n"
  | .annotations => []

/-- What stands behind an entry: an empty line, except at the end of a file of entries alone. -/
def behindEntry (format : RoutingFormat) (last : Bool) : String :=
  match format, last with
  | .yaml, true => ""
  | _, _ => "\n"

theorem routeOutline_eq (action : Action) (last : Bool) :
    routeOutline action last = entryOutline .yaml action ++ spell (behindEntry .yaml last) := by
  unfold entryOutline routeOutline
  cases last
  · exact congrArg (· ++ spell "\n") (List.append_nil _).symm
  · exact (List.append_nil _).symm

theorem render_entry (facts : RouteScope values scope action last) {format : RoutingFormat}
    (hasFile : format.hasFile = true) :
    (renderPieces included scope (loopBody (routingFile format))).map Prod.fst =
      .ok (filled values (entryOutline format action ++ spell (behindEntry format last))) := by
  have forms := facts.forms
  have deletion := facts.deletion
  have methods (text : String) : Shows values (scope.assign "methods" (.string text))
      (.name "methods") (spell text) := by
    rw [Shows, Expr.eval, Scope.get_assign_self, filled_spell]
    rfl
  cases format with
  | annotations => cases hasFile
  | yaml =>
      rw [← routeOutline_eq]
      exact render_route facts
  | xml | php =>
      cases action
      all_goals
        simp only [routingFile, loopBody, xmlRouting, phpRouting, List.flatMap_cons,
          List.flatMap_nil, repeated_lines, repeated_each, List.append_nil, List.nil_append,
          renderPieces_text values, renderPieces_lines values, renderPieces_nil values,
          renderPieces_emit (facts.assign _).name, renderPieces_emit (facts.assign _).path,
          renderPieces_emit (facts.assign _).bundle, renderPieces_emit (facts.assign _).entity,
          renderPieces_emit (facts.assign _).word, renderPieces_emit (methods _),
          renderPieces_assign_text, renderPieces_branch forms, renderPieces_branch deletion,
          prepend_ok, isFormAction, isDeletion, cond_true, cond_false, List.cons_append, spell,
          entryOutline, behindEntry]
        repeat rewrite [String.toList_ofList]
        rfl

/-- The pattern of a format finds the route of an entry, and nothing else. -/
theorem read_entryOutline {format : RoutingFormat} (hasFile : format.hasFile = true)
    (action : Action) (last : Bool) :
    read? (kinds nothingKnown) (routePattern format)
        (entryOutline format action ++ spell (behindEntry format last)) =
      some [.gaps (foundInRoute format action)] := by
  cases format
  case annotations => cases hasFile
  case' yaml => cases last
  all_goals
    cases action
  -- the kernel reads fixed texts slowly, so that they are spelled out first
  all_goals
    simp only [entryOutline, routeOutline, behindEntry, if_true, spell, routePattern,
      Pattern.ofTexts, List.map_cons, List.map_nil]
    repeat rewrite [String.toList_ofList]
    decide +kernel

/-! ### The files -/

/-- The text around the routes says nothing of its own. -/
theorem exists_routing_outline {lines : List Char} {format : RoutingFormat}
    (hasFile : format.hasFile = true)
    (fillsRoutes : Fills (withBlock plan lines) included scope
      (each "action" (.name "actions") (loopBody (routingFile format))) (.block ())) :
    ∃ outline, renderPieces included scope (routingFile format) =
        .ok (filled (withBlock plan lines) outline, scope) ∧
      read? (kinds nothingKnown) (routePattern format) outline = some [.block (.block ())] := by
  cases format
  case annotations => cases hasFile
  all_goals
    apply Exists.intro
    constructor
    · simp only [routingFile, loopBody, yamlRouting, xmlRouting, phpRouting, List.flatMap_cons,
        List.flatMap_nil, repeated_lines, repeated_each, List.append_nil, List.nil_append]
        at fillsRoutes ⊢
      simp only [renderPieces_lines (withBlock plan lines), renderPieces_fills fillsRoutes,
        renderPieces_nil (withBlock plan lines), prepend_ok, List.flatMap_cons, List.flatMap_nil,
        spell]
      repeat rewrite [String.toList_ofList]
      rfl
    · decide +kernel

theorem named_routing {format : RoutingFormat} (hasFile : format.hasFile = true) :
    (GenerationPlan.routingSkeleton format.text, routingFile format) ∈ Library.packagedNames := by
  cases format with
  | annotations => cases hasFile
  | yaml | xml | php =>
      simp [Library.packagedNames, GenerationPlan.routingSkeleton, RoutingFormat.text, routingFile]

theorem gapsIn_routePattern_nil (format : RoutingFormat) : (routePattern format).gapsIn [] = [] := by
  revert format
  have each : ∀ format ∈ RoutingFormat.all, (routePattern format).gapsIn [] = [] := by
    decide +kernel
  intro format
  exact each format (by cases format <;> decide)

/-- The routing file of each format has a text, and declares the routes of the planned actions. -/
theorem exists_routing_text (plain : plan.HasPlainNames) {format : RoutingFormat}
    (hasFile : format.hasFile = true) (tree : FileTree) :
    ∃ text, Library.packaged.renderText tree (GenerationPlan.routingSkeleton format.text)
        plan.routingContext.bindings = .ok (CodeText.ofChars text) ∧
      (routePattern format).gapsIn text = plan.actions.actions.map fun action =>
        (foundInRoute format action).map (fill (details plan)) := by
  have pass : ∀ action ∈ plan.actions.actions, ∀ place first last,
      ∃ text, (renderPieces Library.included
          (itemScope "action" ⟨plan.routingContext.bindings, false, false⟩ place
            (.string action.text) first last) (loopBody (routingFile format))).map Prod.fst =
          .ok (CodeText.ofChars text) ∧
        ∀ _ : Unit, (routePattern format).Reads text
          [(foundInRoute format action).map (fill (details plan))] := by
    intro action _ place first last
    exact ⟨fill (details plan) (entryOutline format action ++ spell (behindEntry format last)),
      render_entry (routeScope_of_item plan action place first last) hasFile,
      fun _ => reads_details plain (read_entryOutline hasFile action last)⟩
  have bound : Scope.get ⟨plan.routingContext.bindings, false, false⟩ "actions" =
      Datum.ofActions plan.actions.actions := rfl
  obtain ⟨lines, fillsRoutes, saidInRoutes⟩ := exists_itemLoop bound rfl pass
  obtain ⟨outline, rendered, read⟩ :=
    exists_routing_outline hasFile (show Fills (withBlock plan lines) _ _ _ _ from fillsRoutes)
  refine ⟨fill (withBlock plan lines) outline, ?_, ?_⟩
  · refine Library.renderText_packaged (named_routing hasFile) rfl ?_
    rw [rendered]
    rfl
  · have reads := reads_withBlock plain (saidInRoutes ()) read
    rw [reads.gapsIn_eq (gapsIn_routePattern_nil format), List.flatMap_singleton, Finding.filled,
      saidInBlocks]
    exact List.map_eq_flatMap.symm

end EntityScaffold.Generated
