import EntityScaffold.Proofs.Generated.RoutingText
import EntityScaffold.Proofs.Generation.Routes
import EntityScaffold.Proofs.Yaml.RouteLines

/-
The whole text of a routing file. The passes over the planned actions render the entries of the routes,
an empty line between them; the lines of the format stand in front of the entries and behind them. That
is what is rendered for a plan, whatever characters its names hold, and plain names are found again in
it. The entries of a YAML file are also the lines of its routes.
-/

namespace EntityScaffold

open Skeleton Skeleton.Packaged
open Text (Outline joinWith)
open Text.Outline (fill spell ofChars)

namespace Skeleton

variable {scope : Scope} {included : CodeText → Scope → Except RenderFault CodeText}

def wholeLines (texts : List String) : List Char := texts.flatMap fun text => text.toList ++ ['\n']

theorem renderPiece_lines (scope : Scope) (texts : List String) :
    renderPiece included scope (lines texts) = .ok (CodeText.ofChars (wholeLines texts), scope) := by
  rw [lines, renderPiece, CodeText.ofString, toList_join_lines]
  rfl

/-- Pieces that leave the scope as it is give their texts one after another. -/
theorem renderPieces_cons_text {piece : Piece} {rest : List Piece} {text behind : List Char}
    (here : renderPiece included scope piece = .ok (CodeText.ofChars text, scope))
    (later : renderPieces included scope rest = .ok (CodeText.ofChars behind, scope)) :
    renderPieces included scope (piece :: rest) =
      .ok (CodeText.ofChars (text ++ behind), scope) := by
  rw [renderPieces_cons, here, CodeText.ofChars_append]
  change Skeleton.behind _ (renderPieces included scope rest) = _
  rw [later]
  rfl

end Skeleton

namespace DeclaredRoute

/-- Methods as the entry of a route lists them. -/
def listed (format : RoutingFormat) (methods : List (List Char)) : List Char :=
  match format with
  | .yaml => joinWith [',', ' '] methods
  | .xml => joinWith ['|'] methods
  | .php => joinWith [',', ' '] (methods.map fun method => '\'' :: (method ++ ['\'']))
  | .annotations => []

/-- The entry of a route, with the controller that answers it. -/
def entry (format : RoutingFormat) (route : DeclaredRoute) (controller : List Char) : List Char :=
  match format with
  | .yaml =>
    route.name ++ ":\n".toList ++ "    path:     ".toList ++ route.path ++ "\n".toList ++
      "    defaults: \x7b _controller: '".toList ++ controller ++ "' \x7d\n".toList ++
      "    methods:  [".toList ++ listed format route.methods ++ "]\n".toList
  | .xml =>
    "    <route id=\"".toList ++ route.name ++ "\" path=\"".toList ++ route.path ++
      "\" methods=\"".toList ++ listed format route.methods ++ "\">\n".toList ++
      "        <default key=\"_controller\">".toList ++ controller ++ "</default>\n".toList ++
      "    </route>\n".toList
  | .php =>
    "$collection->add('".toList ++ route.name ++ "', new Route('".toList ++ route.path ++
      "', array(\n".toList ++ "    '_controller' => '".toList ++ controller ++ "',\n".toList ++
      "), array(), array(), '', array(), array(".toList ++ listed format route.methods ++
      ")));\n".toList
  | .annotations => []

variable {plan : GenerationPlan}

theorem listed_methods (action : Action) :
    listed .yaml action.methods = Generated.yamlMethods action ∧
      listed .xml action.methods = Generated.xmlMethods action ∧
      listed .php action.methods = Generated.phpMethods action := by
  cases action <;> exact ⟨rfl, rfl, rfl⟩

/-- The entry of an action in the file of a plan. -/
def entryOf (plan : GenerationPlan) (format : RoutingFormat) (action : Action) : List Char :=
  entry format (ofAction plan action) (answering plan action)

theorem fill_entryOutline (plan : GenerationPlan) (format : RoutingFormat) (action : Action) :
    fill (Generated.details plan) (Generated.entryOutline format action) =
      entryOf plan format action := by
  obtain ⟨yaml, xml, php⟩ := listed_methods action
  unfold Generated.entryOutline Generated.routeOutline entryOf entry
  cases format with
  | annotations => rfl
  | yaml | xml | php =>
      simp only [Text.Outline.fill_append, spell, Text.Outline.fill_ofChars, fill_nameOf,
        fill_pathOf, fill_controllerOf, ofAction, yaml, xml, php, if_true, String.toList_empty,
        List.append_nil]

/-- The lines in front of the entries of a file. -/
def openingLines : RoutingFormat → List String
  | .xml => [
    "<?xml version=\"1.0\" encoding=\"UTF-8\" ?>",
    "",
    "<routes xmlns=\"http://symfony.com/schema/routing\"",
    "    xmlns:xsi=\"http://www.w3.org/2001/XMLSchema-instance\"",
    "    xsi:schemaLocation=\"http://symfony.com/schema/routing http://symfony.com/schema/routing/routing-1.0.xsd\">",
    ""]
  | .php => [
    "<?php",
    "",
    "use Symfony\\Component\\Routing\\RouteCollection;",
    "use Symfony\\Component\\Routing\\Route;",
    "",
    "$collection = new RouteCollection();",
    ""]
  | .yaml | .annotations => []

/-- The lines behind the entries, an empty one before the last. -/
def closingLines : RoutingFormat → List String
  | .xml => ["", "</routes>"]
  | .php => ["", "return $collection;"]
  | .yaml | .annotations => []

/-- The text of the file of some routes, each with the controller that answers it. -/
def fileText (format : RoutingFormat) (routes : List (DeclaredRoute × List Char)) : List Char :=
  wholeLines (openingLines format) ++
    (joinWith ['\n'] (routes.map fun route => entry format route.1 route.2) ++
      wholeLines (closingLines format))

/-- The passes over the actions render their entries. -/
theorem passes_entries {included : CodeText → Scope → Except RenderFault CodeText}
    {format : RoutingFormat} (hasFile : format.hasFile = true) {total : Nat} (first : Action)
    (actions : List Action) (index : Nat) :
    passes (fun told datum => told.assign "action" datum)
        (fun inner => (renderPieces included inner
          (loopBody (Generated.routingFile format))).map Prod.fst)
        ⟨plan.routingContext.bindings, false, false⟩ total index
        ((first :: actions).map fun action => .string action.text) =
      .ok (CodeText.ofChars (joinWith ['\n'] ((first :: actions).map (entryOf plan format)) ++
        (Generated.behindEntry format true).toList)) := by
  have pass (action : Action) (place : Datum) (isFirst last : Bool) :=
    @Generated.render_entry _ _ action last included
      (Generated.routeScope_of_item plan action place isFirst last) format hasFile
  simp only [filled, Text.Outline.fill_append, fill_entryOutline, spell,
    Text.Outline.fill_ofChars] at pass
  induction actions generalizing first index with
  | nil =>
      refine (passes_cons (pass first _ _ true) rfl).trans ?_
      rw [List.append_nil]
      rfl
  | cons next rest ih =>
      refine (passes_cons (pass first _ _ false) (ih next (index + 1))).trans ?_
      have between : (Generated.behindEntry format false).toList = ['\n'] := by
        cases format <;> rfl
      rw [← CodeText.ofChars_append, between, ← List.append_assoc, List.map_cons, List.map_cons,
        List.map_cons, Text.joinWith_cons_cons]

end DeclaredRoute

namespace GenerationPlan

variable (plan : GenerationPlan)

def routes : List (DeclaredRoute × List Char) :=
  plan.actions.actions.map fun action =>
    (DeclaredRoute.ofAction plan action, DeclaredRoute.answering plan action)

variable {plan}

theorem entries_routes (plan : GenerationPlan) (format : RoutingFormat) :
    plan.routes.map (fun route => DeclaredRoute.entry format route.1 route.2) =
      plan.actions.actions.map (DeclaredRoute.entryOf plan format) := by
  rw [routes, List.map_map]
  rfl

set_option maxRecDepth 4000

theorem renderText_routes (someActions : plan.actions.actions ≠ []) {format : RoutingFormat}
    (hasFile : format.hasFile = true) (tree : FileTree) :
    Library.packaged.renderText tree (routingSkeleton format.text) plan.routingContext.bindings =
      .ok (CodeText.ofChars (DeclaredRoute.fileText format plan.routes)) := by
  obtain ⟨first, actions, listed⟩ := List.exists_cons_of_ne_nil someActions
  have bound : (Expr.name "actions").eval ⟨plan.routingContext.bindings, false, false⟩ =
      .ok (Datum.ofActions plan.actions.actions) := rfl
  have items : (Datum.ofActions plan.actions.actions).items =
      .ok ((first :: actions).map fun action => .string action.text) := by
    rw [listed]
    rfl
  have loop := @renderPiece_each ⟨plan.routingContext.bindings, false, false⟩
    Library.included "action" (.name "actions") (loopBody (Generated.routingFile format))
    _ _ bound items
  rw [DeclaredRoute.passes_entries hasFile] at loop
  refine Library.renderText_packaged (Generated.named_routing hasFile) rfl ?_
  rw [DeclaredRoute.fileText, entries_routes, listed]
  -- what the entries are plays no part in what stands around them
  generalize joinWith ['\n'] ((first :: actions).map (DeclaredRoute.entryOf plan format)) = entries
    at loop
  have nothing : renderPieces Library.included ⟨plan.routingContext.bindings, false, false⟩
      [] = .ok (CodeText.ofChars [], ⟨plan.routingContext.bindings, false, false⟩) := rfl
  have closing (texts : List String) := renderPieces_cons_text (renderPiece_lines _ texts) nothing
  cases format with
  | annotations => cases hasFile
  | yaml =>
      refine (congrArg (Except.map Prod.fst) (renderPieces_cons_text loop nothing)).trans ?_
      rw [List.append_assoc]
      rfl
  | xml | php =>
      refine (congrArg (Except.map Prod.fst) (renderPieces_cons_text (renderPiece_lines _ _)
        (renderPieces_cons_text loop (closing _)))).trans ?_
      rw [List.append_assoc, List.append_nil]
      rfl

/-- Plain names are found again in the text of a routing file. -/
theorem inFile_fileText (plain : plan.HasPlainNames) (someActions : plan.actions.actions ≠ [])
    {format : RoutingFormat} (hasFile : format.hasFile = true) :
    DeclaredRoute.inFile format (DeclaredRoute.fileText format plan.routes) = plan.routes := by
  obtain ⟨text, rendered, declared⟩ := exists_routing_file plain hasFile .empty
  rw [renderText_routes someActions hasFile] at rendered
  rw [CodeText.ofChars_injective (Except.ok.inj rendered)]
  exact declared

theorem names_routes (plan : GenerationPlan) :
    plan.routes.map (fun route => route.1.name) = plan.actions.actions.map fun action =>
      plan.request.routeNamePrefix.toList ++ action.nameEnd := by
  rw [routes, List.map_map]
  exact List.map_congr_left fun action _ => Route.name_toList _ action

end GenerationPlan

/-! ### Lines of YAML -/

namespace Yaml.RouteLines

variable {plan : GenerationPlan} {first : Action} {actions : List Action}

def ofAction (plan : GenerationPlan) (action : Action) : RouteLines where
  name := (DeclaredRoute.ofAction plan action).name
  path := (DeclaredRoute.ofAction plan action).path
  controller := DeclaredRoute.answering plan action
  methods := (DeclaredRoute.ofAction plan action).methods

theorem entryOf_yaml (plan : GenerationPlan) (action : Action) :
    DeclaredRoute.entryOf plan .yaml action = (ofAction plan action).text ['\n'] := by
  rw [text, behindName, fromDefaults, fromController, behindDefaults, fromMethods]
  unfold DeclaredRoute.entryOf DeclaredRoute.entry DeclaredRoute.listed
  dsimp only
  repeat rewrite [String.toList_ofList]
  simp [ofAction, indented, pathKey, defaultsKey, controllerKey, methodsKey, List.replicate]

theorem text_append (route : RouteLines) (below further : List Char) :
    route.text below ++ further = route.text (below ++ further) := by
  simp [text, behindName, fromDefaults, fromController, behindDefaults, fromMethods, indented]

/-- The entries of a YAML file are the text of the routes. -/
theorem joinWith_entries (first : Action) (actions : List Action) :
    joinWith ['\n'] ((first :: actions).map (DeclaredRoute.entryOf plan .yaml)) =
      (ofAction plan first).text (following (actions.map (ofAction plan))) := by
  induction actions generalizing first with
  | nil => exact entryOf_yaml plan first
  | cons next rest ih =>
      rw [List.map_cons, List.map_cons, Text.joinWith_cons_cons, ← List.map_cons, ih, entryOf_yaml,
        text_append, text_append]
      rfl

/-- The routing file that is rendered for a plan is the text of its routes. -/
theorem renderText_routing (listed : plan.actions.actions = first :: actions) (tree : FileTree) :
    Library.packaged.renderText tree (GenerationPlan.routingSkeleton RoutingFormat.yaml.text)
        plan.routingContext.bindings =
      .ok (CodeText.ofChars
        ((ofAction plan first).text (following (actions.map (ofAction plan))))) := by
  have someActions : plan.actions.actions ≠ [] := listed ▸ List.cons_ne_nil first actions
  rw [GenerationPlan.renderText_routes someActions rfl, DeclaredRoute.fileText,
    GenerationPlan.entries_routes, listed, joinWith_entries]
  exact congrArg (Except.ok ∘ CodeText.ofChars) (List.append_nil _)

end Yaml.RouteLines

end EntityScaffold
