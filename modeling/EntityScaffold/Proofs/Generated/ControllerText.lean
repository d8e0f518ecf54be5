import EntityScaffold.Proofs.Generated.ActionText
import EntityScaffold.Proofs.Generated.Declaration
import EntityScaffold.Proofs.Skeleton.Lookup

/-
The text of a controller. In front of the class stand lines about which little is known, for they
hold name spaces; the class itself begins with the last line that begins with its word. Its body says
what the methods of the planned actions say, one after another, and its annotation gives the start of
the paths.
-/

namespace EntityScaffold

namespace Generated

open Skeleton Skeleton.Packaged
open Text (Outline Pattern)
open Text.Outline (Finding Fits blocks fill gapsIn? spell ofChars read? reads_of_read?)

variable {plan : GenerationPlan} {withWrite : Bool}

/-! ### The scope -/

/-- The bundle and the entity with a colon between them. -/
def reference (plan : GenerationPlan) (entity : Detail) : CodeText :=
  CodeText.ofChars (Detail.bundle.ofPlan plan ++ ':' :: entity.ofPlan plan)

/-- The scope behind the names that the controller assigns. -/
def controllerScope (plan : GenerationPlan) : Scope :=
  (((Scope.assign ⟨plan.controllerContext.bindings, false, false⟩
    "entity_ref" (.text (reference plan .entityClass))).assign
    "view_ref" (.text (reference plan .entityPath))).assign
    "annotated" (.flag (plan.format = .annotations))).assign
    "class_route" (.string (Route.base plan.request.routePrefix))

theorem eval_reference {scope : Scope} {mark : Char} {entity : Detail}
    (bundle : scope.get "bundle" = .string plan.request.bundle.name)
    (bound : scope.get "entity" = .string plan.request.entity)
    (same : entity.ofPlan plan = Text.replaceChar '.' mark plan.request.entity.toList) :
    (Expr.joined [.name "bundle", .text ":", entityWith mark]).eval scope =
      .ok (.text (reference plan entity)) := by
  have parts : ShowAll (details plan) scope [.name "bundle", .text ":", entityWith mark]
      [[.hole (.detail .bundle)], spell ":", [.hole (.detail entity)]] :=
    .cons (shows_detail bundle rfl) (.cons (shows_text _ _ _)
      (.cons (shows_entityWith bound same) (showAll_nil _ _)))
  have whole := parts.joined
  rw [Shows, spell, String.toList_ofList] at whole
  rw [whole]
  simp [filled, fill, ofChars, details, fillings, reference]

theorem filled_reference (plan : GenerationPlan) (entity : Detail) :
    filled (details plan) [.hole (.detail .bundle), .char ':', .hole (.detail entity)] =
      reference plan entity := by
  simp [filled, fill, details, fillings, reference]

theorem actionScope_of_item (actions : plan.actions = ActionPlan.make withWrite)
    (place datum : Datum) (first last : Bool) :
    ActionScope (details plan)
      ⟨(itemScope "action" (controllerScope plan) place datum first last).bindings, false, false⟩
      (plan.format = .annotations) withWrite where
  className := shows_detail rfl rfl
  entityRef := congrArg (fun text => Except.ok (Datum.text text)) (filled_reference plan _).symm
  viewRef := congrArg (fun text => Except.ok (Datum.text text)) (filled_reference plan _).symm
  route := fun action => shows_routeTo rfl rfl
  annotated := rfl
  hasShow := by
    have among : plan.actions.actions.contains .show = true := by
      rw [actions]
      cases withWrite <;> rfl
    exact among ▸ eval_contains_actions rfl .show
  hasDelete := by
    have among : plan.actions.actions.contains .delete = withWrite := by
      rw [actions]
      cases withWrite <;> rfl
    exact among ▸ eval_contains_actions rfl .delete

/-! ### The methods of the actions -/

def saidByAction (plan : GenerationPlan) (action : Action) (part : ClassPart) :
    List (List (List Char)) :=
  (foundInAction (plan.format = .annotations) plan.request.withWrite action part).flatMap
    (Finding.filled (details plan) (saidInBlocks Empty.elim))

theorem named_action (action : Action) :
    ("actions/" ++ action.text, actionSkeleton action) ∈ Library.packagedNames := by
  cases action <;> simp [Library.packagedNames, actionSkeleton, Action.text]

theorem reads_emptyLine (part : ClassPart) : part.pattern.Reads ['\n'] [] := by
  have read : ∀ part ∈ ClassPart.all,
      read? (kinds nothingKnown) part.pattern [(.char '\n' : Text.Symbol (Hole Empty))] =
        some [] := by decide +kernel
  have fits : Fits (kinds nothingKnown) (fun _ : Hole Empty => []) := fun _ _ _ _ member => by
    cases member
  exact @reads_of_read? _ _ _ _ fits (fun _ => []) _ _ (fun _ _ _ => .nil _)
    (read part part.mem_all)

theorem eval_actionFile {scope : Scope} {action : Action}
    (bound : scope.get "action" = .string action.text) :
    (Expr.joined [.text "actions/", .name "action"]).eval scope =
      .ok (.string ("actions/" ++ action.text)) := by
  have parts : evalAll scope [.text "actions/", .name "action"] =
      .ok (["actions/", action.text].map Datum.string) := by
    rw [evalAll, evalAll, evalAll, Expr.eval, Expr.eval, bound]
    rfl
  rw [eval_joined parts, Datum.string, CodeText.ofString, String.toList_append, List.flatMap_cons,
    List.flatMap_singleton]

/-- The pass for an action writes its method, and an empty line unless it is the last one. What the
method says is known when the names are plain. -/
theorem exists_action_text {scope : Scope} {action : Action}
    (bound : scope.get "action" = .string action.text)
    (facts : ActionScope (details plan) ⟨scope.bindings, false, false⟩
      (plan.format = .annotations) plan.request.withWrite) :
    ∃ text, (renderPieces Library.included scope (loopBody controller)).map Prod.fst =
        .ok (CodeText.ofChars text) ∧
      ∀ part : PLift plan.HasPlainNames × ClassPart,
        part.2.pattern.Reads text (saidByAction plan action part.2) := by
  obtain ⟨outline, rendered, read⟩ :=
    @exists_action_outline _ _ _ _ (fun _ _ => .error .notFound) facts action
  have isIncluded : renderPiece Library.included scope
      (.include (.joined [.text "actions/", .name "action"])) =
        .ok (filled (details plan) outline, scope) := by
    refine renderPiece_include (eval_actionFile bound) ?_
    rw [Library.included_packaged (named_action action), rendered]
    rfl
  have goesOn : (Expr.negated .isLast).eval scope = .ok (.flag !scope.isLast) := rfl
  have said : ∀ part : PLift plan.HasPlainNames × ClassPart,
      part.2.pattern.Reads (fill (details plan) outline) (saidByAction plan action part.2) :=
    fun part => reads_details part.1.down (read part.2 part.2.mem_all)
  change ∃ text, (renderPieces _ scope (.include _ :: when _ _ :: [])).map Prod.fst = _ ∧ _
  rw [renderPieces_of_piece isIncluded, when, renderPieces_branch goesOn]
  cases scope.isLast with
  | true =>
      refine ⟨fill (details plan) outline, ?_, said⟩
      rw [Bool.not_true, cond_false, List.append_nil, renderPieces_nil (details plan), prepend_ok,
        List.append_nil]
      rfl
  | false =>
      refine ⟨fill (details plan) outline ++ ['\n'], ?_, fun part => ?_⟩
      · rw [Bool.not_false, cond_true, List.append_nil, renderPieces_lines (details plan),
          renderPieces_nil (details plan), prepend_ok, prepend_ok]
        simp [filled, fill, Text.Outline.fill_append, spell, Except.map]
      · have both := (said part).append (reads_emptyLine part.2)
        rwa [List.append_nil] at both

/-! ### The class -/

def headerPieces : List Piece := (controller.drop 4).take 10

def commentPieces : List Piece := (controller.drop 14).take 7

def classPieces : List Piece := controller.drop 21

theorem controller_eq :
    controller = controller.take 4 ++ (headerPieces ++ (commentPieces ++ classPieces)) := rfl

set_option maxRecDepth 4000

def foundOfClass (annotated : Bool) : List (Finding (Hole Unit)) :=
  (if annotated then [.gaps [[.hole (.detail .pathStart)]]] else []) ++ [.block (.block ())]

/-- The class and its comment are what two outlines become. The comment ends where the name of the
class begins, and beside the methods the class says nothing. -/
theorem exists_class_outlines {methods : List Char}
    {included : CodeText → Scope → Except RenderFault CodeText}
    (fillsMethods : Fills (withBlock plan methods) included (controllerScope plan)
      (each "action" (.name "actions") (loopBody controller)) (.block ())) :
    ∃ comment body,
      renderPieces included (controllerScope plan) commentPieces =
          .ok (filled (withBlock plan methods) comment, controllerScope plan) ∧
        renderPieces included (controllerScope plan) classPieces =
          .ok (filled (withBlock plan methods) body, controllerScope plan) ∧
        comment.head? = some (.char '\n') ∧ ofChars "\nclass ".toList <:+ comment ∧
        (∀ part ∈ ClassPart.all, read? (kinds nothingKnown) part.pattern body =
          some [.block (.block ())]) ∧
        read? (kinds nothingKnown) ClassPart.classRoute.pattern (comment.tail ++ body) =
          some (foundOfClass (plan.format = .annotations)) ∧
        read? (kinds nothingKnown) ClassPart.address.pattern (comment.tail ++ body) =
          some [.block (.block ())] ∧
        Declaration.classStart (.detail .className) "Controller" "Controller" <+: body ∧
        gapsIn? (lacking ['\n']) Declaration.classLine (blocks (lacking ['\n']) (comment ++ body)).1 =
          some [Declaration.classGap (.detail .className) "Controller" "Controller"] := by
  have className : Shows (withBlock plan methods) (controllerScope plan) (.name "entity_class")
      [.hole (.detail .className)] := shows_detail rfl rfl
  have classRoute : Shows (withBlock plan methods) (controllerScope plan) (.name "class_route")
      [.hole (.detail .pathStart)] := shows_detail rfl rfl
  have isAnnotated : (Expr.name "annotated").eval (controllerScope plan) =
      .ok (.flag (plan.format = .annotations)) := rfl
  generalize decide (plan.format = .annotations) = annotated at isAnnotated
  cases annotated
  all_goals
    apply Exists.intro
    apply Exists.intro
    refine ⟨?_, ?_, ?_, ?_, ?_, ?_, ?_, ?_, ?_⟩
    · simp only [commentPieces, controller, when, List.drop_succ_cons, List.drop_zero,
        List.take_succ_cons, List.take_zero, renderPieces_emit className,
        renderPieces_emit classRoute, renderPieces_text (withBlock plan methods),
        renderPieces_lines (withBlock plan methods), renderPieces_branch isAnnotated,
        renderPieces_nil (withBlock plan methods), prepend_ok, cond_true, cond_false,
        List.cons_append, List.nil_append]
      simp only [List.flatMap_cons, List.flatMap_nil, spell]
      repeat rewrite [String.toList_ofList]
      rfl
    · change renderPieces _ _ (.emit _ :: .text _ :: lines _ ::
        each "action" (.name "actions") (loopBody controller) :: lines _ :: []) = _
      simp only [renderPieces_emit className, renderPieces_text (withBlock plan methods),
        renderPieces_lines (withBlock plan methods), renderPieces_fills fillsMethods,
        renderPieces_nil (withBlock plan methods), prepend_ok]
      simp only [List.flatMap_cons, List.flatMap_nil, spell]
      repeat rewrite [String.toList_ofList]
      rfl
    · rfl
    all_goals decide +kernel

/-! ### The lines in front of the class -/

inductive HeaderName where
  | own
  | entity
  | form
  deriving DecidableEq

def headerValues (plan : GenerationPlan) : HeaderName → List Char
  | .own => nameSpaceChars [plan.request.bundle.nameSpace, plan.paths.controllerNameSpace,
      plan.paths.entity.nameSpace]
  | .entity => nameSpaceChars [plan.request.bundle.nameSpace, "Entity", plan.request.entity]
  | .form => nameSpaceChars [plan.request.bundle.nameSpace, "Form", plan.request.entity ++ "Type"]

/-- The names in front of the class when none of them holds a line break. -/
def withinLines (_ : HeaderName) : Text.HoleKind := .within (· != '\n')

theorem eval_typeName {scope : Scope} {entity : String} (bound : scope.get "entity" = .string entity) :
    (Expr.joined [.name "entity", .text "Type"]).eval scope = .ok (.string (entity ++ "Type")) := by
  have parts : evalAll scope [.name "entity", .text "Type"] =
      .ok ([entity, "Type"].map Datum.string) := by
    rw [evalAll, evalAll, evalAll, Expr.eval, Expr.eval, bound]
    rfl
  rw [eval_joined parts, Datum.string, CodeText.ofString, String.toList_append, List.flatMap_cons,
    List.flatMap_singleton]

theorem exists_header_outline (actions : plan.actions = ActionPlan.make withWrite)
    {included : CodeText → Scope → Except RenderFault CodeText} :
    ∃ outline, renderPieces included (controllerScope plan) headerPieces =
        .ok (filled (headerValues plan) outline, controllerScope plan) ∧
      .char '\'' ∉ outline ∧
      Declaration.opening HeaderName.own <+: outline ∧
      gapsIn? withinLines Declaration.nameSpaceLine outline =
        some [Declaration.nameSpaceGap HeaderName.own] ∧
      gapsIn? withinLines Declaration.classLine outline = some [] := by
  have own : Shows (headerValues plan) (controllerScope plan)
      (.nameSpace [.name "namespace", .name "controller_namespace", .name "entity_namespace"])
      [.hole .own] := shows_nameSpace rfl rfl
  have entity : Shows (headerValues plan) (controllerScope plan)
      (.nameSpace [.name "namespace", .text "Entity", .name "entity"]) [.hole .entity] :=
    shows_nameSpace rfl rfl
  have form : Shows (headerValues plan) (controllerScope plan)
      (.nameSpace [.name "namespace", .text "Form", .joined [.name "entity", .text "Type"]])
      [.hole .form] := by
    refine @shows_nameSpace _ _ _ _ _ [_, _, _] ?_ rfl
    rw [evalAll, evalAll, evalAll, evalAll, eval_typeName rfl]
    rfl
  have isAnnotated : (Expr.name "annotated").eval (controllerScope plan) =
      .ok (.flag (plan.format = .annotations)) := rfl
  have hasForms : (Expr.either (hasAction "new") (hasAction "edit")).eval (controllerScope plan) =
      .ok (.flag withWrite) := by
    have new : (hasAction "new").eval (controllerScope plan) =
        .ok (.flag (plan.actions.actions.contains .new)) := eval_contains_actions rfl .new
    have edit : (hasAction "edit").eval (controllerScope plan) =
        .ok (.flag (plan.actions.actions.contains .edit)) := eval_contains_actions rfl .edit
    rw [Expr.eval, new, edit, actions]
    cases withWrite <;> rfl
  generalize decide (plan.format = .annotations) = annotated at isAnnotated
  cases annotated <;> cases withWrite
  all_goals
    apply Exists.intro
    refine ⟨?_, ?_, ?_, ?_, ?_⟩
    · simp only [headerPieces, controller, when, List.drop_succ_cons, List.drop_zero,
        List.take_succ_cons, List.take_zero, renderPieces_emit own, renderPieces_emit entity,
        renderPieces_emit form, renderPieces_text (headerValues plan),
        renderPieces_lines (headerValues plan), renderPieces_branch isAnnotated,
        renderPieces_branch hasForms, renderPieces_nil (headerValues plan), prepend_ok, cond_true,
        cond_false, List.cons_append, List.nil_append]
      simp only [List.flatMap_cons, List.flatMap_nil, spell]
      repeat rewrite [String.toList_ofList]
      rfl
    all_goals decide +kernel

theorem not_mem_headerValues {char : Char} (lacks : plan.Lacks char)
    (other : char ≠ '\x5c' ∧ ∀ word ∈ ["Entity", "Form", "Type"], char ∉ word.toList)
    (name : HeaderName) : char ∉ headerValues plan name := by
  have typeName : char ∉ (plan.request.entity ++ "Type").toList := by
    rw [String.toList_append, List.mem_append, not_or]
    exact ⟨lacks.names.entity, other.2 "Type" (by decide)⟩
  intro member
  cases name with
  | own | entity | form =>
      rcases mem_of_mem_nameSpaceChars member with mark | ⟨part, listed, inside⟩
      · exact other.1 mark
      · simp only [List.mem_cons, List.not_mem_nil, or_false] at listed
        rcases listed with same | same | same <;> subst same
        · exact lacks.nameSpace inside
        · first
            | exact lacks.controllerNameSpace inside
            | exact other.2 _ (by decide) inside
        · first
            | exact lacks.entityNameSpace inside
            | exact lacks.names.entity inside
            | exact typeName inside

/-! ### The whole text -/

/-- What stands behind the last line that begins with the word of classes. -/
def classBody (text : List Char) : List Char :=
  ((ClassPart.classLine.pattern.last? text).map Prod.snd).getD []

theorem exists_methods (actions : plan.actions = ActionPlan.make plan.request.withWrite) :
    ∃ methods, Fills (withBlock plan methods) Library.included (controllerScope plan)
        (each "action" (.name "actions") (loopBody controller)) (.block ()) ∧
      (plan.HasPlainNames → ∀ part : ClassPart, part.pattern.Reads methods
        (plan.actions.actions.flatMap fun action => saidByAction plan action part)) := by
  have bound : (controllerScope plan).get "actions" = Datum.ofActions plan.actions.actions := rfl
  obtain ⟨methods, fillsMethods, said⟩ := exists_itemLoop bound rfl
    fun action _ place first last =>
      exists_action_text (itemScope_get_self _ place (.string action.text) first last)
        (actionScope_of_item actions place (.string action.text) first last)
  exact ⟨methods, fillsMethods, fun plain part => said (⟨plain⟩, part)⟩

theorem renderPieces_controller (included : CodeText → Scope → Except RenderFault CodeText)
    (plan : GenerationPlan) :
    renderPieces included ⟨plan.controllerContext.bindings, false, false⟩ controller =
      renderPieces included (controllerScope plan)
        (headerPieces ++ (commentPieces ++ classPieces)) := by
  have asksAnnotated (scope : Scope) (bound : scope.get "format" = .string plan.format.text) :
      (Expr.equals (.name "format") "annotation").eval scope =
        .ok (.flag (plan.format = .annotations)) := by
    rw [eval_equals_string bound]
    cases plan.format <;> rfl
  have base (scope : Scope) (bound : scope.get "route_prefix" = .string plan.request.routePrefix) :
      (Expr.routeBase (.name "route_prefix")).eval scope =
        .ok (.string (Route.base plan.request.routePrefix)) := by
    rw [Expr.eval, Expr.eval, bound]
    change Except.ok (Datum.text (Route.baseText (CodeText.ofString _))) = _
    rw [Route.baseText_ofString]
    rfl
  rw [controller_eq]
  change renderPieces included _ (.assign "entity_ref" _ :: .assign "view_ref" _ ::
    .assign "annotated" _ :: .assign "class_route" _ :: (_ ++ _)) = _
  rw [renderPieces_assign (@eval_reference plan _ _ .entityClass rfl rfl rfl),
    renderPieces_assign (@eval_reference plan _ _ .entityPath rfl rfl rfl),
    renderPieces_assign (asksAnnotated _ rfl), renderPieces_assign (base _ rfl)]
  rfl

theorem renderText_controller {tree : FileTree} {methods : List Char} {header : Outline HeaderName}
    {comment body : Outline (Hole Unit)}
    (headerRendered : renderPieces Library.included (controllerScope plan) headerPieces =
      .ok (filled (headerValues plan) header, controllerScope plan))
    (commentRendered : renderPieces Library.included (controllerScope plan)
      commentPieces = .ok (filled (withBlock plan methods) comment, controllerScope plan))
    (bodyRendered : renderPieces Library.included (controllerScope plan) classPieces =
      .ok (filled (withBlock plan methods) body, controllerScope plan)) :
    Library.packaged.renderText tree "controller" plan.controllerContext.bindings =
      .ok (CodeText.ofChars (fill (headerValues plan) header ++
        (fill (withBlock plan methods) comment ++ fill (withBlock plan methods) body))) := by
  have listed : ("controller", controller) ∈ Library.packagedNames := by
    simp [Library.packagedNames]
  refine Library.renderText_packaged listed rfl ?_
  rw [renderPieces_controller, renderPieces_append, headerRendered]
  change (behind _ (renderPieces _ _ (commentPieces ++ classPieces))).map Prod.fst = _
  rw [renderPieces_append, commentRendered]
  change (behind _ (behind _ (renderPieces _ _ classPieces))).map Prod.fst = _
  rw [bodyRendered, CodeText.ofChars_append, CodeText.ofChars_append]
  rfl

theorem gapsIn_nil (part : ClassPart) : part.pattern.gapsIn [] = [] := by
  have each : ∀ part ∈ ClassPart.all, part.pattern.gapsIn [] = [] := by decide +kernel
  exact each part part.mem_all

theorem classLine_pattern :
    ClassPart.classLine.pattern = ⟨'\n' :: ['c', 'l', 'a', 's', 's', ' '], []⟩ := by
  rw [ClassPart.pattern, Pattern.ofTexts, String.toList_ofList]
  rfl

theorem saidByActions_of_class {part : ClassPart} (ofClass : part = .classLine ∨ part = .classRoute)
    (actions : List Action) :
    (actions.flatMap fun action => saidByAction plan action part) = [] := by
  refine List.flatMap_eq_nil_iff.mpr fun action _ => ?_
  rcases ofClass with same | same <;> subst same <;> rfl

/-- The controller has a text. The body of its class says what its actions say, the annotation of the
class gives the start of all paths, and the addresses in the class are all there are when the name
spaces hold no quote. -/
theorem exists_controller_text (plain : plan.HasPlainNames)
    (actions : plan.actions = ActionPlan.make plan.request.withWrite) (tree : FileTree) :
    ∃ text, Library.packaged.renderText tree "controller" plan.controllerContext.bindings =
        .ok (CodeText.ofChars text) ∧
      (∀ part : ClassPart, part.pattern.gapsIn (classBody text) =
        plan.actions.actions.flatMap fun action => saidByAction plan action part) ∧
      (plan.format = .annotations →
        (ClassPart.classRoute.pattern.gapsIn text).getLast? =
          some [Detail.pathStart.ofPlan plan]) ∧
      ('\'' ∉ plan.request.bundle.nameSpace.toList →
        '\'' ∉ plan.paths.controllerNameSpace.toList →
        ClassPart.address.pattern.gapsIn text =
          plan.actions.actions.flatMap fun action => saidByAction plan action .address) := by
  obtain ⟨methods, fillsMethods, ofPlain⟩ := exists_methods actions
  have saidInMethods := ofPlain plain
  obtain ⟨header, headerRendered, unquoted, _⟩ :=
    @exists_header_outline plan _ actions Library.included
  obtain ⟨comment, body, commentRendered, bodyRendered, opens, closes, parts, route, addresses, _⟩ :=
    exists_class_outlines fillsMethods
  have said (part : ClassPart) {outline : Outline (Hole Unit)} {findings : List (Finding (Hole Unit))}
      (read : read? (kinds nothingKnown) part.pattern outline = some findings) :
      part.pattern.gapsIn (fill (withBlock plan methods) outline) =
        findings.flatMap (Finding.filled (withBlock plan methods) (saidInBlocks fun _ =>
          plan.actions.actions.flatMap fun action => saidByAction plan action part)) :=
    (reads_of_outline plain (fun _ _ _ => rfl) (fun _ => saidInMethods part) read).gapsIn_eq
      (gapsIn_nil part)
  have saidInBody (part : ClassPart) :
      part.pattern.gapsIn (fill (withBlock plan methods) body) =
        plan.actions.actions.flatMap fun action => saidByAction plan action part := by
    rw [said part (parts part part.mem_all), List.flatMap_singleton]
    rfl
  refine ⟨fill (headerValues plan) header ++
    (fill (withBlock plan methods) comment ++ fill (withBlock plan methods) body),
    renderText_controller headerRendered commentRendered bodyRendered, ?_, ?_, ?_⟩
  · -- the body begins behind the last line that begins with the word of classes
    intro part
    obtain ⟨front, same⟩ := closes
    have class_ := Pattern.last?_of_line classLine_pattern (by decide)
      ((saidInBody .classLine).trans (saidByActions_of_class (Or.inl rfl) _))
      (fill (headerValues plan) header ++ fill (withBlock plan methods) front)
    have word : "\nclass ".toList = '\n' :: ['c', 'l', 'a', 's', 's', ' '] := String.toList_ofList
    rw [← same, Text.Outline.fill_append, Text.Outline.fill_ofChars, word, classBody]
    rw [List.append_assoc] at class_
    rw [List.append_assoc, List.cons_append, class_]
    exact saidInBody part
  · -- whatever the names in the header look like, the annotation of the class comes last
    intro annotated
    obtain ⟨rest, same⟩ := List.head?_eq_some_iff.mp opens
    rw [same, List.tail_cons, decide_eq_true annotated] at route
    have saidOfClass := said .classRoute route
    rw [saidByActions_of_class (Or.inr rfl)] at saidOfClass
    obtain ⟨earlier, whole⟩ := ClassPart.classRoute.pattern.exists_gapsIn_append
      (fill (headerValues plan) header) (fill (withBlock plan methods) (rest ++ body))
    rw [← Text.Outline.fill_append, same, List.cons_append, fill, whole, saidOfClass]
    have start : fill (withBlock plan methods) [.hole (.detail .pathStart)] =
        Detail.pathStart.ofPlan plan := List.append_nil _
    rw [← start]
    exact List.getLast?_concat
  · -- without a quote the header holds no address
    intro inBundle inController
    obtain ⟨rest, same⟩ := List.head?_eq_some_iff.mp opens
    have saidInClass := said .address addresses
    rw [same, List.tail_cons, List.flatMap_singleton] at saidInClass
    have lacks : plan.Lacks '\'' := plain.lacks rfl inBundle inController
    have noQuote := Text.Outline.not_mem_fill unquoted (not_mem_headerValues lacks (by decide))
    obtain ⟨inOpening, withinLine⟩ : '\'' ∈ ClassPart.address.pattern.opening ∧
        '\n' ∉ ClassPart.address.pattern.opening := by decide +kernel
    rw [← Text.Outline.fill_append, same, List.cons_append, fill,
      Pattern.gapsIn_append_of_absent inOpening withinLine noQuote, saidInClass]
    rfl

/-! ### The declaration -/

def controllerDeclaration (plan : GenerationPlan) : Declaration where
  nameSpace := headerValues plan .own
  name := plan.paths.entity.className.toList ++ "Controller".toList

/-- The controller declares its class, whatever its names are; when they are within their lines, the
declaration is the one that is read. -/
theorem exists_controller_declaration
    (actions : plan.actions = ActionPlan.make plan.request.withWrite) (tree : FileTree) :
    ∃ text, Library.packaged.renderText tree "controller" plan.controllerContext.bindings =
        .ok (CodeText.ofChars text) ∧
      (controllerDeclaration plan).IsIn "Controller".toList text ∧
      (plan.Lacks '\n' →
        Declaration.ofText? "Controller".toList text = some (controllerDeclaration plan)) := by
  obtain ⟨methods, fillsMethods, _⟩ := exists_methods actions
  obtain ⟨header, headerRendered, _, opens, nameSpaceRead, noClass⟩ :=
    @exists_header_outline plan _ actions Library.included
  obtain ⟨comment, body, commentRendered, bodyRendered, _, closes, _, _, _, starts, classRead⟩ :=
    exists_class_outlines fillsMethods
  refine ⟨_, renderText_controller headerRendered commentRendered bodyRendered, ?_, fun lacks => ?_⟩
  · obtain ⟨uses, sameHeader⟩ := opens
    obtain ⟨front, sameComment⟩ := closes
    obtain ⟨rest, sameBody⟩ := starts
    refine ⟨fill (headerValues plan) uses ++ fill (withBlock plan methods) front,
      fill (withBlock plan methods) rest, ?_⟩
    rw [← sameHeader, ← sameComment, ← sameBody, Text.Outline.fill_append,
      Text.Outline.fill_append, Text.Outline.fill_append, Text.Outline.fill_ofChars,
      Declaration.fill_opening, Declaration.fill_classStart]
    simp only [controllerDeclaration, List.append_assoc]
    rfl
  · have headerFits : Fits withinLines (headerValues plan) := by
      intro name admits known char member
      cases known
      exact bne_iff_ne.mpr fun same =>
        not_mem_headerValues lacks (by decide) name (same ▸ member)
    have classFits : Fits (lacking ['\n']) (withBlock plan methods) := by
      refine fits_lacking (fun char listed => ?_) (fun _ _ _ => List.not_mem_nil) _
      cases List.mem_singleton.mp listed
      exact ⟨lacks.names, by decide⟩
    have nameSpace := Text.Outline.reads_of_gapsIn? headerFits nameSpaceRead
      (fill (withBlock plan methods) (comment ++ body))
    have headerSilent := Text.Outline.reads_of_gapsIn? headerFits noClass
      (fill (withBlock plan methods) (comment ++ body))
    obtain ⟨more, class_⟩ := Text.Outline.exists_gapsIn_fill classFits classRead []
    rw [List.append_nil] at class_
    rw [class_] at headerSilent
    rw [List.map_nil, List.nil_append, List.map_singleton, Declaration.fill_classGap] at headerSilent
    rw [Text.Outline.fill_append] at nameSpace headerSilent
    exact Declaration.ofText?_eq_some nameSpace headerSilent

end Generated

end EntityScaffold
