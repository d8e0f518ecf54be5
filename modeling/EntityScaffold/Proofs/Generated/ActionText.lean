import EntityScaffold.Proofs.Generated.Phrase
import EntityScaffold.Skeleton.Packaged.Controller

/-
The texts of actions. The method of an action is read part by part: its route, its name, the routes
and the views that it refers to, and its calls of the method that makes the form for deletion. What
is found does not depend on the names of the plan.
-/

namespace EntityScaffold.Generated

open Skeleton Skeleton.Packaged
open Text (Outline Pattern)
open Text.Outline (Finding spell ofChars read?)

/-- What is read off the body of a controller class. -/
inductive ClassPart where
  | route
  | method
  | address
  | view
  | formCall
  | formMaker
  | classLine
  | classRoute
  deriving DecidableEq

namespace ClassPart

def all : List ClassPart :=
  [.route, .method, .address, .view, .formCall, .formMaker, .classLine, .classRoute]

theorem mem_all (part : ClassPart) : part ∈ all := by
  cases part <;> decide

def pattern : ClassPart → Pattern
  | .route => .ofTexts "\n     * @Route(\"" ["\", name=\"", "\")\n     * @Method(", ")"]
  | .method => .ofTexts "public function " ["Action("]
  | .address => .ofTexts "generateUrl('" ["'"]
  | .view => .ofTexts "$this->render('" [":", ":", "'"]
  | .formCall => .ofTexts "$this->createDeleteForm(" []
  | .formMaker => .ofTexts "function createDeleteForm(" []
  | .classLine => .ofTexts "\nclass " []
  | .classRoute => .ofTexts "\n * @Route(\"" ["\")\n */\nclass "]

end ClassPart

def annotatedMethods : Action → List Char
  | .index | .show => ['"', 'G', 'E', 'T', '"']
  | .new | .edit => ['\x7b', '"', 'G', 'E', 'T', '"', ',', ' ', '"', 'P', 'O', 'S', 'T', '"', '\x7d']
  | .delete => ['\x7b', '"', 'P', 'O', 'S', 'T', '"', ',', ' ', '"', 'D', 'E', 'L', 'E', 'T', 'E', '"',
      '\x7d']

def viewFile (action : Action) : List Char :=
  action.letters ++ ['.', 'h', 't', 'm', 'l', '.', 't', 'w', 'i', 'g']

def foundInAction (annotated withWrite : Bool) (action : Action) :
    ClassPart → List (Finding (Hole Empty))
  | .route =>
    if annotated then
      [.gaps [ofChars action.pathEnd, nameOf action, ofChars (annotatedMethods action)]]
    else []
  | .method => [.gaps [ofChars action.letters]]
  | .address =>
    match action with
    | .index | .show => []
    | .new => [.gaps [nameOf .show]]
    | .edit => [.gaps [nameOf .edit]]
    | .delete => [.gaps [nameOf .index]]
  | .view =>
    if annotated || action == .delete then []
    else [.gaps [[.hole (.detail .bundle)], [.hole (.detail .entityPath)], ofChars (viewFile action)]]
  | .formCall =>
    match action with
    | .index | .new => []
    | .show => if withWrite then [.gaps []] else []
    | .edit | .delete => [.gaps []]
  | .formMaker => if action == .delete then [.gaps []] else []
  | .classLine | .classRoute => []

def actionSkeleton : Action → Skeleton
  | .index => indexAction
  | .show => showAction
  | .new => newAction
  | .edit => editAction
  | .delete => deleteAction

structure ActionScope (values : Hole Empty → List Char) (scope : Scope) (annotated withWrite : Bool) :
    Prop where
  className : Shows values scope (.name "entity_class") [.hole (.detail .className)]
  entityRef : Shows values scope (.name "entity_ref")
    [.hole (.detail .bundle), .char ':', .hole (.detail .entityClass)]
  viewRef : Shows values scope (.name "view_ref")
    [.hole (.detail .bundle), .char ':', .hole (.detail .entityPath)]
  route : ∀ action : Action, Shows values scope (routeTo (.text action.text)) (nameOf action)
  annotated : (Expr.name "annotated").eval scope = .ok (.flag annotated)
  hasShow : (hasAction "show").eval scope = .ok (.flag true)
  hasDelete : (hasAction "delete").eval scope = .ok (.flag withWrite)

/-- Only the method that shows a record depends on whether records are deleted. -/
theorem foundInAction_of_ne_show (annotated withWrite : Bool) {action : Action}
    (other : action ≠ .show) :
    foundInAction annotated withWrite action = foundInAction annotated true action := by
  funext part
  revert other
  cases action <;> cases part <;> intro other <;> first | rfl | exact absurd rfl other

variable {values : Hole Empty → List Char} {scope : Scope} {annotated withWrite : Bool}
  {included : CodeText → Scope → Except RenderFault CodeText}

set_option maxRecDepth 4000

/-- The method of an action is what an outline becomes, and all parts can be read off the outline. -/
theorem exists_action_outline (facts : ActionScope values scope annotated withWrite)
    (action : Action) :
    ∃ outline, renderPieces included scope (actionSkeleton action) =
        .ok (filled values outline, scope) ∧
      ∀ part ∈ ClassPart.all, read? (kinds nothingKnown) part.pattern outline =
        some (foundInAction annotated withWrite action part) := by
  have isAnnotated := facts.annotated
  have hasDelete := facts.hasDelete
  have toIndex : Shows values scope (routeTo (.text "index")) (nameOf .index) := facts.route .index
  have toShow : Shows values scope (routeTo (.text "show")) (nameOf .show) := facts.route .show
  have toNew : Shows values scope (routeTo (.text "new")) (nameOf .new) := facts.route .new
  have toEdit : Shows values scope (routeTo (.text "edit")) (nameOf .edit) := facts.route .edit
  have toDelete : Shows values scope (routeTo (.text "delete")) (nameOf .delete) :=
    facts.route .delete
  by_cases isShow : action = .show
  case' pos =>
    subst isShow
    cases withWrite
  case' neg =>
    have others : action = .index ∨ action = .new ∨ action = .edit ∨ action = .delete := by
      revert isShow
      cases action <;> decide
    rewrite [foundInAction_of_ne_show annotated withWrite isShow]
    rcases others with same | same | same | same
  all_goals
    cases annotated
  all_goals
    try subst same
    apply Exists.intro
    constructor
    · simp only [actionSkeleton, indexAction, showAction, newAction, editAction, deleteAction, when,
        renderPieces_text values, renderPieces_lines values, renderPieces_nil values,
        renderPieces_emit facts.className, renderPieces_emit facts.entityRef,
        renderPieces_emit facts.viewRef, renderPieces_emit toIndex, renderPieces_emit toShow,
        renderPieces_emit toNew, renderPieces_emit toEdit, renderPieces_emit toDelete,
        renderPieces_branch isAnnotated, renderPieces_branch facts.hasShow,
        renderPieces_branch hasDelete, prepend_ok, cond_true, cond_false, List.cons_append,
        List.nil_append]
      simp only [List.flatMap_cons, List.flatMap_nil, spell]
      repeat rewrite [String.toList_ofList]
      rfl
    · decide +kernel

end EntityScaffold.Generated
