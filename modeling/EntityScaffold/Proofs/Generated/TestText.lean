import EntityScaffold.Proofs.Generated.Declaration
import EntityScaffold.Proofs.Generated.Phrase
import EntityScaffold.Proofs.Skeleton.Lookup
import EntityScaffold.Proofs.Text.LowerCase
import EntityScaffold.Skeleton.Packaged.FunctionalTest

/-
The text of the functional test. With either plan it asks for the index page, by the path of its
route. It holds free texts as well, name spaces and fields; when these are within their lines, the
test asks for nothing else by its path.
-/

namespace EntityScaffold

/-- The free texts of a plan hold no line break. -/
structure GenerationPlan.HasOneLineTexts (plan : GenerationPlan) : Prop where
  nameSpace : '\n' ∉ plan.request.bundle.nameSpace.toList
  controllerNameSpace : '\n' ∉ plan.paths.controllerNameSpace.toList
  fields : ∀ entry ∈ plan.fields, '\n' ∉ entry.1.toList

namespace Generated

open Skeleton Skeleton.Packaged
open Text (Outline Pattern)
open Text.Outline (Finding blocks fill gapsIn? spell ofChars read?)

def requestPattern : Pattern := .ofTexts "\n        $crawler = $client->request('GET', '" ["'"]

/-- The start of the names of the variables in a form. -/
def variableStart (plan : GenerationPlan) : List Char :=
  Text.lower (Text.replaceChar '.' '_'
    ([plan.request.bundle.nameSpace, "_", plan.request.entity].flatMap String.toList)) ++
      ['t', 'y', 'p', 'e']

/-- The free texts of a test; `field` is the field of a line. -/
def testTexts (plan : GenerationPlan) (field : String) : FreeText → List Char
  | .nameSpace => nameSpaceChars [plan.request.bundle.nameSpace, "Tests",
      plan.paths.controllerNameSpace, plan.paths.entity.nameSpace]
  | .variableStart => variableStart plan
  | .field => field.toList
  | .heading | .formPlace => []

def withinLine (_ : FreeText) (char : Char) : Bool := char != '\n'

variable {plan : GenerationPlan}

theorem newline_not_mem_lower {chars : List Char} (absent : '\n' ∉ chars) :
    '\n' ∉ Text.lower chars := fun member =>
  absent (Text.mem_of_mem_lower member (by decide)).1

theorem newline_not_mem_testTexts (lacks : plan.Lacks '\n') {field : String}
    (inLine : '\n' ∉ field.toList) (text : FreeText) : '\n' ∉ testTexts plan field text := by
  intro member
  cases text with
  | nameSpace =>
      rcases mem_of_mem_nameSpaceChars member with mark | ⟨part, listed, inside⟩
      · revert mark
        decide
      · simp only [List.mem_cons, List.not_mem_nil, or_false] at listed
        rcases listed with same | same | same | same <;> subst same
        · exact lacks.nameSpace inside
        · revert inside
          decide
        · exact lacks.controllerNameSpace inside
        · exact lacks.entityNameSpace inside
  | variableStart =>
      rcases List.mem_append.mp member with inLower | inEnd
      · refine newline_not_mem_lower (fun inside => ?_) inLower
        rcases Text.mem_replaceChar inside with same | present
        · revert same
          decide
        · simp only [List.flatMap_cons, List.flatMap_nil, List.append_nil, List.mem_append] at present
          rcases present with inBundle | inMark | inEntity
          · exact lacks.nameSpace inBundle
          · revert inMark
            decide
          · exact lacks.names.entity inEntity
      · revert inEnd
        decide
  | field => exact inLine member
  | heading => cases member
  | formPlace => cases member

theorem withinLine_testTexts (plain : plan.HasPlainNames) (oneLine : plan.HasOneLineTexts)
    {field : String} (inLine : '\n' ∉ field.toList) :
    ∀ text, ∀ char ∈ testTexts plan field text, withinLine text char = true := by
  intro text char member
  have lacks := plain.lacks rfl oneLine.nameSpace oneLine.controllerNameSpace
  exact bne_iff_ne.mpr fun same => newline_not_mem_testTexts lacks inLine text (same ▸ member)

/-! ### The scope -/

def testScope (plan : GenerationPlan) : Scope :=
  Scope.assign ⟨plan.functionalTestContext.bindings, false, false⟩ "field_prefix"
    (.text (CodeText.ofChars (variableStart plan)))

theorem eval_variableStart {scope : Scope}
    (nameSpace : scope.get "namespace" = .string plan.request.bundle.nameSpace)
    (entity : scope.get "entity" = .string plan.request.entity) :
    (Expr.joined [.filtered .lower (.filtered (.replace '.' '_')
        (.joined [.name "namespace", .text "_", .name "entity"])), .text "type"]).eval scope =
      .ok (.text (CodeText.ofChars (variableStart plan))) := by
  have parts : evalAll scope [.name "namespace", .text "_", .name "entity"] =
      .ok ([plan.request.bundle.nameSpace, "_", plan.request.entity].map Datum.string) := by
    rw [evalAll, evalAll, evalAll, evalAll, Expr.eval, Expr.eval, Expr.eval, nameSpace, entity]
    rfl
  have lowered : (Expr.filtered .lower (.filtered (.replace '.' '_')
      (.joined [.name "namespace", .text "_", .name "entity"]))).eval scope =
        .ok (.string (String.ofList (Text.lower (Text.replaceChar '.' '_'
          ([plan.request.bundle.nameSpace, "_", plan.request.entity].flatMap String.toList))))) := by
    rw [Expr.eval, Expr.eval, eval_joined parts]
    change Except.ok (Datum.text ((replacePoint '.' '_' (CodeText.ofChars _)).mapRuns Text.lower)) = _
    rw [CodeText.replacePoint_ofChars, CodeText.mapRuns_ofChars, Datum.string, CodeText.ofString,
      String.toList_ofList]
  have whole : evalAll scope [.filtered .lower (.filtered (.replace '.' '_')
      (.joined [.name "namespace", .text "_", .name "entity"])), .text "type"] =
        .ok ([String.ofList (Text.lower (Text.replaceChar '.' '_'
          ([plan.request.bundle.nameSpace, "_", plan.request.entity].flatMap String.toList))),
            "type"].map Datum.string) := by
    rw [evalAll, evalAll, evalAll, lowered]
    rfl
  rw [eval_joined whole, List.flatMap_cons, List.flatMap_singleton, String.toList_ofList,
    String.toList_ofList]
  rfl

/-! ### The text -/

variable {included : CodeText → Scope → Except RenderFault CodeText} {withWrite : Bool}

abbrev fieldLine : List Piece := [
  .text "            // '",
  .emit (.name "field_prefix"),
  .text "[",
  .emit (.name "field"),
  .text "]'  => 'Test',\n"]

set_option maxRecDepth 4000

theorem exists_fieldLine_outline {field : String} {scope : Scope}
    (bound : scope.get "field" = .string field)
    (prefixed : scope.get "field_prefix" = .text (CodeText.ofChars (variableStart plan))) :
    ∃ outline : Outline (Hole Empty), renderPieces included scope fieldLine =
        .ok (filled (fillings plan (testTexts plan field) Empty.elim) outline, scope) ∧
      read? (kinds withinLine) requestPattern outline = some [] := by
  have variableName : Shows (fillings plan (testTexts plan field) Empty.elim) scope
      (.name "field_prefix") [.hole (.free .variableStart)] := shows_name prefixed
  have name : Shows (fillings plan (testTexts plan field) Empty.elim) scope (.name "field")
      [.hole (.free .field)] := shows_name bound
  apply Exists.intro
  constructor
  · simp only [renderPieces_text (fillings plan (testTexts plan field) Empty.elim),
      renderPieces_nil (fillings plan (testTexts plan field) Empty.elim),
      renderPieces_emit variableName, renderPieces_emit name, prepend_ok, spell]
    repeat rewrite [String.toList_ofList]
    rfl
  · decide +kernel

def testValues (plan : GenerationPlan) (lines : List Char) : Hole Unit → List Char :=
  fillings plan (testTexts plan "") fun _ => lines

def nameSpaceHole : Hole Unit := .free .nameSpace

def indexRequest : Outline (Hole Unit) :=
  ofChars requestPattern.opening ++ pathOf .index ++ [.char '\'']

theorem exists_test_outline (actions : plan.actions = ActionPlan.make withWrite)
    {lines : List Char}
    (fillsFields : Fills (testValues plan lines) included (testScope plan)
      (each "field" (.name "fields") fieldLine) (.block ())) :
    ∃ outline, renderPieces included (testScope plan) (functionalTest.drop 1) =
        .ok (filled (testValues plan lines) outline, testScope plan) ∧
      indexRequest <:+: outline ∧
      read? (kinds withinLine) requestPattern outline =
        some (.gaps [pathOf .index] :: if withWrite then [.block (.block ())] else []) ∧
      Declaration.opening nameSpaceHole <+: outline ∧
      ofChars "\nclass ".toList ++
          Declaration.classStart (.detail .className) "ControllerTest" "WebTestCase" <:+:
        outline.drop (Declaration.opening nameSpaceHole).length ∧
      gapsIn? (lacking ['\n']) Declaration.nameSpaceLine (blocks (lacking ['\n']) outline).1 =
        some [Declaration.nameSpaceGap nameSpaceHole] ∧
      gapsIn? (lacking ['\n']) Declaration.classLine (blocks (lacking ['\n']) outline).1 =
        some [Declaration.classGap (.detail .className) "ControllerTest" "WebTestCase"] := by
  have className : Shows (testValues plan lines) (testScope plan) (.name "entity_class")
      [.hole (.detail .className)] := shows_detail rfl rfl
  have nameSpace : Shows (testValues plan lines) (testScope plan)
      (.nameSpace [.name "namespace", .text "Tests", .name "controller_namespace",
        .name "entity_namespace"]) [.hole (.free .nameSpace)] :=
    @shows_nameSpace _ _ _ _ _ [_, _, _, _] rfl rfl
  have variableName : Shows (testValues plan lines) (testScope plan) (.name "field_prefix")
      [.hole (.free .variableStart)] := shows_name rfl
  have toIndex : Shows (testValues plan lines) (testScope plan)
      (.routePath (.name "route_prefix") (.text "index")) (pathOf .index) :=
    @shows_routePath _ _ _ _ _ _ .index rfl rfl
  have asks (action : Action) (writes : action ∈ ActionPlan.writeActions) :
      (hasAction action.text).eval (testScope plan) = .ok (.flag withWrite) := by
    have among : plan.actions.actions.contains action = withWrite := by
      rw [actions]
      revert writes
      cases withWrite <;> cases action <;> decide
    exact among ▸ eval_contains_actions rfl action
  have new : (hasAction "new").eval (testScope plan) = .ok (.flag withWrite) := asks .new (by decide)
  have edit : (hasAction "edit").eval (testScope plan) = .ok (.flag withWrite) :=
    asks .edit (by decide)
  have delete : (hasAction "delete").eval (testScope plan) = .ok (.flag withWrite) :=
    asks .delete (by decide)
  cases withWrite
  all_goals
    apply Exists.intro
    refine ⟨?_, ?_, ?_, ?_, ?_, ?_, ?_⟩
    · simp only [functionalTest, when, List.drop_succ_cons, List.drop_zero,
        renderPieces_text (testValues plan lines), renderPieces_lines (testValues plan lines),
        renderPieces_nil (testValues plan lines), renderPieces_emit className,
        renderPieces_emit nameSpace, renderPieces_emit variableName, renderPieces_emit toIndex,
        renderPieces_fills fillsFields, renderPieces_branch new, renderPieces_branch edit,
        renderPieces_branch delete, prepend_ok, cond_true, cond_false, List.cons_append,
        List.nil_append]
      simp only [List.flatMap_cons, List.flatMap_nil, spell]
      repeat rewrite [String.toList_ofList]
      rfl
    all_goals decide +kernel

theorem renderPieces_functionalTest (included : CodeText → Scope → Except RenderFault CodeText)
    (plan : GenerationPlan) :
    renderPieces included ⟨plan.functionalTestContext.bindings, false, false⟩ functionalTest =
      renderPieces included (testScope plan) (functionalTest.drop 1) := by
  change renderPieces included _ (.assign "field_prefix" _ :: _) = _
  rw [renderPieces_assign (@eval_variableStart plan _ rfl rfl)]
  rfl

theorem requestPattern_closings : requestPattern.closings = [['\'']] := by
  change ["'".toList] = _
  rw [String.toList_ofList]

theorem requestPattern_opening_ne_nil : requestPattern.opening ≠ [] := by
  decide +kernel

theorem fill_pathOf_index (plan : GenerationPlan) (lines : List Char) :
    fill (testValues plan lines) (pathOf .index) = fill (details plan) (pathOf .index) := by
  simp only [pathOf, fill, Text.Outline.fill_ofChars]
  rfl

/-- A line that asks for the index page is found, whatever stands around it. -/
theorem mem_gapsIn_of_indexRequest (plain : plan.HasPlainNames) {lines : List Char}
    {outline : Outline (Hole Unit)} (present : indexRequest <:+: outline) :
    [fill (details plan) (pathOf .index)] ∈
      requestPattern.gapsIn (fill (testValues plan lines) outline) := by
  obtain ⟨front, behind, same⟩ := present
  have path := fill_pathOf_index plan lines
  have inside : ∀ char ∈ fill (details plan) (pathOf .index),
      Pattern.isInside ['\''] char = true := by
    intro char member
    rw [pathOf, fill, Text.Outline.fill_ofChars] at member
    rcases List.mem_append.mp member with start | tail
    · have known : isNameChar char = true := Detail.admits_ofPlan plain .pathStart char start
      simp only [Pattern.isInside, List.head?_cons, Bool.and_eq_true, bne_iff_ne, ne_eq,
        Option.some.injEq]
      refine ⟨fun same => ?_, fun same => ?_⟩ <;> subst same <;> revert known <;> decide
    · have each : (Action.index.pathEnd.all (Pattern.isInside ['\''])) = true := by decide
      exact List.all_eq_true.mp each char tail
  have here := requestPattern.match?_append
    (fill (details plan) (pathOf .index) ++ (['\''] ++ fill (testValues plan lines) behind))
  rw [requestPattern_closings, Pattern.follow?_cons (by decide) inside] at here
  obtain ⟨mark, others, opens⟩ := List.exists_cons_of_ne_nil requestPattern_opening_ne_nil
  rw [opens, List.cons_append] at here
  rw [← same, indexRequest, Text.Outline.fill_append, Text.Outline.fill_append,
    Text.Outline.fill_append, Text.Outline.fill_append, Text.Outline.fill_ofChars, path, opens,
    List.append_assoc, List.append_assoc, List.append_assoc, List.cons_append]
  exact Pattern.mem_gapsIn_of_match? here _

/-- The loop over the fields gives lines; when the names are plain and the free texts stay within
their lines, these ask for no page. -/
theorem exists_fieldLines (plan : GenerationPlan) :
    ∃ lines, Fills (testValues plan lines) Library.included (testScope plan)
        (each "field" (.name "fields") fieldLine) (.block ()) ∧
      (plan.HasPlainNames → plan.HasOneLineTexts → requestPattern.Reads lines []) := by
  have bound : (testScope plan).get "fields" = Datum.ofTexts plan.typedFields := rfl
  have listed := plan.items_typedFields
  have pass : ∀ entry ∈ plan.fields, ∀ place first last,
      ∃ text, (renderPieces Library.included
          (itemScope "field" (testScope plan) place (.string entry.1) first last) fieldLine).map
            Prod.fst = .ok (CodeText.ofChars text) ∧
        ∀ _ : PLift (plan.HasPlainNames ∧ plan.HasOneLineTexts), requestPattern.Reads text [] := by
    intro entry member place first last
    obtain ⟨outline, rendered, read⟩ := @exists_fieldLine_outline plan
      Library.included entry.1
      (itemScope "field" (testScope plan) place (.string entry.1) first last) rfl rfl
    refine ⟨fill (fillings plan (testTexts plan entry.1) Empty.elim) outline, ?_, fun known => ?_⟩
    · rw [rendered]
      rfl
    · obtain ⟨plain, oneLine⟩ := known.down
      have inLine := withinLine_testTexts plain oneLine (oneLine.fields entry member)
      exact @reads_of_outline _ _ plain _ _ inLine _ _ Empty.elim (fun block => block.elim) _ _ read
  obtain ⟨lines, fillsFields, saidInFields⟩ := exists_itemLoop bound listed pass
  refine ⟨lines, fillsFields, fun plain oneLine => ?_⟩
  have saidInLines := saidInFields ⟨plain, oneLine⟩
  rwa [List.flatMap_eq_nil_iff.mpr fun _ _ => rfl] at saidInLines

theorem renderText_test {tree : FileTree} {lines : List Char} {outline : Outline (Hole Unit)}
    (rendered : renderPieces Library.included (testScope plan) (functionalTest.drop 1) =
      .ok (filled (testValues plan lines) outline, testScope plan)) :
    Library.packaged.renderText tree "tests/test" plan.functionalTestContext.bindings =
      .ok (CodeText.ofChars (fill (testValues plan lines) outline)) := by
  have named : ("tests/test", functionalTest) ∈ Library.packagedNames := by
    simp [Library.packagedNames]
  refine Library.renderText_packaged named rfl ?_
  rw [renderPieces_functionalTest, rendered]
  rfl

/-- The test has a text, and asks for the index page; it asks for no other page by its path when the
free texts stay within their lines. -/
theorem exists_test_text (plain : plan.HasPlainNames)
    (actions : plan.actions = ActionPlan.make plan.request.withWrite) (tree : FileTree) :
    ∃ text, Library.packaged.renderText tree "tests/test" plan.functionalTestContext.bindings =
        .ok (CodeText.ofChars text) ∧
      [fill (details plan) (pathOf .index)] ∈ requestPattern.gapsIn text ∧
      (plan.HasOneLineTexts →
        requestPattern.gapsIn text = [[fill (details plan) (pathOf .index)]]) := by
  obtain ⟨lines, fillsFields, saidInLines⟩ := exists_fieldLines plan
  obtain ⟨outline, rendered, request, read, _⟩ := exists_test_outline actions fillsFields
  refine ⟨fill (testValues plan lines) outline, renderText_test rendered,
    mem_gapsIn_of_indexRequest plain request, fun oneLine => ?_⟩
  have nothing : requestPattern.gapsIn [] = [] := by decide +kernel
  have inLine := @withinLine_testTexts plan plain oneLine "" (by decide)
  have reads := @reads_of_outline _ _ plain _ _ inLine _ _ (fun _ => [])
    (fun _ => saidInLines plain oneLine) _ _ read
  refine (reads.gapsIn_eq nothing).trans ?_
  rw [← fill_pathOf_index plan lines]
  cases plan.request.withWrite <;> rfl

/-! ### The declaration -/

def testDeclaration (plan : GenerationPlan) : Declaration where
  nameSpace := testTexts plan "" .nameSpace
  name := plan.paths.entity.className.toList ++ "ControllerTest".toList

/-- The test declares its class, whatever its names are; when they are within their lines, the
declaration is the one that is read. -/
theorem exists_test_declaration
    (actions : plan.actions = ActionPlan.make plan.request.withWrite) (tree : FileTree) :
    ∃ text, Library.packaged.renderText tree "tests/test" plan.functionalTestContext.bindings =
        .ok (CodeText.ofChars text) ∧
      (testDeclaration plan).IsIn "WebTestCase".toList text ∧
      (plan.Lacks '\n' →
        Declaration.ofText? "WebTestCase".toList text = some (testDeclaration plan)) := by
  obtain ⟨lines, fillsFields, _⟩ := exists_fieldLines plan
  obtain ⟨outline, rendered, _, _, opens, starts, nameSpaceRead, classRead⟩ :=
    exists_test_outline actions fillsFields
  refine ⟨fill (testValues plan lines) outline, renderText_test rendered, ?_, fun lacks => ?_⟩
  · obtain ⟨uses, rest, sameRest⟩ := starts
    have same := List.prefix_iff_eq_append.mp opens
    refine ⟨fill (testValues plan lines) uses, fill (testValues plan lines) rest, ?_⟩
    rw [← same, ← sameRest, Text.Outline.fill_append, Text.Outline.fill_append,
      Text.Outline.fill_append, Text.Outline.fill_append, Text.Outline.fill_ofChars,
      Declaration.fill_opening, Declaration.fill_classStart]
    simp only [testDeclaration, List.append_assoc]
    rfl
  · have fits : Text.Outline.Fits (lacking ['\n']) (testValues plan lines) := by
      refine fits_lacking (fun char listed => ?_) (fun text char listed => ?_) _
      all_goals cases List.mem_singleton.mp listed
      · exact ⟨lacks.names, by decide⟩
      · exact newline_not_mem_testTexts lacks (by decide) text
    obtain ⟨others, nameSpace⟩ := Text.Outline.exists_gapsIn_fill fits nameSpaceRead []
    obtain ⟨more, class_⟩ := Text.Outline.exists_gapsIn_fill fits classRead []
    rw [List.append_nil] at nameSpace class_
    rw [List.map_singleton, Declaration.fill_classGap] at class_
    exact Declaration.ofText?_eq_some nameSpace class_

end Generated

end EntityScaffold
