import EntityScaffold.Proofs.Generated.ViewTables
import EntityScaffold.Proofs.Skeleton.Lookup

/-
The texts of views. A view links to routes by their names: the index view to the actions on each row
and to the page of a new record, the others to the index and to what can be done with their record.
Fields, headings and the place of the form are free texts. When these hold no quote, a view links to
nothing else.
-/

namespace EntityScaffold

/-- The free texts of views hold no single quote. -/
structure GenerationPlan.HasUnquotedTexts (plan : GenerationPlan) : Prop where
  fields : ∀ entry ∈ plan.fields, '\'' ∉ entry.1.toList
  formDir : '\'' ∉ plan.paths.formDir.toList

namespace Generated

open Skeleton Skeleton.Packaged
open Text (Outline Pattern)
open Text.Outline (Finding encloses? fill inside? read? spell)

def linkPattern : Pattern := .ofTexts "path('" ["'"]

/-- How a view includes another one: by its bundle, its directory and its file. -/
def includePattern : Pattern := .ofTexts "include('" [":", ":", "'"]

def unquoted (_ : FreeText) (char : Char) : Bool := char != '\''

variable {plan : GenerationPlan}

theorem unquoted_viewTexts (noQuote : plan.HasUnquotedTexts) {field : String}
    (inField : '\'' ∉ field.toList) :
    ∀ text, ∀ char ∈ viewTexts plan field text, unquoted text char = true := by
  intro text char member
  refine bne_iff_ne.mpr fun same => ?_
  subst same
  cases text with
  | nameSpace => cases member
  | variableStart => cases member
  | field => exact inField member
  | heading => exact inField (Text.mem_of_mem_humanize member (by decide) (by decide))
  | formPlace => exact noQuote.formDir member

/-! ### Links in loops -/

def linkedByLoop (plan : GenerationPlan) : ViewLoop → List Action
  | .cells => (plan.fields.take 1).map fun _ => .show
  | .rowLinks => plan.actions.rowLinks
  | .headings | .rows | .inputs => []

def saidByLink (plan : GenerationPlan) (action : Action) : List (List Char) :=
  [fill (details plan) (nameOf action)]

theorem reads_of_fieldOutline (plain : plan.HasPlainNames) (noQuote : plan.HasUnquotedTexts)
    {field : String} (inField : '\'' ∉ field.toList) {outline : Outline (Hole Empty)}
    {findings : List (Finding (Hole Empty))}
    (read : read? (kinds unquoted) linkPattern outline = some findings) :
    linkPattern.Reads (fill (fieldValues plan field) outline)
      (findings.flatMap (Finding.filled (fieldValues plan field) (saidInBlocks Empty.elim))) :=
  reads_of_outline plain (unquoted_viewTexts noQuote inField) (fun block => block.elim) read

theorem reads_cell (plain : plan.HasPlainNames) (noQuote : plan.HasUnquotedTexts) {field : String}
    (inField : '\'' ∉ field.toList) (moment first : Bool) :
    linkPattern.Reads (fill (fieldValues plan field) (cellOutline moment first))
      (if first then [saidByLink plan .show] else []) := by
  have read : read? (kinds unquoted) linkPattern (cellOutline moment first) =
      some (if first then [.gaps [nameOf .show]] else []) := by
    revert moment first
    decide +kernel
  have reads := reads_of_fieldOutline plain noQuote inField read
  cases first with
  | false => exact reads
  | true =>
      simp only [if_true, List.flatMap_singleton, Finding.filled, List.map_cons, List.map_nil, nameOf,
        fill, Text.Outline.fill_ofChars] at reads
      simp only [if_true, saidByLink, nameOf, fill, Text.Outline.fill_ofChars]
      exact reads

theorem reads_rowLink (plain : plan.HasPlainNames) (action : Action) :
    linkPattern.Reads (fill (details plan) (rowLinkOutline action)) [saidByLink plan action] := by
  have read : read? (kinds nothingKnown) linkPattern (rowLinkOutline action) =
      some [.gaps [nameOf action]] := by
    cases action
    -- the kernel reads fixed texts slowly, so that they are spelled out first
    all_goals
      simp only [rowLinkOutline, linkedOutline, printedOutline, spell, linkPattern, Pattern.ofTexts,
        List.map_cons, List.map_nil]
      repeat rewrite [String.toList_ofList]
      decide +kernel
  exact reads_details plain read

/-- A loop over the fields whose lines link to nothing. -/
theorem reads_silentLoop (plain : plan.HasPlainNames) (noQuote : plan.HasUnquotedTexts)
    {outline : String × String → Outline (Hole Empty)}
    (silent : ∀ entry, read? (kinds unquoted) linkPattern (outline entry) = some []) :
    linkPattern.Reads
      (plan.fields.flatMap fun entry => fill (fieldValues plan entry.1) (outline entry)) [] := by
  have each (entry) (member : entry ∈ plan.fields) :
      linkPattern.Reads (fill (fieldValues plan entry.1) (outline entry)) [] :=
    reads_of_fieldOutline plain noQuote (noQuote.fields entry member) (silent entry)
  have whole := Text.Says.flatMap each
  rwa [List.flatMap_eq_nil_iff.mpr fun _ _ => rfl] at whole

/-- Each loop of a view links to the actions of the loop. -/
theorem reads_loopText (plain : plan.HasPlainNames) (noQuote : plan.HasUnquotedTexts)
    (loop : ViewLoop) :
    linkPattern.Reads (loopText plan loop) ((linkedByLoop plan loop).map (saidByLink plan)) := by
  cases loop with
  | headings => exact reads_silentLoop plain noQuote fun _ => by decide +kernel
  | cells =>
      have each (entry) (member : entry ∈ plan.fields.zipIdx 0) :
          linkPattern.Reads (fill (fieldValues plan entry.1.1)
              (cellOutline (isMomentType entry.1.2) (entry.2 = 0)))
            (if entry.2 = 0 then [saidByLink plan .show] else []) := by
        have listed := noQuote.fields entry.1 (List.fst_mem_of_mem_zipIdx member)
        simpa only [decide_eq_true_eq] using
          reads_cell plain noQuote listed (isMomentType entry.1.2) (entry.2 = 0)
      have whole := Text.Says.flatMap each
      rw [flatMap_zipIdx_first fun _ => [saidByLink plan .show]] at whole
      rw [linkedByLoop, List.map_map, List.map_eq_flatMap]
      exact whole
  | rowLinks =>
      rw [linkedByLoop, List.map_eq_flatMap]
      exact Text.Says.flatMap fun action _ => reads_rowLink plain action
  | rows =>
      have silent : ∀ moment, read? (kinds unquoted) linkPattern (rowOutline moment) = some [] := by
        decide +kernel
      exact reads_silentLoop plain noQuote fun entry => silent (isMomentType entry.2)
  | inputs =>
      have silent : ∀ isInput, read? (kinds unquoted) linkPattern (inputOutline isInput) =
          some [] := by
        decide +kernel
      exact reads_silentLoop plain noQuote fun entry => silent !decide (entry.1 = "id")

/-! ### Whole views -/

def viewOf : View → Skeleton
  | .index => indexView
  | .show => showView
  | .new => newView
  | .edit => editView
  | .form => formView

def foundInView (withWrite : Bool) : View → List (Finding (Hole ViewLoop))
  | .index =>
    [.block (.block .headings), .block (.block .cells), .block (.block .rowLinks)] ++
      if withWrite then [.gaps [nameOf .new]] else []
  | .show =>
    [.block (.block .rows), .gaps [nameOf .index]] ++
      if withWrite then [.gaps [nameOf .edit], .gaps [nameOf .delete]] else []
  | .new => [.gaps [nameOf .new], .gaps [nameOf .index]]
  | .edit =>
    [.gaps [nameOf .edit], .gaps [nameOf .index]] ++
      if withWrite then [.gaps [nameOf .delete]] else []
  | .form => [.block (.block .inputs)]

set_option maxRecDepth 4000

/-- The form, included with a variable, behind the bundle and the place of the form. -/
theorem shows_formIncluded {view : View}
    (includes : view = .new ∨ view = .edit) (variableName : String) :
    Shows (viewValues plan) (viewScope plan view) (formIncludedWith variableName)
      (spell "\x7b\x7b " ++ [spell "include('", [.hole (.detail .bundle)], spell ":",
        [.hole (.free .formPlace)],
        spell (":form.html.twig', \x7b 'form': " ++ variableName ++ " \x7d)")].flatten ++
          spell " \x7d\x7d") := by
  have bundle : Shows (viewValues plan) (viewScope plan view) (.name "bundle")
      [.hole (.detail .bundle)] := by
    rcases includes with same | same <;> subst same <;> exact shows_detail rfl rfl
  have place : Shows (viewValues plan) (viewScope plan view) (.name "form_dir")
      [.hole (.free .formPlace)] := by
    rcases includes with same | same <;> subst same <;> exact shows_name rfl
  have parts := ShowAll.cons (shows_text _ _ "include('") (.cons bundle (.cons (shows_text _ _ ":")
    (.cons place (.cons (shows_text _ _
      (":form.html.twig', \x7b 'form': " ++ variableName ++ " \x7d)")) (showAll_nil _ _)))))
  exact parts.joined.printed

def formFileName : String := "form.html.twig"

/-- The call that includes the form, up to the end of the name of its file. -/
def formCall : Outline (Hole ViewLoop) :=
  spell "include('" ++ .hole (.detail .bundle) :: .char ':' :: .hole (.free .formPlace) :: .char ':' ::
    (spell formFileName ++ [.char '\''])

/-- The characters that open a reference, end a part of it, or end the line that it is in. -/
def referenceMarks : List Char := ['\n', '\'', ':', '(']

/-- What can be read off the outline of a view, whatever fills it: its links, the reference to the form,
the parts of its table, and what the form prints. -/
structure IsViewOutline (withWrite : Bool) (view : View) (outline : Outline (Hole ViewLoop)) : Prop where
  links : read? (kinds unquoted) linkPattern outline = some (foundInView withWrite view)
  included : view = .new ∨ view = .edit → formCall <:+: outline ∧
    read? (lacking referenceMarks) includePattern outline = some
      [.gaps [[.hole (.detail .bundle)], [.hole (.free .formPlace)], spell formFileName]]
  listHeaders : view = .index → inside? viewKinds clearLoops rowMarks headerMarks outline = some
    [.part [.block (.block .headings), .part (spell "Actions")], .block (.block .headings),
      .part [.block (.block .cells), .block (.block .rowLinks)], .block (.block .cells),
      .block (.block .rowLinks)]
  listCells : view = .index → inside? viewKinds clearLoops rowMarks cellMarks outline = some
    [.part [.block (.block .headings)], .block (.block .headings),
      .part [.block (.block .cells), .part linksOutline, .block (.block .rowLinks)],
      .block (.block .cells), .block (.block .rowLinks)]
  rowHeaders : view = .show →
    inside? viewKinds clearLoops rowMarks headerMarks outline = some [.block (.block .rows)]
  rowCells : view = .show →
    inside? viewKinds clearLoops rowMarks cellMarks outline = some [.block (.block .rows)]
  inputs : view = .form → encloses? viewKinds clearLoops printMarks outline = some
    [.part (spell "form_errors(form)"), .block (.block .inputs), .part (spell "form_rest(form)")]

/-- A view is what such an outline becomes. -/
theorem exists_view_outline (actions : plan.actions = ActionPlan.make plan.request.withWrite)
    (included : CodeText → Scope → Except RenderFault CodeText) (view : View) :
    ∃ outline, renderPieces included (viewScope plan view) (viewOf view) =
        .ok (filled (viewValues plan) outline, viewScope plan view) ∧
      IsViewOutline plan.request.withWrite view outline := by
  have words : Shows (viewValues plan) (viewScope plan view) (entityWith ' ')
      [.hole (.detail .entityWords)] := shows_entityWith (by cases view <;> rfl) rfl
  have route (action : Action) : Shows (viewValues plan) (viewScope plan view)
      (routeTo (.text action.text)) (nameOf action) := shows_routeTo (by cases view <;> rfl) rfl
  have toIndex : Shows (viewValues plan) (viewScope plan view) (linkTo (.text "index")) _ :=
    shows_linkTo (route .index)
  have toNew : Shows (viewValues plan) (viewScope plan view) (linkTo (.text "new")) _ :=
    shows_linkTo (route .new)
  have toEdit : Shows (viewValues plan) (viewScope plan view) (rowLinkTo (.text "edit")) _ :=
    shows_rowLinkTo (route .edit)
  have toDelete : Shows (viewValues plan) (viewScope plan view)
      (rowLinkTo (.text "delete")) _ := shows_rowLinkTo (route .delete)
  have asks (action : Action) (writes : action ∈ ActionPlan.writeActions) :
      (hasAction action.text).eval (viewScope plan view) = .ok (.flag plan.request.withWrite) := by
    have among : plan.actions.actions.contains action = plan.request.withWrite := by
      rw [actions]
      revert writes
      cases plan.request.withWrite <;> cases action <;> decide
    exact among ▸ eval_contains_actions (by cases view <;> rfl) action
  have new : (hasAction "new").eval (viewScope plan view) = .ok (.flag plan.request.withWrite) :=
    asks .new (by decide)
  have edit : (hasAction "edit").eval (viewScope plan view) = .ok (.flag plan.request.withWrite) :=
    asks .edit (by decide)
  have delete : (hasAction "delete").eval (viewScope plan view) =
      .ok (.flag plan.request.withWrite) := asks .delete (by decide)
  -- what only some views hold
  have ofLoop (loop : ViewLoop) {piece : Piece} {home : View}
      (same : loop.piece = piece ∧ loop.view = home) (here : view = home) (rest : List Piece) :
      renderPieces included (viewScope plan view) (piece :: rest) =
        prepend (viewValues plan) [.hole (.block loop)]
          (renderPieces included (viewScope plan view) rest) := by
    obtain ⟨samePiece, inView⟩ := same
    subst samePiece here inView
    exact renderPieces_fills (renderPiece_loop actions included loop) rest
  have ofHeadings := @ofLoop .headings headings .index ⟨rfl, rfl⟩
  have ofCells := @ofLoop .cells cells .index ⟨rfl, rfl⟩
  have ofRowLinks := @ofLoop .rowLinks rowLinks .index ⟨rfl, rfl⟩
  have ofRows := @ofLoop .rows rows .show ⟨rfl, rfl⟩
  have ofInputs := @ofLoop .inputs inputs .form ⟨rfl, rfl⟩
  have recordActions (isIndex : view = .index) (yes no rest : List Piece) :
      renderPieces included (viewScope plan view) (.branch (.name "record_actions") yes no :: rest) =
        renderPieces included (viewScope plan view) (yes ++ rest) := by
    subst isIndex
    have counts : (Datum.ofActions plan.actions.rowLinks).counts = .ok true := by
      rw [actions]
      cases plan.request.withWrite <;> rfl
    exact renderPieces_branch_of_counts rfl counts yes no rest
  have form (includes : view = .new ∨ view = .edit) (variableName : String) (rest : List Piece) :=
    @renderPieces_emit _ _ _ _ _ included rest
      (@shows_formIncluded plan view includes variableName)
  generalize plan.request.withWrite = withWrite at new edit delete
  cases view <;> cases withWrite
  all_goals
    apply Exists.intro
    constructor
    · simp only [viewOf, indexView, showView, newView, editView, formView, when, ofHeadings,
        ofCells, ofRowLinks, ofRows, ofInputs, recordActions, form, renderPieces_emit words,
        renderPieces_emit toIndex, renderPieces_emit toNew, renderPieces_emit toEdit,
        renderPieces_emit toDelete, renderPieces_branch new, renderPieces_branch edit,
        renderPieces_branch delete, renderPieces_tag (viewValues plan),
        renderPieces_printed (viewValues plan), renderPieces_text (viewValues plan),
        renderPieces_lines (viewValues plan), renderPieces_nil (viewValues plan),
        prepend_ok, cond_true, cond_false, List.cons_append, List.nil_append, true_or, or_true]
      simp only [List.flatMap_cons, List.flatMap_nil, spell, String.toList_append]
      repeat rewrite [String.toList_ofList]
      rfl
    · constructor <;> decide +kernel

def linkedActions (plan : GenerationPlan) : View → List Action
  | .index =>
    linkedByLoop plan .cells ++ linkedByLoop plan .rowLinks ++
      if plan.request.withWrite then [.new] else []
  | .show => .index :: if plan.request.withWrite then [.edit, .delete] else []
  | .new => [.new, .index]
  | .edit => [.edit, .index] ++ if plan.request.withWrite then [.delete] else []
  | .form => []

theorem named_view (view : View) :
    (GenerationPlan.viewSkeleton view, viewOf view) ∈ Library.packagedNames := by
  cases view <;>
    simp [Library.packagedNames, GenerationPlan.viewSkeleton, View.text, viewOf]

theorem flatMap_foundInView (plan : GenerationPlan) (view : View) :
    (foundInView plan.request.withWrite view).flatMap (Finding.filled (viewValues plan)
        (saidInBlocks fun loop => (linkedByLoop plan loop).map (saidByLink plan))) =
      (linkedActions plan view).map (saidByLink plan) := by
  have said (action : Action) : Finding.filled (viewValues plan)
      (saidInBlocks fun loop => (linkedByLoop plan loop).map (saidByLink plan))
        (.gaps [nameOf action]) = [saidByLink plan action] := by
    simp only [Finding.filled, List.map_cons, List.map_nil, saidByLink, nameOf, fill,
      Text.Outline.fill_ofChars]
    rfl
  have inLoop (loop : ViewLoop) : Finding.filled (viewValues plan)
      (saidInBlocks fun loop => (linkedByLoop plan loop).map (saidByLink plan))
        (.block (.block loop)) = (linkedByLoop plan loop).map (saidByLink plan) := rfl
  have silent : linkedByLoop plan .headings = [] ∧ linkedByLoop plan .rows = [] ∧
      linkedByLoop plan .inputs = [] := ⟨rfl, rfl, rfl⟩
  cases view <;> simp only [foundInView, linkedActions] <;> cases plan.request.withWrite <;>
    simp [said, inLoop, silent]

theorem renderText_view {tree : FileTree} {view : View} {outline : Outline (Hole ViewLoop)}
    (rendered : renderPieces Library.included (viewScope plan view) (viewOf view) =
      .ok (filled (viewValues plan) outline, viewScope plan view)) :
    Library.packaged.renderText tree (GenerationPlan.viewSkeleton view) (viewBindings plan view) =
      .ok (CodeText.ofChars (fill (viewValues plan) outline)) := by
  refine Library.renderText_packaged (named_view view) (by cases view <;> rfl) ?_
  change (renderPieces _ (viewScope plan view) _).map Prod.fst = _
  rw [rendered]
  rfl

/-- A view has a text, which links to its actions. -/
theorem exists_view_text (plain : plan.HasPlainNames) (noQuote : plan.HasUnquotedTexts)
    (actions : plan.actions = ActionPlan.make plan.request.withWrite) (view : View)
    (tree : FileTree) :
    ∃ text, Library.packaged.renderText tree (GenerationPlan.viewSkeleton view)
        (viewBindings plan view) = .ok (CodeText.ofChars text) ∧
      linkPattern.gapsIn text = (linkedActions plan view).map (saidByLink plan) := by
  obtain ⟨outline, whole, isOutline⟩ := exists_view_outline actions Library.included view
  refine ⟨fill (viewValues plan) outline, renderText_view whole, ?_⟩
  have nothing : linkPattern.gapsIn [] = [] := by decide +kernel
  have said := reads_of_outline plain (@unquoted_viewTexts plan noQuote "" (by decide))
    (reads_loopText plain noQuote) isOutline.links
  exact (said.gapsIn_eq nothing).trans (flatMap_foundInView plan view)

/-! ### The form in other views -/

theorem referenceMark_not_mem_viewTexts {char : Char} (inPlace : char ∉ plan.paths.formDir.toList)
    (text : FreeText) : char ∉ viewTexts plan "" text := by
  cases text with
  | formPlace => exact inPlace
  | heading =>
      have nothing : Text.humanize "".toList = [] := by decide +kernel
      change char ∉ Text.humanize "".toList
      rw [nothing]
      exact List.not_mem_nil
  | nameSpace | variableStart | field =>
      intro member
      cases member

/-- The view for a new record and the one for editing include the form by its bundle and its place,
whatever these are; when no name holds a mark of references, they include nothing else. -/
theorem exists_formInclude_text (actions : plan.actions = ActionPlan.make plan.request.withWrite)
    {view : View} (includes : view = .new ∨ view = .edit) (tree : FileTree) :
    ∃ text, Library.packaged.renderText tree (GenerationPlan.viewSkeleton view)
        (viewBindings plan view) = .ok (CodeText.ofChars text) ∧
      ("include('".toList ++ plan.request.bundle.name.toList ++ ':' :: plan.paths.formDir.toList ++
        ':' :: formFileName.toList ++ ['\'']) <:+: text ∧
      ((∀ mark ∈ referenceMarks, plan.NamesLack mark ∧ mark ∉ plan.paths.formDir.toList) →
        includePattern.gapsIn text =
          [[plan.request.bundle.name.toList, plan.paths.formDir.toList, formFileName.toList]]) := by
  obtain ⟨outline, whole, isOutline⟩ := exists_view_outline actions Library.included view
  obtain ⟨⟨front, behind, same⟩, read⟩ := isOutline.included includes
  refine ⟨fill (viewValues plan) outline, renderText_view whole, ?_, fun lacks => ?_⟩
  · refine ⟨fill (viewValues plan) front, fill (viewValues plan) behind, ?_⟩
    rw [← same, Text.Outline.fill_append, Text.Outline.fill_append, formCall]
    simp only [Text.Outline.fill_append, fill, spell, Text.Outline.fill_ofChars, List.append_assoc,
      List.cons_append]
    rfl
  · have apart : (referenceMarks.all fun mark => mark ∉ ['\x5c', '/', ' ', '_']) = true := by decide
    have fits : Text.Outline.Fits (lacking referenceMarks) (viewValues plan) :=
      fits_lacking (fun mark listed =>
          ⟨(lacks mark listed).1, of_decide_eq_true (List.all_eq_true.mp apart mark listed)⟩)
        (fun text mark listed => referenceMark_not_mem_viewTexts (lacks mark listed).2 text) _
    have nothing : includePattern.gapsIn [] = [] := by decide +kernel
    have reads := @Text.Outline.reads_of_read? _ _ _ _ fits (fun _ => []) _ _ (by simp) read
    rw [reads.gapsIn_eq nothing]
    simp only [List.flatMap_singleton, Finding.filled, List.map_cons, List.map_nil, fill, spell,
      Text.Outline.fill_ofChars, List.append_nil]
    rfl

end Generated

end EntityScaffold
