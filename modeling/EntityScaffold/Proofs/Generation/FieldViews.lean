import EntityScaffold.Proofs.Attempt
import EntityScaffold.Proofs.Generated.ViewText
import EntityScaffold.Proofs.Generation.Plan

/-
The fields in the views of a plan. In the list of records each field has a column, with a header on top
and a cell in the row that is repeated; the page of one record has a row for each field, and the form an
input for each one but the identifier. All of them stand in the order of the fields.
-/

namespace EntityScaffold

open Generated
open Text.Outline (fill fill_ofChars says_of_encloses? spell told_part told_block told_nil)

namespace GenerationPlan

variable {plan : GenerationPlan} {withWrite : Bool} {outline : Text.Outline (Hole ViewLoop)}

/-- The list of records has a column for each field, and one for the actions behind them. -/
structure ListsFields (plan : GenerationPlan) (text : List Char) : Prop where
  headers : rowMarks.inside headerMarks text =
    [plan.fields.map headingOf ++ ["Actions".toList], []]
  cells : rowMarks.inside cellMarks text =
    [[], (plan.fields.zipIdx.map fun (entry, index) => listedCell plan entry (index = 0)) ++
      [linksCell plan]]
  columns : (rowMarks.inside headerMarks text).flatten.length = plan.fields.length + 1 ∧
    (rowMarks.inside cellMarks text).flatten.length = plan.fields.length + 1

/-- The page of a record has a row for each field, with one header and one cell. -/
structure ShowsFields (plan : GenerationPlan) (text : List Char) : Prop where
  headers : rowMarks.inside headerMarks text = plan.fields.map fun entry => [headingOf entry]
  cells : rowMarks.inside cellMarks text =
    plan.fields.map fun entry => [printMarks.around (shownValue entry)]

/-- The form prints its errors, an input for each field but the identifier, and the rest. -/
def AsksFields (plan : GenerationPlan) (text : List Char) : Prop :=
  printMarks.enclosed text = "form_errors(form)".toList ::
    ((plan.fields.filter fun entry => entry.1 ≠ "id").map inputOf ++ ["form_rest(form)".toList])

theorem listsFields_of_outline (clear : plan.HasClearNames)
    (isOutline : IsViewOutline withWrite .index outline) :
    plan.ListsFields (fill (viewValues plan) outline) := by
  have headers : rowMarks.inside headerMarks (fill (viewValues plan) outline) =
      [plan.fields.map headingOf ++ ["Actions".toList], []] := by
    rw [headers_fill clear (isOutline.listHeaders rfl)]
    simp only [told_part, told_block, told_nil, inLoops, headersIn, rowsIn, spell, fill_ofChars,
      List.append_nil, List.nil_append]
  have cells : rowMarks.inside cellMarks (fill (viewValues plan) outline) =
      [[], (plan.fields.zipIdx.map fun (entry, index) => listedCell plan entry (index = 0)) ++
        [linksCell plan]] := by
    rw [cells_fill clear (isOutline.listCells rfl)]
    simp only [told_part, told_block, told_nil, inLoops, cellsIn, rowsIn, fill_linksOutline,
      List.append_nil, List.nil_append]
  refine ⟨headers, cells, ?_, ?_⟩
  · rw [headers]
    simp
  · rw [cells]
    simp

theorem showsFields_of_outline (clear : plan.HasClearNames)
    (isOutline : IsViewOutline withWrite .show outline) :
    plan.ShowsFields (fill (viewValues plan) outline) where
  headers := by
    rw [headers_fill clear (isOutline.rowHeaders rfl), told_block, told_nil, List.append_nil]
    rfl
  cells := by
    rw [cells_fill clear (isOutline.rowCells rfl), told_block, told_nil, List.append_nil]
    rfl

theorem asksFields_of_outline (clear : plan.HasClearNames)
    (isOutline : IsViewOutline withWrite .form outline) :
    plan.AsksFields (fill (viewValues plan) outline) := by
  let inputs (_ : Hole ViewLoop) :=
    (plan.fields.filter fun entry => entry.1 ≠ "id").map inputOf
  have whole := @says_of_encloses? _ _ _ _ _ _ (fits_viewValues clear)
    (isClear_viewValues clear _) inputs _ (fun hole _ listed => by
      obtain rfl : hole = .block .inputs := by simpa using listed
      exact says_inputs clear) (isOutline.inputs rfl)
  have printed := whole.read_eq rfl
  rw [told_part, told_block, told_part, told_nil, spell, spell, fill_ofChars, fill_ofChars]
    at printed
  exact printed

/-- Each field appears once in each view, in the order of the fields. -/
theorem fields_in_views (actions : plan.actions = ActionPlan.make plan.request.withWrite)
    (clear : plan.HasClearNames) (tree : FileTree) :
    ∃ list record form,
      Library.packaged.renderText tree (viewSkeleton .index) plan.indexViewContext.bindings =
        .ok (CodeText.ofChars list) ∧
      Library.packaged.renderText tree (viewSkeleton .show) plan.showViewContext.bindings =
        .ok (CodeText.ofChars record) ∧
      Library.packaged.renderText tree (viewSkeleton .form) plan.formViewContext.bindings =
        .ok (CodeText.ofChars form) ∧
      plan.ListsFields list ∧ plan.ShowsFields record ∧ plan.AsksFields form := by
  obtain ⟨_, listed, ofList⟩ := exists_view_outline actions Library.included .index
  obtain ⟨_, shown, ofRecord⟩ := exists_view_outline actions Library.included .show
  obtain ⟨_, asked, ofForm⟩ := exists_view_outline actions Library.included .form
  exact ⟨_, _, _, renderText_view listed, renderText_view shown, renderText_view asked,
    listsFields_of_outline clear ofList, showsFields_of_outline clear ofRecord,
    asksFields_of_outline clear ofForm⟩

end GenerationPlan

/-- A request with a point in time among its fields, and with the identifier behind them. -/
def datedRequest : GenerationRequest where
  bundle := ⟨"Blog", "Acme", .ofString "b"⟩
  entity := "Admin.Post"
  metadata := ⟨[("title", "string"), ("publishedAt", "datetime"), ("id", "integer")].map
    fun entry => (CodeText.ofString entry.1, CodeText.ofString entry.2), [CodeText.ofString "id"]⟩
  routePrefix := "/blog/posts"
  withWrite := true

theorem dated_fields_in_views :
    ∃ (plan : GenerationPlan) (list record form : List Char),
      Generator.plan {} datedRequest = .ok plan ∧
      Library.packaged.renderText .empty (GenerationPlan.viewSkeleton .index)
          plan.indexViewContext.bindings = .ok (CodeText.ofChars list) ∧
      Library.packaged.renderText .empty (GenerationPlan.viewSkeleton .show)
          plan.showViewContext.bindings = .ok (CodeText.ofChars record) ∧
      Library.packaged.renderText .empty (GenerationPlan.viewSkeleton .form)
          plan.formViewContext.bindings = .ok (CodeText.ofChars form) ∧
      rowMarks.inside headerMarks list =
        [["Title", "Published at", "Id", "Actions"].map String.toList, []] ∧
      rowMarks.inside cellMarks record = [["\x7b\x7b entity.title \x7d\x7d".toList],
        ["\x7b\x7b entity.publishedAt|date('Y-m-d H:i:s') \x7d\x7d".toList],
        ["\x7b\x7b entity.id \x7d\x7d".toList]] ∧
      printMarks.enclosed form = ["form_errors(form)", "form_row(form.title)",
        "form_row(form.publishedAt)", "form_rest(form)"].map String.toList := by
  have isPlanned : (Generator.plan {} datedRequest).isOk = true := by decide +kernel
  obtain ⟨plan, planned⟩ := exists_eq_ok_of_isOk isPlanned
  obtain ⟨requested, actions, _⟩ := Generator.eq_of_plan planned
  have fields : plan.fields =
      [("title", "string"), ("publishedAt", "datetime"), ("id", "integer")] := by
    rw [GenerationPlan.fields, GenerationPlan.typedFields, requested]
    decide +kernel
  have clear : plan.HasClearNames := by
    constructor
    · rw [fields]
      decide
    · rw [requested]
      decide
    · rw [requested]
      decide
  rw [← requested] at actions
  obtain ⟨list, record, form, listed, shown, asked, ofList, ofRecord, ofForm⟩ :=
    GenerationPlan.fields_in_views actions clear .empty
  refine ⟨plan, list, record, form, planned, listed, shown, asked, ?_, ?_, ?_⟩
  · rw [ofList.headers, fields]
    decide +kernel
  · rw [ofRecord.cells, fields]
    decide +kernel
  · rw [ofForm, fields]
    decide +kernel

end EntityScaffold
