import EntityScaffold.Proofs.Attempt
import EntityScaffold.Proofs.Generated.ViewText
import EntityScaffold.Proofs.Generation.Plan

/-
The values of fields in the views of a plan. The list of records and the page of one record print a
field by expressions of their own. They agree on every field but points in time: the list asks first
whether there is such a point, and the page puts what may be missing into the format of a date.
-/

namespace EntityScaffold

open Generated
open Text.Outline (fill fill_append fill_hole fill_ofChars infix_fill_of_read? spell)

namespace Generated

variable {plan : GenerationPlan} {entry : String × String}

/-- The lines of the list of records that print its fields, a cell for each one. -/
def listedLines (plan : GenerationPlan) : List Char :=
  (plan.fields.zipIdx 0).flatMap fun (entry, index) =>
    "            <td>".toList ++ listedCell plan entry (index = 0) ++ "</td>\n".toList

/-- The lines of the page of a record that print its fields, a row for each one. -/
def shownLines (plan : GenerationPlan) : List Char :=
  plan.fields.flatMap fun entry =>
    "        <tr>\n".toList ++ ("            <th>".toList ++ headingOf entry ++ "</th>\n".toList) ++
      ("            <td>".toList ++ printMarks.around (shownValue entry) ++ "</td>\n".toList) ++
      "        </tr>\n".toList

theorem loopText_cells : loopText plan .cells = listedLines plan := by
  refine congrArg (fun lines => (plan.fields.zipIdx 0).flatMap lines) (funext fun entry => ?_)
  simp only [cellOutline, fill_append, fill_cellContent, spell, fill_ofChars]

theorem loopText_rows : loopText plan .rows = shownLines plan := by
  refine congrArg (fun lines => plan.fields.flatMap lines) (funext fun entry => ?_)
  have heading : fill (fieldValues plan entry.1) headingOutline =
      "            <th>".toList ++ headingOf entry ++ "</th>\n".toList := by
    simp only [headingOutline, fill_append, fill, spell, fill_ofChars, List.append_assoc]
    rfl
  simp only [rowOutline, fill_append, fill_shownOutline, heading, spell, fill_ofChars]

/-! ### Values -/

theorem listedValue_of_moment (moment : isMomentType entry.2 = true) :
    listedValue entry = accessTo entry.1 ++ " is not null ? ".toList ++ shownValue entry := by
  simp only [listedValue, shownValue, moment, if_true, List.append_assoc]

/-- The two expressions for a field are the same just when the field is no point in time. -/
theorem shownValue_eq_listedValue_iff :
    shownValue entry = listedValue entry ↔ isMomentType entry.2 = false := by
  cases moment : isMomentType entry.2 with
  | false => simp only [listedValue, shownValue, moment, Bool.false_eq_true, if_false]
  | true =>
      rw [listedValue_of_moment moment]
      have longer : " is not null ? ".toList.length ≠ 0 := by decide
      constructor
      · intro same
        have lengths := congrArg List.length same
        simp only [List.length_append] at lengths
        omega
      · intro impossible
        cases impossible

end Generated

namespace GenerationPlan

variable {plan : GenerationPlan}

/-- Both views print every field in its place, by expressions that are the same but for points in time;
there the list puts a question in front of what the page prints. -/
theorem field_values_in_views (actions : plan.actions = ActionPlan.make plan.request.withWrite)
    (tree : FileTree) :
    ∃ list record,
      Library.packaged.renderText tree (viewSkeleton .index) plan.indexViewContext.bindings =
        .ok (CodeText.ofChars list) ∧
      Library.packaged.renderText tree (viewSkeleton .show) plan.showViewContext.bindings =
        .ok (CodeText.ofChars record) ∧
      listedLines plan <:+: list ∧ shownLines plan <:+: record ∧
      ∀ entry ∈ plan.fields,
        (shownValue entry = listedValue entry ↔ isMomentType entry.2 = false) ∧
        (isMomentType entry.2 = true →
          listedValue entry = accessTo entry.1 ++ " is not null ? ".toList ++ shownValue entry) := by
  obtain ⟨_, listed, ofList⟩ := exists_view_outline actions Library.included .index
  obtain ⟨_, shown, ofRecord⟩ := exists_view_outline actions Library.included .show
  refine ⟨_, _, renderText_view listed, renderText_view shown, ?_, ?_, fun entry _ =>
    ⟨shownValue_eq_listedValue_iff, listedValue_of_moment⟩⟩
  · rw [← loopText_cells]
    have listed : .block (.block .cells) ∈ foundInView plan.request.withWrite .index := by
      simp [foundInView]
    exact infix_fill_of_read? (viewValues plan) ofList.links listed
  · rw [← loopText_rows]
    have listed : .block (.block .rows) ∈ foundInView plan.request.withWrite .show := by
      simp [foundInView]
    exact infix_fill_of_read? (viewValues plan) ofRecord.links listed

end GenerationPlan

/-- A request with a date that a record may lack. -/
def eventRequest : GenerationRequest where
  bundle := ⟨"Agenda", "Acme", .ofString "b"⟩
  entity := "Event"
  metadata := ⟨[("id", "integer"), ("cancelled_on", "date")].map
    fun entry => (CodeText.ofString entry.1, CodeText.ofString entry.2), [CodeText.ofString "id"]⟩

theorem missing_date_shown_unguarded :
    ∃ (plan : GenerationPlan) (list record : List Char),
      Generator.plan {} eventRequest = .ok plan ∧
      Library.packaged.renderText .empty (GenerationPlan.viewSkeleton .index)
          plan.indexViewContext.bindings = .ok (CodeText.ofChars list) ∧
      Library.packaged.renderText .empty (GenerationPlan.viewSkeleton .show)
          plan.showViewContext.bindings = .ok (CodeText.ofChars record) ∧
      ("            <td>\x7b\x7b entity.cancelled_on is not null ? ".toList ++
        "entity.cancelled_on|date('Y-m-d H:i:s') \x7d\x7d</td>\n".toList) <:+: list ∧
      "<td>\x7b\x7b entity.cancelled_on|date('Y-m-d H:i:s') \x7d\x7d</td>\n".toList <:+: record ∧
      shownValue ("cancelled_on", "date") ≠ listedValue ("cancelled_on", "date") := by
  have isPlanned : (Generator.plan {} eventRequest).isOk = true := by decide +kernel
  obtain ⟨plan, planned⟩ := exists_eq_ok_of_isOk isPlanned
  obtain ⟨requested, actions, _⟩ := Generator.eq_of_plan planned
  have fields : plan.fields = [("id", "integer"), ("cancelled_on", "date")] := by
    rw [GenerationPlan.fields, GenerationPlan.typedFields, requested]
    decide +kernel
  rw [← requested] at actions
  obtain ⟨list, record, listed, shown, inList, inRecord, values⟩ :=
    GenerationPlan.field_values_in_views actions .empty
  have differ := (values ("cancelled_on", "date") (by rw [fields]; decide)).1
  refine ⟨plan, list, record, planned, listed, shown, ?_, ?_, fun same => ?_⟩
  · have cell : "            <td>".toList ++ listedCell plan ("cancelled_on", "date") false ++
        "</td>\n".toList = "            <td>\x7b\x7b entity.cancelled_on is not null ? ".toList ++
          "entity.cancelled_on|date('Y-m-d H:i:s') \x7d\x7d</td>\n".toList := by
      change _ ++ printMarks.around (listedValue ("cancelled_on", "date")) ++ _ = _
      decide +kernel
    refine List.IsInfix.trans ?_ inList
    rw [← cell, listedLines, fields]
    simp only [List.zipIdx_cons, List.zipIdx_nil, List.flatMap_cons, List.flatMap_nil,
      List.append_nil]
    exact (List.suffix_append _ _).isInfix
  · refine List.IsInfix.trans ?_ inRecord
    rw [shownLines, fields]
    decide +kernel
  · exact absurd (differ.mp same) (by decide)

end EntityScaffold
