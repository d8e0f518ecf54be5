import EntityScaffold.Proofs.Generated.Phrase
import EntityScaffold.Proofs.Text.Heading
import EntityScaffold.Skeleton.Packaged.Views

/-
The loops of views. Each pass over a field, or over an action on a row, renders an outline that is
known as a whole: it depends on whether the field is a point in time, whether it is the first one, and
whether it is the identifier. A loop renders these lines one pass after another.
-/

namespace EntityScaffold

namespace Generated

open Skeleton Skeleton.Packaged
open Text (Outline)
open Text.Outline (fill spell ofChars)

/-- The free texts of a view; `field` is the field of a line. -/
def viewTexts (plan : GenerationPlan) (field : String) : FreeText → List Char
  | .field => field.toList
  | .heading => Text.humanize field.toList
  | .formPlace => plan.paths.formDir.toList
  | .nameSpace | .variableStart => []

variable {plan : GenerationPlan}

/-! ### Phrases -/

section Phrases

variable {Hole Block : Type} {included : CodeText → Scope → Except RenderFault CodeText}
  {scope : Scope} {expr : Expr}

theorem renderPieces_tag (values : Hole → List Char) (scope : Scope) (statement : String)
    (rest : List Piece) :
    renderPieces included scope (.emit (tag statement) :: rest) =
      prepend values (spell "\x7b% " ++ spell statement ++ spell " %\x7d")
        (renderPieces included scope rest) :=
  renderPieces_emit (shows_tag values scope statement)

theorem renderPieces_printed (values : Hole → List Char) (scope : Scope) (text : String)
    (rest : List Piece) :
    renderPieces included scope (.emit (printed (.text text)) :: rest) =
      prepend values (spell "\x7b\x7b " ++ spell text ++ spell " \x7d\x7d")
        (renderPieces included scope rest) :=
  renderPieces_emit (shows_text values scope text).printed

theorem shows_linkTo {values : Generated.Hole Block → List Char} {action : Action}
    (route : Shows values scope (routeTo expr) (nameOf action)) :
    Shows values scope (linkTo expr)
      (spell "\x7b\x7b " ++ [spell "path('", nameOf action, spell "')"].flatten ++
        spell " \x7d\x7d") := by
  have parts := ShowAll.cons (shows_text values scope "path('")
    (.cons route (.cons (shows_text values scope "')") (showAll_nil values scope)))
  exact parts.joined.printed

theorem shows_rowLinkTo {values : Generated.Hole Block → List Char} {action : Action}
    (route : Shows values scope (routeTo expr) (nameOf action)) :
    Shows values scope (rowLinkTo expr)
      (spell "\x7b\x7b " ++ [spell "path('", nameOf action,
        spell "', \x7b 'id': entity.id \x7d)"].flatten ++ spell " \x7d\x7d") := by
  have parts := ShowAll.cons (shows_text values scope "path('")
    (.cons route (.cons (shows_text values scope "', \x7b 'id': entity.id \x7d)")
      (showAll_nil values scope)))
  exact parts.joined.printed

end Phrases

/-! ### Outlines -/

def printedOutline (outline : Outline (Hole Empty)) : Outline (Hole Empty) :=
  spell "\x7b\x7b " ++ outline ++ spell " \x7d\x7d"

/-- Something that leads to an action on the record of a row. -/
def linkedOutline (action : Action) (content : Outline (Hole Empty)) : Outline (Hole Empty) :=
  spell "<a href=\"" ++
    printedOutline (spell "path('" ++ nameOf action ++ spell "', \x7b 'id': entity.id \x7d)") ++
    spell "\">" ++ content ++ spell "</a>"

/-- A field of the record, as it is accessed. -/
def accessOutline : Outline (Hole Empty) := spell "entity." ++ [.hole (.free .field)]

def headingOutline : Outline (Hole Empty) :=
  spell "            <th>" ++ .hole (.free .heading) :: spell "</th>\n"

/-- The value of a field in a list of records; a point in time may be missing there. -/
def listedOutline (moment : Bool) : Outline (Hole Empty) :=
  accessOutline ++ if moment then spell " is not null ? " ++ accessOutline ++ spell dateFilter else []

def shownOutline (moment : Bool) : Outline (Hole Empty) :=
  accessOutline ++ if moment then spell dateFilter else []

/-- What stands in a cell; the first one leads to the page of the record. -/
def cellContent (moment first : Bool) : Outline (Hole Empty) :=
  if first then linkedOutline .show (printedOutline (listedOutline moment))
  else printedOutline (listedOutline moment)

def cellOutline (moment first : Bool) : Outline (Hole Empty) :=
  spell "            <td>" ++ cellContent moment first ++ spell "</td>\n"

def rowOutline (moment : Bool) : Outline (Hole Empty) :=
  spell "        <tr>\n" ++ headingOutline ++
    (spell "            <td>" ++ printedOutline (shownOutline moment) ++ spell "</td>\n") ++
    spell "        </tr>\n"

def inputContent : Outline (Hole Empty) :=
  spell "form_row(form." ++ [.hole (.free .field)] ++ spell ")"

def inputOutline (isInput : Bool) : Outline (Hole Empty) :=
  if isInput then printedOutline inputContent ++ spell "\n" else []

def rowLinkOutline (action : Action) : Outline (Hole Empty) :=
  spell "                    <li>\n                        " ++
    linkedOutline action (ofChars action.letters) ++ spell "\n                    </li>\n"

/-! ### Passes -/

variable {included : CodeText → Scope → Except RenderFault CodeText} {scope : Scope}
  {field : String} {type : CodeText}

def fieldValues (plan : GenerationPlan) (field : String) : Hole Empty → List Char :=
  fillings plan (viewTexts plan field) Empty.elim

theorem shows_field (bound : scope.get "field" = .string field) :
    Shows (fieldValues plan field) scope (.name "field") [.hole (.free .field)] :=
  shows_name bound

theorem shows_heading (bound : scope.get "field" = .string field) :
    Shows (fieldValues plan field) scope (.filtered .humanize (.name "field"))
      [.hole (.free .heading)] := by
  have whole : filled (fieldValues plan field) [.hole (.free .heading)] =
      CodeText.ofChars (Text.humanize field.toList) := by
    rw [filled, fill, fill, List.append_nil]
    rfl
  rw [Shows, whole, Expr.eval, Expr.eval, bound, ← CodeText.mapWhole_ofChars]
  rfl

theorem shows_assigned {Hole : Type} (values : Hole → List Char) (scope : Scope) (name : String)
    (outline : Outline Hole) :
    Shows values (scope.assign name (.text (filled values outline))) (.name name) outline := by
  rw [Shows, Expr.eval, Scope.get_assign_self]

def isMomentType (type : String) : Bool := ["date", "datetime", "time"].any (type == ·)

theorem eval_isMoment (bound : scope.get "type" = .text type) :
    isMoment.eval scope = .ok (.flag (isMomentType type.octetsReplaced)) := by
  have readable : ∀ word ∈ ["date", "datetime", "time"], '\uFFFD' ∉ word.toList := by decide
  exact eval_oneOf bound fun word member => isText_text (readable word member) type

set_option maxRecDepth 4000

theorem render_heading (bound : scope.get "field" = .string field) :
    renderPieces included scope (repeated headings) =
      .ok (filled (fieldValues plan field) headingOutline, scope) := by
  have heading := @shows_heading plan _ _ bound
  simp only [headings, repeated_each, renderPieces_text (fieldValues plan field),
    renderPieces_nil (fieldValues plan field), renderPieces_emit heading, prepend_ok, spell,
    headingOutline]
  repeat rewrite [String.toList_ofList]
  rfl

structure CellScope (plan : GenerationPlan) (field : String) (type : CodeText) (scope : Scope)
    (first : Bool) : Prop where
  named : scope.get "field" = .string field
  typed : scope.get "type" = .text type
  leads : (Expr.both .isFirst (.contains (.name "record_actions") "show")).eval scope =
    .ok (.flag first)
  route : Shows (fieldValues plan field) scope (routeTo (.text "show")) (nameOf .show)

theorem render_cell {first : Bool} (facts : CellScope plan field type scope first) :
    (renderPieces included scope (repeated cells)).map Prod.fst =
      .ok (filled (fieldValues plan field) (cellOutline (isMomentType type.octetsReplaced) first)) := by
  have isMoment := eval_isMoment facts.typed
  have name := @shows_field plan _ _ facts.named
  have value := (ShowAll.cons (shows_text (fieldValues plan field) scope "entity.")
    (.cons name (showAll_nil _ _))).joined
  have dateValue := (ShowAll.cons (shows_text (fieldValues plan field) scope "entity.")
    (.cons name (.cons (shows_text _ _ " is not null ? entity.") (.cons name
      (.cons (shows_text _ _ dateFilter) (showAll_nil _ _)))))).joined
  have leads (datum : Datum) : (Expr.both .isFirst (.contains (.name "record_actions") "show")).eval
      (scope.assign "value" datum) = .ok (.flag first) :=
    (Expr.eval_assign _ rfl).trans facts.leads
  have route (datum : Datum) : Shows (fieldValues plan field) (scope.assign "value" datum)
      (routeTo (.text "show")) (nameOf .show) := facts.route.assign rfl datum
  have link (datum : Datum) := shows_rowLinkTo (route datum)
  have shown (outline : Outline (Hole Empty)) :=
    (shows_assigned (fieldValues plan field) scope "value" outline).printed
  generalize isMomentType type.octetsReplaced = moment at isMoment
  cases moment <;> cases first
  all_goals
    simp only [cells, repeated_eachEntry, renderPieces_branch isMoment,
      renderPieces_branch (leads _), renderPieces_assign value, renderPieces_assign dateValue,
      renderPieces_text (fieldValues plan field), renderPieces_nil (fieldValues plan field),
      renderPieces_emit (link _), renderPieces_emit (shown _), prepend_ok, cond_true, cond_false,
      List.cons_append, List.nil_append]
    simp only [dateFilter, spell, cellOutline, cellContent, listedOutline, accessOutline, linkedOutline,
      printedOutline]
    repeat rewrite [String.toList_ofList]
    rfl

theorem render_row (named : scope.get "field" = .string field)
    (typed : scope.get "type" = .text type) :
    (renderPieces included scope (repeated rows)).map Prod.fst =
      .ok (filled (fieldValues plan field) (rowOutline (isMomentType type.octetsReplaced))) := by
  have isMoment := eval_isMoment typed
  have name := @shows_field plan _ _ named
  have value := (ShowAll.cons (shows_text (fieldValues plan field) scope "entity.")
    (.cons name (showAll_nil _ _))).joined
  have dateValue := (ShowAll.cons (shows_text (fieldValues plan field) scope "entity.")
    (.cons name (.cons (shows_text _ _ dateFilter) (showAll_nil _ _)))).joined
  have heading (datum : Datum) : Shows (fieldValues plan field) (scope.assign "value" datum)
      (.filtered .humanize (.name "field")) [.hole (.free .heading)] :=
    (shows_heading named).assign rfl datum
  have shown (outline : Outline (Hole Empty)) :=
    (shows_assigned (fieldValues plan field) scope "value" outline).printed
  generalize isMomentType type.octetsReplaced = moment at isMoment
  cases moment
  all_goals
    simp only [rows, repeated_eachEntry, renderPieces_branch isMoment, renderPieces_assign value,
      renderPieces_assign dateValue, renderPieces_text (fieldValues plan field),
      renderPieces_lines (fieldValues plan field), renderPieces_nil (fieldValues plan field),
      renderPieces_emit (heading _), renderPieces_emit (shown _), prepend_ok, cond_true,
      cond_false, List.cons_append, List.nil_append]
    simp only [dateFilter, List.flatMap_cons, List.flatMap_nil, spell, rowOutline, headingOutline,
      shownOutline, accessOutline, printedOutline]
    repeat rewrite [String.toList_ofList]
    rfl

theorem render_input (named : scope.get "field" = .string field) :
    renderPieces included scope (repeated inputs) =
      .ok (filled (fieldValues plan field) (inputOutline !decide (field = "id")), scope) := by
  have name := @shows_field plan _ _ named
  have input := (ShowAll.cons (shows_text (fieldValues plan field) scope "form_row(form.")
    (.cons name (.cons (shows_text _ _ ")") (showAll_nil _ _)))).joined.printed
  have asked : (Expr.negated (.equals (.name "field") "id")).eval scope =
      .ok (.flag !decide (field = "id")) := by
    rw [Expr.eval, eval_equals_string named]
    rfl
  generalize (!decide (field = "id")) = isInput at asked
  cases isInput
  all_goals
    simp only [inputs, repeated_each, when, renderPieces_branch asked,
      renderPieces_text (fieldValues plan field), renderPieces_nil (fieldValues plan field),
      renderPieces_emit input, prepend_ok, cond_true, cond_false, List.cons_append,
      List.nil_append, spell, inputOutline, inputContent, printedOutline]
    repeat rewrite [String.toList_ofList]
    rfl

theorem render_rowLink {action : Action} (named : scope.get "action" = .string action.text)
    (prefixed : scope.get "route_name_prefix" = .string plan.request.routeNamePrefix) :
    renderPieces included scope (repeated rowLinks) =
      .ok (filled (details plan) (rowLinkOutline action), scope) := by
  have route : Shows (details plan) scope (routeTo (.name "action")) (nameOf action) :=
    shows_routeTo prefixed (congrArg Except.ok named)
  have link := shows_rowLinkTo route
  have word := shows_action (details plan) named
  simp only [rowLinks, repeated_each, renderPieces_text (details plan),
    renderPieces_lines (details plan), renderPieces_nil (details plan), renderPieces_emit link,
    renderPieces_emit word, prepend_ok]
  simp only [List.flatMap_cons, List.flatMap_nil, spell, rowLinkOutline, linkedOutline, printedOutline]
  repeat rewrite [String.toList_ofList]
  cases action <;> rfl

/-! ### The loops of views -/

inductive ViewLoop where
  | headings
  | cells
  | rowLinks
  | rows
  | inputs
  deriving DecidableEq

namespace ViewLoop

def piece : ViewLoop → Piece
  | .headings => Packaged.headings
  | .cells => Packaged.cells
  | .rowLinks => Packaged.rowLinks
  | .rows => Packaged.rows
  | .inputs => Packaged.inputs

def view : ViewLoop → View
  | .headings | .cells | .rowLinks => .index
  | .rows => .show
  | .inputs => .form

end ViewLoop

def viewBindings (plan : GenerationPlan) : View → Bindings
  | .index => plan.indexViewContext.bindings
  | .show => plan.showViewContext.bindings
  | .new | .edit | .form => plan.formViewContext.bindings

def viewScope (plan : GenerationPlan) (view : View) : Scope := ⟨viewBindings plan view, false, false⟩

/-- The text of a loop: the lines of its passes, one after another. -/
def loopText (plan : GenerationPlan) : ViewLoop → List Char
  | .headings => plan.fields.flatMap fun entry => fill (fieldValues plan entry.1) headingOutline
  | .cells => (plan.fields.zipIdx 0).flatMap fun (entry, index) =>
      fill (fieldValues plan entry.1) (cellOutline (isMomentType entry.2) (index = 0))
  | .rowLinks => plan.actions.rowLinks.flatMap fun action => fill (details plan) (rowLinkOutline action)
  | .rows => plan.fields.flatMap fun entry =>
      fill (fieldValues plan entry.1) (rowOutline (isMomentType entry.2))
  | .inputs => plan.fields.flatMap fun entry =>
      fill (fieldValues plan entry.1) (inputOutline !decide (entry.1 = "id"))

def viewValues (plan : GenerationPlan) : Hole ViewLoop → List Char :=
  fillings plan (viewTexts plan "") (loopText plan)

theorem cellScope_of_entry (actions : plan.actions = ActionPlan.make plan.request.withWrite)
    (place : Datum) (entry : String × CodeText) (first last : Bool) :
    CellScope plan entry.1 entry.2
      (entryScope "field" "type" (viewScope plan .index) place entry first last) first where
  named := rfl
  typed := rfl
  leads := by
    have among : plan.actions.rowLinks.contains .show = true := by
      rw [actions]
      cases plan.request.withWrite <;> rfl
    let scope := entryScope "field" "type" (viewScope plan .index) place entry first last
    have isFirst : Expr.isFirst.eval scope = .ok (.flag first) := rfl
    have hasShow : (Expr.contains (.name "record_actions") "show").eval scope =
        .ok (.flag (plan.actions.rowLinks.contains .show)) := eval_contains_actions rfl .show
    have both := eval_both_flags isFirst hasShow
    rwa [among, Bool.and_true] at both
  route := shows_routeTo rfl rfl

theorem renderPiece_loop (actions : plan.actions = ActionPlan.make plan.request.withWrite)
    (included : CodeText → Scope → Except RenderFault CodeText) (loop : ViewLoop) :
    renderPiece included (viewScope plan loop.view) loop.piece =
      .ok (CodeText.ofChars (loopText plan loop), viewScope plan loop.view) := by
  have bound : (viewScope plan loop.view).get "fields" = Datum.ofTexts plan.typedFields := by
    cases loop <;> rfl
  have names := plan.items_typedFields
  have rendered {pieces : List Piece} {scope : Scope} {text : CodeText}
      (whole : renderPieces included scope pieces = .ok (text, scope)) :
      (renderPieces included scope pieces).map Prod.fst = .ok text :=
    congrArg (Except.map Prod.fst) whole
  cases loop with
  | headings => exact renderPiece_itemLoop bound names fun _ _ _ _ _ => rendered (render_heading rfl)
  | cells =>
      rw [loopText, GenerationPlan.fields, List.zipIdx_map, List.flatMap_map]
      exact renderPiece_entryLoop bound fun entry _ place first last =>
        render_cell (cellScope_of_entry actions place entry first last)
  | rowLinks =>
      have listed : (viewScope plan .index).get "record_actions" =
          Datum.ofActions plan.actions.rowLinks := rfl
      exact renderPiece_itemLoop listed rfl fun _ _ _ _ _ => rendered (render_rowLink rfl rfl)
  | rows =>
      let text (entry : String × CodeText) :=
        fill (fieldValues plan entry.1) (rowOutline (isMomentType entry.2.octetsReplaced))
      have looped := @renderPiece_entryLoop _ included "field" "type" _ _ (repeated rows)
        (fun _ => text) bound fun _ _ _ _ _ => render_row rfl rfl
      rw [flatMap_zipIdx_fst text] at looped
      rwa [loopText, GenerationPlan.fields, List.flatMap_map]
  | inputs => exact renderPiece_itemLoop bound names fun _ _ _ _ _ => rendered (render_input rfl)

end Generated

end EntityScaffold
