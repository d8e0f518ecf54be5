import EntityScaffold.Proofs.Generated.ViewLines
import EntityScaffold.Proofs.Text.Enclosed

/-
What the loops of views say in tables and forms. The names that a view holds are clear of the characters
that mark it up, so that the rows of a table, its cells and what is printed can be told apart: each pass
over a field gives its header, its cell, its row or its input, and nothing else.
-/

namespace EntityScaffold

def viewMarks : List Char := ['<', '>', '\x7b', '\x7d', '\'', '"', '\n']

def IsClearName (name : String) : Prop := ∀ mark ∈ viewMarks, mark ∉ name.toList

instance (name : String) : Decidable (IsClearName name) := List.decidableBAll _ viewMarks

/-- The names that a plan puts into tables and forms hold no character that marks up views. -/
structure GenerationPlan.HasClearNames (plan : GenerationPlan) : Prop where
  fields : ∀ entry ∈ plan.fields, IsClearName entry.1
  entity : IsClearName plan.request.entity
  routePrefix : IsClearName plan.request.routePrefix

namespace Generated

open Skeleton.Packaged (dateFilter)
open Text (HoleKind IsAbsent Marks Outline Says isAbsent_flatMap)
open Text.Outline

variable {plan : GenerationPlan} {Block : Type}

/-! ### Clear names -/

def isClear (char : Char) : Bool := !viewMarks.contains char

/-- What is known of the fillings when the names are clear. -/
def viewKinds : Hole Block → HoleKind
  | .block _ => .lines
  | .free .heading => .within (· != '<')
  | .free .field | .detail .entityWords | .detail .routeStart => .within isClear
  | _ => .within fun _ => true

theorem eq_block_of_lines {hole : Hole Block} (known : viewKinds hole = .lines) :
    ∃ block, hole = .block block := by
  cases hole with
  | block block => exact ⟨block, rfl⟩
  | free text => cases text <;> cases known
  | detail detail => cases detail <;> cases known

theorem isClear_of_name {name : String} (clear : IsClearName name) :
    ∀ char ∈ name.toList, isClear char = true := by
  intro char member
  rw [isClear, Bool.not_eq_true', Bool.eq_false_iff, ne_eq, List.contains_iff_mem]
  exact fun mark => clear char mark member

theorem isClear_replaceChar {name : String} (clear : IsClearName name) {old new : Char}
    (clearMark : isClear new = true) :
    ∀ char ∈ Text.replaceChar old new name.toList, isClear char = true := by
  intro char member
  rcases Text.mem_replaceChar member with same | inName
  · rwa [same]
  · exact isClear_of_name clear char inName

theorem fits_viewKinds (clear : plan.HasClearNames) {free : FreeText → List Char}
    (field : ∀ char ∈ free .field, isClear char = true) (heading : '<' ∉ free .heading)
    (blocks : Block → List Char) : Fits viewKinds (fillings plan free blocks) := by
  intro hole admits known char member
  cases hole with
  | block block => cases known
  | free text =>
      cases text with
      | field =>
          cases known
          exact field char member
      | heading =>
          cases known
          exact bne_iff_ne.mpr fun same => heading (same ▸ member)
      | nameSpace | variableStart | formPlace =>
          cases known
          rfl
  | detail detail =>
      cases detail with
      | entityWords =>
          cases known
          exact isClear_replaceChar clear.entity rfl char member
      | routeStart =>
          cases known
          change char ∈ (Route.namePrefix plan.request.routePrefix).toList at member
          rw [Route.namePrefix, String.toList_ofList] at member
          exact isClear_replaceChar clear.routePrefix rfl char member
      | className | bundle | entityClass | entityPath | pathStart =>
          cases known
          rfl

theorem fits_fieldValues (clear : plan.HasClearNames) {field : String} (clearField : IsClearName field) :
    Fits viewKinds (fieldValues plan field) := by
  refine fits_viewKinds clear (isClear_of_name clearField) (fun member => ?_) Empty.elim
  exact clearField '<' (by decide) (Text.mem_of_mem_humanize member (by decide) (by decide))

theorem fits_details (clear : plan.HasClearNames) : Fits viewKinds (details plan) :=
  fits_viewKinds clear (fun _ member => by cases member) List.not_mem_nil Empty.elim

/-! ### Texts that loops lack -/

/-- The outlines that the lines of a loop may have. -/
def lineOutlines : ViewLoop → List (Outline (Hole Empty))
  | .headings => [headingOutline]
  | .cells => [cellOutline false false, cellOutline false true, cellOutline true false,
      cellOutline true true]
  | .rowLinks => Action.all.map rowLinkOutline
  | .rows => [rowOutline false, rowOutline true]
  | .inputs => [inputOutline false, inputOutline true]

def loopLacks (text : List Char) (loop : ViewLoop) : Bool :=
  (lineOutlines loop).all (lacks viewKinds text)

theorem cellOutline_mem (moment first : Bool) : cellOutline moment first ∈ lineOutlines .cells := by
  cases moment <;> cases first <;> simp [lineOutlines]

theorem rowOutline_mem (moment : Bool) : rowOutline moment ∈ lineOutlines .rows := by
  cases moment <;> simp [lineOutlines]

theorem inputOutline_mem (isInput : Bool) : inputOutline isInput ∈ lineOutlines .inputs := by
  cases isInput <;> simp [lineOutlines]

theorem isAbsent_loopText (clear : plan.HasClearNames) {text : List Char} {loop : ViewLoop}
    (lacking : loopLacks text loop = true) : IsAbsent text (loopText plan loop) := by
  have absent {values : Hole Empty → List Char} (fits : Fits viewKinds values)
      {outline : Outline (Hole Empty)} (listed : outline ∈ lineOutlines loop) :
      IsAbsent text (fill values outline) :=
    isAbsent_fill fits (List.all_eq_true.mp lacking outline listed)
  have fits (entry) (member : entry ∈ plan.fields) : Fits viewKinds (fieldValues plan entry.1) :=
    fits_fieldValues clear (clear.fields entry member)
  cases loop with
  | headings =>
      exact isAbsent_flatMap fun entry member => absent (fits entry member) List.mem_cons_self
  | cells =>
      exact isAbsent_flatMap fun entry member =>
        absent (fits entry.1 (List.fst_mem_of_mem_zipIdx member)) (cellOutline_mem _ _)
  | rowLinks =>
      exact isAbsent_flatMap fun action _ =>
        absent (fits_details clear) (List.mem_map_of_mem (by cases action <;> decide))
  | rows =>
      exact isAbsent_flatMap fun entry member => absent (fits entry member) (rowOutline_mem _)
  | inputs =>
      exact isAbsent_flatMap fun entry member => absent (fits entry member) (inputOutline_mem _)

/-- The loops in whose text nothing is closed. -/
def clearLoops (closing : List Char) : Hole ViewLoop → Bool
  | .block loop => loopLacks closing loop
  | _ => false

theorem isClear_viewValues (clear : plan.HasClearNames) (closing : List Char) :
    IsClear clearLoops (viewValues plan) closing := by
  intro hole lacking
  cases hole with
  | block loop => exact isAbsent_loopText clear lacking
  | detail detail => cases lacking
  | free text => cases lacking

theorem fits_viewValues (clear : plan.HasClearNames) : Fits viewKinds (viewValues plan) := by
  refine fits_viewKinds clear (fun _ member => by cases member) (fun member => ?_) (loopText plan)
  cases Text.mem_of_mem_humanize member (by decide) (by decide)

/-! ### What a field gives -/

def rowMarks : Marks := .ofTag "tr"

def headerMarks : Marks := .ofTag "th"

def cellMarks : Marks := .ofTag "td"

def printMarks : Marks := ⟨"\x7b\x7b ".toList, " \x7d\x7d".toList⟩

def headingOf (entry : String × String) : List Char := Text.humanize entry.1.toList

def accessTo (field : String) : List Char := "entity.".toList ++ field.toList

def listedValue (entry : String × String) : List Char :=
  accessTo entry.1 ++
    if isMomentType entry.2 then " is not null ? ".toList ++ accessTo entry.1 ++ dateFilter.toList
    else []

def shownValue (entry : String × String) : List Char :=
  accessTo entry.1 ++ if isMomentType entry.2 then dateFilter.toList else []

def linkedTo (plan : GenerationPlan) (action : Action) (content : List Char) : List Char :=
  "<a href=\"".toList ++
    printMarks.around ("path('".toList ++
      (Route.name plan.request.routeNamePrefix action.text).toList ++
      "', \x7b 'id': entity.id \x7d)".toList) ++
    "\">".toList ++ content ++ "</a>".toList

/-- A cell in the list of records; the first one leads to the page of its record. -/
def listedCell (plan : GenerationPlan) (entry : String × String) (first : Bool) : List Char :=
  if first then linkedTo plan .show (printMarks.around (listedValue entry))
  else printMarks.around (listedValue entry)

def linksOutline : Outline (Hole ViewLoop) :=
  spell "\n                <ul>\n" ++ .hole (.block .rowLinks) ::
    spell "                </ul>\n            "

def linksCell (plan : GenerationPlan) : List Char :=
  "\n                <ul>\n".toList ++
    (plan.actions.rowLinks.flatMap fun action =>
      "                    <li>\n                        ".toList ++
        linkedTo plan action action.letters ++ "\n                    </li>\n".toList) ++
    "                </ul>\n            ".toList

def inputOf (entry : String × String) : List Char :=
  "form_row(form.".toList ++ entry.1.toList ++ ")".toList

section Filled

variable {free : FreeText → List Char} {entry : String × String}

theorem fill_linkedOutline (action : Action) (content : Outline (Hole Empty)) :
    fill (fillings plan free Empty.elim) (linkedOutline action content) =
      linkedTo plan action (fill (fillings plan free Empty.elim) content) := by
  simp only [linkedOutline, printedOutline, fill_append, spell, fill_ofChars, fill_nameOf_fillings]
  rfl

theorem fill_printedOutline (values : Hole Empty → List Char) (content : Outline (Hole Empty)) :
    fill values (printedOutline content) = printMarks.around (fill values content) := by
  simp only [printedOutline, fill_append, spell, fill_ofChars, Marks.around, printMarks]

theorem fill_accessOutline (field : String) :
    fill (fieldValues plan field) accessOutline = accessTo field := by
  rw [accessOutline, fill_append, spell, fill_ofChars, fill_hole]
  rfl

theorem fill_listedOutline : fill (fieldValues plan entry.1) (listedOutline (isMomentType entry.2)) =
    listedValue entry := by
  rw [listedOutline, listedValue, fill_append, fill_accessOutline]
  split
  · rw [fill_append, fill_append, fill_accessOutline, spell, spell, fill_ofChars, fill_ofChars]
  · rfl

theorem fill_shownOutline :
    fill (fieldValues plan entry.1) (printedOutline (shownOutline (isMomentType entry.2))) =
      printMarks.around (shownValue entry) := by
  rw [fill_printedOutline, shownOutline, shownValue, fill_append, fill_accessOutline]
  split
  · rw [spell, fill_ofChars]
  · rfl

theorem fill_cellContent (first : Bool) :
    fill (fieldValues plan entry.1) (cellContent (isMomentType entry.2) first) =
      listedCell plan entry first := by
  have value : fill (fieldValues plan entry.1) (printedOutline (listedOutline _)) = _ :=
    (fill_printedOutline _ _).trans (congrArg printMarks.around fill_listedOutline)
  cases first with
  | false => exact value
  | true => exact (fill_linkedOutline .show _).trans (congrArg (linkedTo plan .show) value)

theorem fill_linksOutline : fill (viewValues plan) linksOutline = linksCell plan := by
  have link (action : Action) : fill (details plan) (linkedOutline action (ofChars action.letters)) =
      linkedTo plan action action.letters := by
    rw [details, fill_linkedOutline, fill_ofChars]
  have links : viewValues plan (.block .rowLinks) = loopText plan .rowLinks := rfl
  rw [linksOutline, fill_append, fill, links, loopText]
  simp only [rowLinkOutline, fill_append, link, spell, fill_ofChars]
  exact (List.append_assoc _ _ _).symm

theorem fill_inputContent : fill (fieldValues plan entry.1) inputContent = inputOf entry := by
  rw [inputContent, fill_append, fill_append, spell, spell, fill_ofChars, fill_ofChars, fill_hole]
  rfl

end Filled

/-! ### What loops say -/

/-- Lines hold no blocks, and so nothing is closed in one. -/
def noneClear (_ : List Char) (_ : Hole Empty) : Bool := false

section Lines

variable {values : Hole Empty → List Char} {marks outer inner : Marks}
  {outline content : Outline (Hole Empty)} {part : List Char}

theorem says_part (fits : Fits viewKinds values)
    (read : encloses? viewKinds noneClear marks outline = some [.part content])
    (same : fill values content = part) : Says marks.enclosed (fill values outline) [part] := by
  have whole := @says_of_encloses? _ _ _ _ _ _ fits (fun _ lacking => by cases lacking)
    (fun _ => []) _ (fun hole known => (eq_block_of_lines known).elim fun block _ => block.elim) read
  rwa [told_part, told_nil, same] at whole

theorem says_inner_part (fits : Fits viewKinds values)
    (read : inside? viewKinds noneClear outer inner outline = some [.part [.part content]])
    (same : fill values content = part) :
    Says (outer.inside inner) (fill values outline) [[part]] := by
  have whole := @says_of_inside? _ _ _ _ _ _ _ fits (fun _ lacking => by cases lacking)
    (fun _ lacking => by cases lacking) (fun _ => []) (fun _ => []) _
    (fun hole known => (eq_block_of_lines known).elim fun block _ => block.elim)
    (fun hole known => (eq_block_of_lines known).elim fun block _ => block.elim) read
  rwa [told_part, told_part, told_nil, told_nil, same] at whole

end Lines

def headersIn (plan : GenerationPlan) : ViewLoop → List (List Char)
  | .headings | .rows => plan.fields.map headingOf
  | .cells | .rowLinks | .inputs => []

def cellsIn (plan : GenerationPlan) : ViewLoop → List (List Char)
  | .cells => (plan.fields.zipIdx 0).map fun (entry, index) => listedCell plan entry (index = 0)
  | .rows => plan.fields.map fun entry => printMarks.around (shownValue entry)
  | .headings | .rowLinks | .inputs => []

/-- The rows that a loop gives, each with the one part of its kind. -/
def rowsIn (plan : GenerationPlan) (part : String × String → List Char) :
    ViewLoop → List (List (List Char))
  | .rows => plan.fields.map fun entry => [part entry]
  | .headings | .cells | .rowLinks | .inputs => []

theorem says_headers (clear : plan.HasClearNames) (loop : ViewLoop) :
    Says headerMarks.enclosed (loopText plan loop) (headersIn plan loop) := by
  have fits (entry) (member : entry ∈ plan.fields) : Fits viewKinds (fieldValues plan entry.1) :=
    fits_fieldValues clear (clear.fields entry member)
  have heading (entry : String × String) :
      fill (fieldValues plan entry.1) [.hole (.free .heading)] = headingOf entry := fill_hole _ _
  have inRow : ∀ moment, encloses? viewKinds noneClear headerMarks (rowOutline moment) =
      some [.part [.hole (.free .heading)]] := by decide +kernel
  cases loop with
  | headings =>
      rw [headersIn, List.map_eq_flatMap]
      exact Says.flatMap fun entry member =>
        says_part (fits entry member) (by decide +kernel) (heading entry)
  | rows =>
      rw [headersIn, List.map_eq_flatMap]
      exact Says.flatMap fun entry member => says_part (fits entry member) (inRow _) (heading entry)
  | cells | rowLinks | inputs =>
      exact Marks.says_enclosed_nil (isAbsent_loopText clear (by decide +kernel))

theorem says_cells (clear : plan.HasClearNames) (loop : ViewLoop) :
    Says cellMarks.enclosed (loopText plan loop) (cellsIn plan loop) := by
  have fits (entry) (member : entry ∈ plan.fields) : Fits viewKinds (fieldValues plan entry.1) :=
    fits_fieldValues clear (clear.fields entry member)
  have inCell : ∀ moment first, encloses? viewKinds noneClear cellMarks (cellOutline moment first) =
      some [.part (cellContent moment first)] := by decide +kernel
  have inRow : ∀ moment, encloses? viewKinds noneClear cellMarks (rowOutline moment) =
      some [.part (printedOutline (shownOutline moment))] := by decide +kernel
  cases loop with
  | cells =>
      rw [cellsIn, List.map_eq_flatMap]
      exact Says.flatMap fun entry member =>
        says_part (fits entry.1 (List.fst_mem_of_mem_zipIdx member)) (inCell _ _)
          (fill_cellContent (entry.2 = 0))
  | rows =>
      rw [cellsIn, List.map_eq_flatMap]
      exact Says.flatMap fun entry member => says_part (fits entry member) (inRow _) fill_shownOutline
  | headings | rowLinks | inputs =>
      exact Marks.says_enclosed_nil (isAbsent_loopText clear (by decide +kernel))

theorem says_rows (clear : plan.HasClearNames) {inner : Marks}
    {content : Bool → Outline (Hole Empty)} {part : String × String → List Char}
    (read : ∀ moment, inside? viewKinds noneClear rowMarks inner (rowOutline moment) =
      some [.part [.part (content moment)]])
    (same : ∀ entry, fill (fieldValues plan entry.1) (content (isMomentType entry.2)) = part entry)
    (loop : ViewLoop) :
    Says (rowMarks.inside inner) (loopText plan loop) (rowsIn plan part loop) := by
  cases loop with
  | rows =>
      rw [rowsIn, List.map_eq_flatMap]
      exact Says.flatMap fun entry member =>
        says_inner_part (fits_fieldValues clear (clear.fields entry member)) (read _) (same entry)
  | headings | cells | rowLinks | inputs =>
      exact Marks.says_inside_nil (isAbsent_loopText clear (by decide +kernel))

/-- The inputs of the form: none for the identifier. -/
theorem says_inputs (clear : plan.HasClearNames) :
    Says printMarks.enclosed (loopText plan .inputs)
      ((plan.fields.filter fun entry => entry.1 ≠ "id").map inputOf) := by
  have read : encloses? viewKinds noneClear printMarks (inputOutline true) =
      some [.part inputContent] := by decide +kernel
  have each (entry) (member : entry ∈ plan.fields) : Says printMarks.enclosed
      (fill (fieldValues plan entry.1) (inputOutline !decide (entry.1 = "id")))
      (if entry.1 = "id" then [] else [inputOf entry]) := by
    by_cases isId : entry.1 = "id"
    · rw [if_pos isId, decide_eq_true isId]
      exact Says.nil printMarks.enclosed
    · rw [if_neg isId, decide_eq_false isId]
      exact says_part (fits_fieldValues clear (clear.fields entry member)) read fill_inputContent
  have filtered (entries : List (String × String)) :
      (entries.flatMap fun entry => if entry.1 = "id" then [] else [inputOf entry]) =
        (entries.filter fun entry => entry.1 ≠ "id").map inputOf := by
    induction entries with
    | nil => rfl
    | cons entry rest ih =>
        rw [List.flatMap_cons, ih, List.filter_cons]
        by_cases isId : entry.1 = "id" <;> simp [isId]
  rw [← filtered]
  exact Says.flatMap each

/-! ### What outlines of views say -/

def inLoops {Said : Type} (said : ViewLoop → List Said) : Hole ViewLoop → List Said
  | .block loop => said loop
  | _ => []

theorem says_inLoops {Said : Type} {read : List Char → List Said} {said : ViewLoop → List Said}
    (each : ∀ loop, Says read (loopText plan loop) (said loop)) {hole : Hole ViewLoop}
    (known : viewKinds hole = .lines) : Says read (viewValues plan hole) (inLoops said hole) := by
  obtain ⟨loop, rfl⟩ := eq_block_of_lines known
  exact each loop

section Tables

variable (clear : plan.HasClearNames) {outline : Outline (Hole ViewLoop)}
  {found : List (Passage (List (Passage (Outline (Hole ViewLoop)) (Hole ViewLoop))) (Hole ViewLoop))}

include clear

theorem inside_fill {inner : Marks} {partsIn : ViewLoop → List (List Char)}
    {rows : ViewLoop → List (List (List Char))}
    (parts : ∀ loop, Says inner.enclosed (loopText plan loop) (partsIn loop))
    (each : ∀ loop, Says (rowMarks.inside inner) (loopText plan loop) (rows loop))
    (read : inside? viewKinds clearLoops rowMarks inner outline = some found) :
    rowMarks.inside inner (fill (viewValues plan) outline) =
      told (told (fill (viewValues plan)) (inLoops partsIn)) (inLoops rows) found := by
  have whole := says_of_inside? (fits_viewValues clear) (isClear_viewValues clear _)
    (isClear_viewValues clear _) (fun hole known _ _ _ => says_inLoops parts known)
    (fun hole known _ => says_inLoops each known) read
  exact whole.read_eq rfl

theorem headers_fill
    (read : inside? viewKinds clearLoops rowMarks headerMarks outline = some found) :
    rowMarks.inside headerMarks (fill (viewValues plan) outline) =
      told (told (fill (viewValues plan)) (inLoops (headersIn plan)))
        (inLoops (rowsIn plan headingOf)) found := by
  have inRow : ∀ moment, inside? viewKinds noneClear rowMarks headerMarks (rowOutline moment) =
      some [.part [.part [.hole (.free .heading)]]] := by
    intro moment
    cases moment <;> decide +kernel
  exact inside_fill clear (says_headers clear) (says_rows clear inRow fun _ => fill_hole _ _) read

theorem cells_fill
    (read : inside? viewKinds clearLoops rowMarks cellMarks outline = some found) :
    rowMarks.inside cellMarks (fill (viewValues plan) outline) =
      told (told (fill (viewValues plan)) (inLoops (cellsIn plan)))
        (inLoops (rowsIn plan fun entry => printMarks.around (shownValue entry))) found := by
  have inRow : ∀ moment, inside? viewKinds noneClear rowMarks cellMarks (rowOutline moment) =
      some [.part [.part (printedOutline (shownOutline moment))]] := by
    intro moment
    cases moment <;> decide +kernel
  exact inside_fill clear (says_cells clear)
    (says_rows clear inRow fun _ => fill_shownOutline) read

end Tables

end Generated

end EntityScaffold
