import EntityScaffold.Proofs.Generated.Detail

/-
What the phrases of skeletons show. When a scope binds the names of a plan, the names of routes, their
paths and the spellings of the entity become outlines, and the questions for actions have answers.
-/

namespace EntityScaffold

open Text (Outline)
open Text.Outline (fill ofChars)

namespace CodeText

theorem replacePoint_ofChars (old new : Char) (chars : List Char) :
    Skeleton.replacePoint old new (ofChars chars) = ofChars (Text.replaceChar old new chars) := by
  unfold Skeleton.replacePoint ofChars Text.replaceChar
  rw [List.map_map, List.map_map]
  refine List.map_congr_left fun char _ => ?_
  by_cases same : char = old
  · simp [same]
  · have apart : CodePoint.ofChar char ≠ CodePoint.ofChar old := fun equal =>
      same (CodePoint.ofChar_injective equal)
    simp [same, apart]

end CodeText

theorem Action.text_injective {first second : Action} (same : first.text = second.text) :
    first = second := by
  revert same
  cases first <;> cases second <;> decide

namespace Skeleton

variable {scope : Scope} {expr : Expr}

/-! ### Questions -/

theorem isText_string (wanted value : String) :
    (Datum.string value).isText wanted = .ok (decide (value = wanted)) := by
  have same : (CodeText.ofString value = CodeText.ofString wanted) ↔ value = wanted :=
    ⟨CodeText.ofString_injective, fun equal => by rw [equal]⟩
  rw [Datum.string, Datum.isText, decide_eq_decide.mpr same]

/-- A text is a word just when it reads as that word, unless the word holds the mark of what cannot be
read. -/
theorem isText_text {wanted : String} (readable : '\uFFFD' ∉ wanted.toList) (value : CodeText) :
    (Datum.text value).isText wanted = .ok (value.octetsReplaced == wanted) := by
  have same : value = CodeText.ofString wanted ↔ value.octetsReplaced = wanted :=
    (CodeText.octetsReplaced_eq_iff readable).symm
  exact congrArg Except.ok (decide_eq_decide.mpr same)

theorem anyIsText_actions (action : Action) (actions : List Action) :
    Datum.anyIsText action.text (actions.map fun item => .string item.text) =
      .ok (actions.contains action) := by
  induction actions with
  | nil => rfl
  | cons first rest ih =>
      rw [List.map_cons, Datum.anyIsText, isText_string, ih]
      by_cases same : first = action
      · subst same
        simp [bind, Except.bind, pure, Except.pure]
      · have apart : first.text ≠ action.text := fun equal => same (Action.text_injective equal)
        simp [bind, Except.bind, apart, Ne.symm same]

theorem eval_contains_actions {name : String} {actions : List Action}
    (bound : scope.get name = Datum.ofActions actions) (action : Action) :
    (Expr.contains (.name name) action.text).eval scope =
      .ok (.flag (actions.contains action)) := by
  rw [Expr.eval, Expr.eval, bound]
  change (Datum.ofActions actions).containsText action.text >>= _ = _
  rw [Datum.ofActions, Datum.containsText, anyIsText_actions]
  rfl

theorem eval_equals_string {name value : String} (bound : scope.get name = .string value)
    (wanted : String) :
    (Expr.equals (.name name) wanted).eval scope = .ok (.flag (decide (value = wanted))) := by
  rw [Expr.eval, Expr.eval, bound]
  change ((Datum.string value).isText wanted >>= fun answer => Except.ok (Datum.flag answer)) = _
  rw [isText_string]
  rfl

theorem eval_oneOf {name : String} {datum : Datum} {answer : String → Bool} {texts : List String}
    (bound : scope.get name = datum)
    (each : ∀ text ∈ texts, datum.isText text = .ok (answer text)) :
    (Expr.oneOf (.name name) texts).eval scope = .ok (.flag (texts.any answer)) := by
  have among : (texts.anyM fun text => datum.isText text) = .ok (texts.any answer) := by
    induction texts with
    | nil => rfl
    | cons text rest ih =>
        obtain ⟨first, others⟩ := List.forall_mem_cons.mp each
        rw [List.anyM, first, List.any_cons]
        cases answer text with
        | true => rfl
        | false => exact ih others
  rw [Expr.eval, Expr.eval, bound]
  change ((texts.anyM fun text => datum.isText text) >>= fun answer =>
    Except.ok (Datum.flag answer)) = _
  rw [among]
  rfl

theorem eval_oneOf_string {name value : String} (bound : scope.get name = .string value)
    (texts : List String) :
    (Expr.oneOf (.name name) texts).eval scope = .ok (.flag (texts.any (value == ·))) :=
  eval_oneOf bound fun text _ => isText_string text value

theorem eval_both_flags {left right : Expr} {first second : Bool}
    (onLeft : left.eval scope = .ok (.flag first)) (onRight : right.eval scope = .ok (.flag second)) :
    (Expr.both left right).eval scope = .ok (.flag (first && second)) := by
  rw [Expr.eval, onLeft, onRight]
  cases first <;> rfl

/-! ### Texts in one -/

theorem eval_joined {parts : List Expr} {texts : List String}
    (evaluated : evalAll scope parts = .ok (texts.map Datum.string)) :
    (Expr.joined parts).eval scope =
      .ok (.text (CodeText.ofChars (texts.flatMap String.toList))) := by
  have shown : ShowAll (fun hole : Empty => hole.elim) scope parts (texts.map Text.Outline.spell) := by
    rw [ShowAll, evaluated, List.map_map]
    refine congrArg Except.ok (List.map_congr_left fun text _ => ?_)
    exact congrArg Datum.text (filled_spell _ text).symm
  have whole : (texts.map Text.Outline.spell).flatten =
      (ofChars (texts.flatMap String.toList) : Outline Empty) := by
    rw [← List.flatMap_def, ofChars, List.map_flatMap]
    rfl
  have joined := shown.joined
  rwa [Shows, whole, filled, Text.Outline.fill_ofChars] at joined

/-! ### Name spaces -/

/-- The parts of a name space that are not empty, with a backslash between them and for each dot. -/
def nameSpaceChars (texts : List String) : List Char :=
  Text.replaceChar '.' '\x5c'
    (Text.joinWith ['.'] ((texts.map String.toList).filter fun chars => !chars.isEmpty))

theorem joinWith_ofChars (separator : List Char) (pieces : List (List Char)) :
    Text.joinWith (CodeText.ofChars separator) (pieces.map CodeText.ofChars) =
      CodeText.ofChars (Text.joinWith separator pieces) := by
  induction pieces with
  | nil => rfl
  | cons piece rest ih =>
      cases rest with
      | nil => rfl
      | cons next others =>
          rw [List.map_cons] at ih
          rw [List.map_cons, List.map_cons, Text.joinWith_cons_cons, Text.joinWith_cons_cons, ih,
            CodeText.ofChars_append, CodeText.ofChars_append]

theorem countingTexts_strings (texts : List String) :
    countingTexts (texts.map Datum.string) =
      .ok (((texts.map String.toList).filter fun chars => !chars.isEmpty).map CodeText.ofChars) := by
  induction texts with
  | nil => rfl
  | cons text rest ih =>
      rw [List.map_cons, countingTexts, ih, List.map_cons, List.filter_cons]
      change (if (!(CodeText.ofString text).isEmpty) = true then _ else _) = _
      have sameEmpty : (CodeText.ofString text).isEmpty = text.toList.isEmpty := by
        rw [CodeText.ofString, CodeText.ofChars, List.isEmpty_map]
      rw [sameEmpty]
      cases text.toList.isEmpty <;> rfl

theorem mem_of_mem_nameSpaceChars {texts : List String} {char : Char}
    (member : char ∈ nameSpaceChars texts) : char = '\x5c' ∨ ∃ text ∈ texts, char ∈ text.toList := by
  obtain ⟨origin, present, same⟩ := List.mem_map.mp member
  by_cases dot : origin = '.'
  · rw [if_pos dot] at same
    exact Or.inl same.symm
  · rw [if_neg dot] at same
    subst same
    rcases Text.mem_of_mem_joinWith present with between | ⟨piece, listed, inside⟩
    · exact absurd (List.mem_singleton.mp between) dot
    · obtain ⟨text, inTexts, isPiece⟩ := List.mem_map.mp (List.mem_filter.mp listed).1
      subst isPiece
      exact Or.inr ⟨text, inTexts, inside⟩

theorem eval_nameSpace {parts : List Expr} {texts : List String}
    (evaluated : evalAll scope parts = .ok (texts.map Datum.string)) :
    (Expr.nameSpace parts).eval scope = .ok (.text (CodeText.ofChars (nameSpaceChars texts))) := by
  rw [Expr.eval, evaluated]
  change (countingTexts (texts.map Datum.string) >>= fun texts =>
    Except.ok (Datum.text (nameSpaceText texts))) = _
  have dot : CodeText.ofString "." = CodeText.ofChars ['.'] := by
    rw [CodeText.ofString, String.toList_ofList]
  rw [countingTexts_strings, nameSpaceChars, ← CodeText.replacePoint_ofChars, ← joinWith_ofChars,
    ← dot]
  rfl

theorem shows_nameSpace {Hole : Type} {values : Hole → List Char} {hole : Hole} {parts : List Expr}
    {texts : List String} (evaluated : evalAll scope parts = .ok (texts.map Datum.string))
    (same : values hole = nameSpaceChars texts) :
    Shows values scope (.nameSpace parts) [.hole hole] := by
  rw [Shows, eval_nameSpace evaluated, filled, Text.Outline.fill, Text.Outline.fill,
    List.append_nil, same]

end Skeleton

theorem GenerationPlan.items_typedFields (plan : GenerationPlan) :
    (Skeleton.Datum.ofTexts plan.typedFields).items =
      .ok (plan.fields.map fun entry => .string entry.1) := by
  rw [Skeleton.Datum.ofTexts, Skeleton.Datum.items, GenerationPlan.fields, List.map_map, List.map_map]
  rfl

namespace Generated

open Skeleton

variable {Block : Type} {plan : GenerationPlan} {free : FreeText → List Char}
  {blocks : Block → List Char} {scope : Scope}

/-! ### Spellings -/

def nameOf (action : Action) : Outline (Hole Block) :=
  .hole (.detail .routeStart) :: ofChars action.nameEnd

def pathOf (action : Action) : Outline (Hole Block) :=
  .hole (.detail .pathStart) :: ofChars action.pathEnd

theorem shows_detail {name value : String} {detail : Detail} (bound : scope.get name = .string value)
    (same : detail.ofPlan plan = value.toList) :
    Shows (fillings plan free blocks) scope (.name name) [.hole (.detail detail)] := by
  refine shows_name ?_
  rw [bound, fillings, same]
  rfl

theorem shows_entityWith {detail : Detail} {mark : Char}
    (bound : scope.get "entity" = .string plan.request.entity)
    (same : detail.ofPlan plan = Text.replaceChar '.' mark plan.request.entity.toList) :
    Shows (fillings plan free blocks) scope (Packaged.entityWith mark)
      [.hole (.detail detail)] := by
  have whole : filled (fillings plan free blocks) [.hole (.detail detail)] =
      CodeText.ofChars (Text.replaceChar '.' mark plan.request.entity.toList) := by
    rw [filled, Text.Outline.fill, Text.Outline.fill, List.append_nil, fillings, same]
  rw [Shows, Packaged.entityWith, Expr.eval, Expr.eval, bound, whole,
    ← CodeText.replacePoint_ofChars]
  rfl

theorem filled_hole_ofChars (values : Hole Block → List Char) (hole : Hole Block)
    (chars : List Char) :
    filled values (.hole hole :: ofChars chars) = CodeText.ofChars (values hole ++ chars) := by
  rw [filled, Text.Outline.fill, Text.Outline.fill_ofChars]

theorem shows_action {Hole : Type} (values : Hole → List Char) {name : String} {action : Action}
    (bound : scope.get name = .string action.text) :
    Shows values scope (.name name) (ofChars action.letters) := by
  rw [Shows, Expr.eval, bound, filled, Text.Outline.fill_ofChars, ← Action.text_toList]
  rfl

theorem shows_routeTo {expr : Expr} {action : Action}
    (bound : scope.get "route_name_prefix" = .string plan.request.routeNamePrefix)
    (asked : expr.eval scope = .ok (.string action.text)) :
    Shows (fillings plan free blocks) scope (Packaged.routeTo expr) (nameOf action) := by
  rw [Shows, Packaged.routeTo, Expr.eval, Expr.eval, bound, asked, nameOf, filled_hole_ofChars]
  change Except.ok (Datum.text (Route.nameText (CodeText.ofString _) (CodeText.ofString _))) = _
  rw [Route.nameText_ofString, CodeText.ofString, Route.name_toList]
  rfl

theorem fill_nameOf_fillings (action : Action) :
    fill (fillings plan free blocks) (nameOf action) =
      (Route.name plan.request.routeNamePrefix action.text).toList := by
  rw [Route.name_toList, nameOf, fill, Text.Outline.fill_ofChars]
  rfl

theorem shows_routePath {expr : Expr} {action : Action}
    (bound : scope.get "route_prefix" = .string plan.request.routePrefix)
    (asked : expr.eval scope = .ok (.string action.text)) :
    Shows (fillings plan free blocks) scope (.routePath (.name "route_prefix") expr)
      (pathOf action) := by
  have tail : routeTail (.string action.text) = .ok (CodeText.ofChars action.pathEnd) := by
    unfold routeTail Datum.string
    dsimp only
    rw [CodeText.toStringReplacing_ofString, Route.tail?_text]
    change Except.ok (CodeText.ofString _) = _
    rw [CodeText.ofString, String.toList_ofList]
  rw [Shows, Expr.eval, Expr.eval, bound, asked, pathOf, filled_hole_ofChars]
  change (routeTail (.string action.text) >>= fun tail => Except.ok (Datum.text
    (Route.baseText (CodeText.ofString _) ++ tail))) = _
  rw [tail, Route.baseText_ofString, CodeText.ofChars_append]
  rfl

end Generated

namespace Skeleton

/-! ### Loops -/

variable {scope : Scope} {included : CodeText → Scope → Except RenderFault CodeText}

/-- A loop whose passes are all alike gives lines that say what the items say. -/
theorem exists_itemLoop {Item Part : Type} {pattern : Part → Text.Pattern} {item collection : String}
    {value : Datum} {items : List Item} {datum : Item → Datum} {body : List Piece}
    {said : Item → Part → List (List (List Char))} (bound : scope.get collection = value)
    (listed : value.items = .ok (items.map datum))
    (pass : ∀ entry ∈ items, ∀ place first last, ∃ text,
      (renderPieces included (itemScope item scope place (datum entry) first last) body).map
          Prod.fst = .ok (CodeText.ofChars text) ∧
        ∀ part, (pattern part).Reads text (said entry part)) :
    ∃ lines, renderPiece included scope (Packaged.each item (.name collection) body) =
        .ok (CodeText.ofChars lines, scope) ∧
      ∀ part, (pattern part).Reads lines (items.flatMap fun entry => said entry part) := by
  obtain ⟨lines, rendered, reads⟩ := @exists_passes scope Item Part pattern
    (fun told datum => told.assign item datum)
    (fun inner => (renderPieces included inner body).map Prod.fst) items.length datum
    (fun _ entry part => said entry part) items pass 0
  have evaluated : (Expr.name collection).eval scope = .ok value := congrArg Except.ok bound
  refine ⟨lines, ?_, fun part => ?_⟩
  · rw [renderPiece_each evaluated listed, List.length_map]
    exact congrArg (Except.map _) rendered
  · have whole := reads part
    rwa [flatMap_zipIdx_fst (fun entry => said entry part)] at whole

theorem renderPiece_itemLoop {Item : Type} {item collection : String} {value : Datum}
    {items : List Item} {datum : Item → Datum} {body : List Piece} {text : Item → List Char}
    (bound : scope.get collection = value) (listed : value.items = .ok (items.map datum))
    (pass : ∀ entry ∈ items, ∀ place first last,
      (renderPieces included (itemScope item scope place (datum entry) first last) body).map
          Prod.fst = .ok (CodeText.ofChars (text entry))) :
    renderPiece included scope (Packaged.each item (.name collection) body) =
      .ok (CodeText.ofChars (items.flatMap text), scope) := by
  have evaluated : (Expr.name collection).eval scope = .ok value := congrArg Except.ok bound
  have passed := @passes_eq scope Item (fun told datum => told.assign item datum)
    (fun inner => (renderPieces included inner body).map Prod.fst) items.length datum
    (fun _ => text) items pass 0
  rw [renderPiece_each evaluated listed, List.length_map, passed, flatMap_zipIdx_fst]
  rfl

/-- A loop over the entries of a table, in which the first pass may be another one. -/
theorem renderPiece_entryLoop {key value table : String} {entries : List (String × CodeText)}
    {body : List Piece} {text : Bool → String × CodeText → List Char}
    (bound : scope.get table = Datum.ofTexts entries)
    (pass : ∀ entry ∈ entries, ∀ place first last,
      (renderPieces included (entryScope key value scope place entry first last) body).map
          Prod.fst = .ok (CodeText.ofChars (text first entry))) :
    renderPiece included scope (.eachEntry key value (.name table) body) =
      .ok (CodeText.ofChars ((entries.zipIdx 0).flatMap fun entry => text (entry.2 = 0) entry.1),
        scope) := by
  have evaluated : (Expr.name table).eval scope = .ok (Datum.ofTexts entries) :=
    congrArg Except.ok bound
  have passed := @passes_eq scope (String × CodeText) (bindEntry key value)
    (fun inner => (renderPieces included inner body).map Prod.fst) entries.length
    (fun entry => .list [.string entry.1, .text entry.2]) text entries pass 0
  rw [renderPiece_eachEntry evaluated, passed]
  rfl

end Skeleton

end EntityScaffold
