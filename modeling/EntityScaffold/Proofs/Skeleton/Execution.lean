import EntityScaffold.Proofs.Text.Outline
import EntityScaffold.Proofs.Text.PlainText
import EntityScaffold.RenderContext
import EntityScaffold.Skeleton.Packaged.Phrases
import EntityScaffold.Skeleton.Render

/-
Execution of skeletons to outlines. The data of a skeleton fill the holes of an outline; each piece
puts its own outline in front of that of the pieces behind it. A piece of a loop becomes a hole that
the passes fill. What an expression shows does not depend on names that it does not mention.
-/

namespace EntityScaffold

open Text (Outline)
open Text.Outline (fill spell)

namespace CodeText

theorem ofChars_append (first second : List Char) :
    ofChars (first ++ second) = ofChars first ++ ofChars second := by
  simp only [ofChars, List.map_append]

end CodeText

namespace Skeleton

variable {Hole : Type} {values : Hole → List Char}

def filled (values : Hole → List Char) (outline : Outline Hole) : CodeText :=
  CodeText.ofChars (fill values outline)

theorem filled_append (values : Hole → List Char) (first second : Outline Hole) :
    filled values (first ++ second) = filled values first ++ filled values second := by
  rw [filled, Text.Outline.fill_append, CodeText.ofChars_append]
  rfl

theorem filled_spell (values : Hole → List Char) (text : String) :
    filled values (spell text) = CodeText.ofString text := by
  rw [filled, spell, Text.Outline.fill_ofChars]
  rfl

/-! ### Names -/

namespace Scope

variable {scope : Scope}

@[simp] theorem get_assign_self (scope : Scope) (name : String) (datum : Datum) :
    (scope.assign name datum).get name = datum := by
  simp [get, assign]

theorem get_assign_of_ne {name other : String} (different : other ≠ name) (datum : Datum) :
    (scope.assign name datum).get other = scope.get other := by
  have passed : (other == name) = false := beq_eq_false_iff_ne.mpr different
  simp [get, assign, List.lookup_cons, passed]

end Scope

mutual

/-- The value of an expression does not depend on a name that it does not mention. -/
theorem Expr.eval_assign {scope : Scope} {name : String} {datum : Datum} :
    ∀ expr : Expr, expr.mentions name = false →
      expr.eval (scope.assign name datum) = expr.eval scope
  | .name other, absent => by
      have different : other ≠ name := of_decide_eq_false absent
      rw [Expr.eval, Expr.eval, Scope.get_assign_of_ne different]
  | .text _, _ => rfl
  | .constant _, _ => rfl
  | .isFirst, _ => rfl
  | .isLast, _ => rfl
  | .joined parts, absent => by rw [Expr.eval, Expr.eval, evalAll_assign parts absent]
  | .nameSpace parts, absent => by rw [Expr.eval, Expr.eval, evalAll_assign parts absent]
  | .filtered _ expr, absent => by rw [Expr.eval, Expr.eval, expr.eval_assign absent]
  | .equals expr _, absent => by rw [Expr.eval, Expr.eval, expr.eval_assign absent]
  | .contains expr _, absent => by rw [Expr.eval, Expr.eval, expr.eval_assign absent]
  | .oneOf expr _, absent => by rw [Expr.eval, Expr.eval, expr.eval_assign absent]
  | .negated expr, absent => by rw [Expr.eval, Expr.eval, expr.eval_assign absent]
  | .routeBase expr, absent => by rw [Expr.eval, Expr.eval, expr.eval_assign absent]
  | .joinedBy left right, absent => by
      obtain ⟨onLeft, onRight⟩ := Bool.or_eq_false_iff.mp absent
      rw [Expr.eval, Expr.eval, left.eval_assign onLeft, right.eval_assign onRight]
  | .either left right, absent => by
      obtain ⟨onLeft, onRight⟩ := Bool.or_eq_false_iff.mp absent
      rw [Expr.eval, Expr.eval, left.eval_assign onLeft, right.eval_assign onRight]
  | .both left right, absent => by
      obtain ⟨onLeft, onRight⟩ := Bool.or_eq_false_iff.mp absent
      rw [Expr.eval, Expr.eval, left.eval_assign onLeft, right.eval_assign onRight]
  | .routePath left right, absent => by
      obtain ⟨onLeft, onRight⟩ := Bool.or_eq_false_iff.mp absent
      rw [Expr.eval, Expr.eval, left.eval_assign onLeft, right.eval_assign onRight]
  | .routeName left right, absent => by
      obtain ⟨onLeft, onRight⟩ := Bool.or_eq_false_iff.mp absent
      rw [Expr.eval, Expr.eval, left.eval_assign onLeft, right.eval_assign onRight]

theorem evalAll_assign {scope : Scope} {name : String} {datum : Datum} :
    ∀ parts : List Expr, anyMentions name parts = false →
      evalAll (scope.assign name datum) parts = evalAll scope parts
  | [], _ => rfl
  | expr :: rest, absent => by
      obtain ⟨here, later⟩ := Bool.or_eq_false_iff.mp absent
      rw [evalAll, evalAll, expr.eval_assign here, evalAll_assign rest later]

end

/-! ### Expressions -/

def Shows (values : Hole → List Char) (scope : Scope) (expr : Expr) (outline : Outline Hole) : Prop :=
  expr.eval scope = .ok (.text (filled values outline))

def ShowAll (values : Hole → List Char) (scope : Scope) (exprs : List Expr)
    (outlines : List (Outline Hole)) : Prop :=
  evalAll scope exprs = .ok (outlines.map fun outline => .text (filled values outline))

variable {scope : Scope} {expr : Expr} {outline : Outline Hole}

theorem shows_text (values : Hole → List Char) (scope : Scope) (text : String) :
    Shows values scope (.text text) (spell text) := by
  rw [Shows, Expr.eval, filled_spell]
  rfl

theorem shows_name {name : String} {hole : Hole}
    (bound : scope.get name = .text (CodeText.ofChars (values hole))) :
    Shows values scope (.name name) [.hole hole] := by
  have whole : filled values [.hole hole] = CodeText.ofChars (values hole) := by
    rw [filled, fill, fill, List.append_nil]
  rw [Shows, Expr.eval, bound, whole]

theorem Shows.assign {name : String} (shows_ : Shows values scope expr outline)
    (absent : expr.mentions name = false) (datum : Datum) :
    Shows values (scope.assign name datum) expr outline := by
  rw [Shows, expr.eval_assign absent]
  exact shows_

theorem showAll_nil (values : Hole → List Char) (scope : Scope) :
    ShowAll values scope [] [] := rfl

theorem ShowAll.cons {rest : List Expr} {outlines : List (Outline Hole)}
    (first : Shows values scope expr outline) (others : ShowAll values scope rest outlines) :
    ShowAll values scope (expr :: rest) (outline :: outlines) := by
  rw [ShowAll, evalAll, first, others]
  rfl

theorem mapM_shown (texts : List CodeText) :
    (texts.map Datum.text).mapM Datum.shown = .ok texts := by
  induction texts with
  | nil => rfl
  | cons text rest ih => rw [List.map_cons, List.mapM_cons, ih]; rfl

theorem filled_flatten (values : Hole → List Char) (outlines : List (Outline Hole)) :
    (outlines.map (filled values)).flatten = filled values outlines.flatten := by
  induction outlines with
  | nil => rfl
  | cons outline rest ih => rw [List.map_cons, List.flatten_cons, List.flatten_cons, ih, filled_append]

theorem ShowAll.joined {parts : List Expr} {outlines : List (Outline Hole)}
    (each : ShowAll values scope parts outlines) :
    Shows values scope (.joined parts) outlines.flatten := by
  have texts : outlines.map (fun outline => Datum.text (filled values outline)) =
      (outlines.map (filled values)).map Datum.text := by
    rw [List.map_map]
    rfl
  rw [Shows, Expr.eval, each, texts]
  change ((outlines.map (filled values)).map Datum.text).mapM Datum.shown >>= _ = _
  rw [mapM_shown]
  exact congrArg (fun text => Except.ok (Datum.text text)) (filled_flatten values outlines)

/-- A filter that puts text around what an expression shows. -/
theorem Shows.between {filter : Filter} {opening closing : String}
    (shown : Shows values scope expr outline)
    (around : ∀ datum, filter.apply datum = Skeleton.between opening closing datum) :
    Shows values scope (.filtered filter expr) (spell opening ++ outline ++ spell closing) := by
  rw [Shows, Expr.eval, shown]
  change filter.apply _ = _
  rw [around, filled_append, filled_append, filled_spell, filled_spell]
  rfl

theorem Shows.printed (shown : Shows values scope expr outline) :
    Shows values scope (Packaged.printed expr)
      (spell "\x7b\x7b " ++ outline ++ spell " \x7d\x7d") :=
  shown.between fun _ => rfl

theorem shows_tag (values : Hole → List Char) (scope : Scope) (statement : String) :
    Shows values scope (Packaged.tag statement)
      (spell "\x7b% " ++ spell statement ++ spell " %\x7d") :=
  (shows_text values scope statement).between fun _ => rfl

/-! ### Pieces -/

variable {included : CodeText → Scope → Except RenderFault CodeText} {rest : List Piece}

def behind (front : CodeText) (result : Except RenderFault (CodeText × Scope)) :
    Except RenderFault (CodeText × Scope) :=
  result.map fun rendered => (front ++ rendered.1, rendered.2)

theorem renderPieces_cons (scope : Scope) (piece : Piece) (rest : List Piece) :
    renderPieces included scope (piece :: rest) =
      (renderPiece included scope piece).bind fun front =>
        behind front.1 (renderPieces included front.2 rest) := by
  rw [renderPieces]
  cases renderPiece included scope piece with
  | error fault => rfl
  | ok front =>
      obtain ⟨text, next⟩ := front
      change (renderPieces included next rest >>= fun tail => _) =
        behind text (renderPieces included next rest)
      cases renderPieces included next rest <;> rfl

theorem renderPieces_append (first second : List Piece) :
    renderPieces included scope (first ++ second) =
      (renderPieces included scope first).bind fun front =>
        behind front.1 (renderPieces included front.2 second) := by
  induction first generalizing scope with
  | nil =>
      change renderPieces included scope second = behind [] (renderPieces included scope second)
      cases renderPieces included scope second <;> rfl
  | cons piece others ih =>
      rw [List.cons_append, renderPieces_cons, renderPieces_cons]
      cases renderPiece included scope piece with
      | error fault => rfl
      | ok front =>
          change behind front.1 (renderPieces included front.2 (others ++ second)) =
            (behind front.1 (renderPieces included front.2 others)).bind _
          rw [ih]
          cases renderPieces included front.2 others with
          | error fault => rfl
          | ok middle =>
              change behind front.1 (behind middle.1 (renderPieces included middle.2 second)) =
                behind (front.1 ++ middle.1) (renderPieces included middle.2 second)
              cases renderPieces included middle.2 second with
              | error fault => rfl
              | ok last =>
                  exact congrArg (fun text => Except.ok (text, last.2))
                    (List.append_assoc front.1 middle.1 last.1).symm

def prepend (values : Hole → List Char) (outline : Outline Hole)
    (result : Except RenderFault (CodeText × Scope)) : Except RenderFault (CodeText × Scope) :=
  behind (filled values outline) result

theorem prepend_ok (values : Hole → List Char) (outline behind : Outline Hole) (scope : Scope) :
    prepend values outline (.ok (filled values behind, scope)) =
      .ok (filled values (outline ++ behind), scope) := by
  rw [filled_append]
  rfl

theorem renderPieces_of_piece {piece : Piece} {next : Scope}
    (rendered : renderPiece included scope piece = .ok (filled values outline, next)) :
    renderPieces included scope (piece :: rest) =
      prepend values outline (renderPieces included next rest) := by
  rw [renderPieces_cons, rendered]
  rfl

theorem renderPieces_nil (values : Hole → List Char) (scope : Scope) :
    renderPieces included scope [] = .ok (filled values [], scope) := rfl

theorem renderPieces_text (values : Hole → List Char) (scope : Scope) (text : String)
    (rest : List Piece) :
    renderPieces included scope (.text text :: rest) =
      prepend values (spell text) (renderPieces included scope rest) := by
  refine renderPieces_of_piece ?_
  rw [renderPiece, filled_spell]

theorem toList_join_lines (texts : List String) :
    (String.join (texts.map (· ++ "\n"))).toList = texts.flatMap fun text => text.toList ++ ['\n'] := by
  induction texts with
  | nil => rfl
  | cons text others ih =>
      have joined : String.join ((text :: others).map (· ++ "\n")) =
          (text ++ "\n") ++ String.join (others.map (· ++ "\n")) := by
        simp only [List.map_cons, String.join_cons]
      rw [joined, String.toList_append, ih, List.flatMap_cons, String.toList_append]
      rfl

theorem renderPieces_lines (values : Hole → List Char) (scope : Scope) (texts : List String)
    (rest : List Piece) :
    renderPieces included scope (Packaged.lines texts :: rest) =
      prepend values (texts.flatMap fun text => spell text ++ [.char '\n'])
        (renderPieces included scope rest) := by
  refine renderPieces_of_piece ?_
  have chars : fill values (texts.flatMap fun text => spell text ++ [.char '\n']) =
      texts.flatMap fun text => text.toList ++ ['\n'] := by
    induction texts with
    | nil => rfl
    | cons text others ih =>
        rw [List.flatMap_cons, List.flatMap_cons, Text.Outline.fill_append, ih,
          Text.Outline.fill_append, spell, Text.Outline.fill_ofChars]
        rfl
  rw [Packaged.lines, renderPiece, filled, chars, CodeText.ofString, toList_join_lines]

theorem renderPieces_emit (shown : Shows values scope expr outline) :
    renderPieces included scope (.emit expr :: rest) =
      prepend values outline (renderPieces included scope rest) := by
  refine renderPieces_of_piece ?_
  rw [renderPiece, shown]
  rfl

theorem renderPieces_assign {datum : Datum} (value : expr.eval scope = .ok datum) (name : String)
    (rest : List Piece) :
    renderPieces included scope (.assign name expr :: rest) =
      renderPieces included (scope.assign name datum) rest := by
  rw [renderPieces_cons, renderPiece, value]
  change behind [] (renderPieces included (scope.assign name datum) rest) = _
  cases renderPieces included (scope.assign name datum) rest <;> rfl

theorem renderPiece_include {name text : CodeText} (value : expr.eval scope = .ok (.text name))
    (given : included name scope = .ok text) :
    renderPiece included scope (.include expr) = .ok (text, scope) := by
  rw [renderPiece, value]
  change (included name scope >>= fun text => Except.ok (text, scope)) = _
  rw [given]
  rfl

theorem renderPieces_assign_text (scope : Scope) (name text : String) (rest : List Piece) :
    renderPieces included scope (.assign name (.text text) :: rest) =
      renderPieces included (scope.assign name (.string text)) rest :=
  renderPieces_assign rfl name rest

/-- A branch goes on with the pieces that its condition asks for. -/
theorem renderPieces_branch_of_counts {datum : Datum} {holds : Bool}
    (condition : expr.eval scope = .ok datum) (counts : datum.counts = .ok holds)
    (yes no rest : List Piece) :
    renderPieces included scope (.branch expr yes no :: rest) =
      renderPieces included scope ((bif holds then yes else no) ++ rest) := by
  have chosen : renderPiece included scope (.branch expr yes no) =
      renderPieces included scope (bif holds then yes else no) := by
    rw [renderPiece, condition]
    change (datum.counts >>= fun holds => _) = _
    rw [counts]
    cases holds <;> rfl
  rw [renderPieces_append, renderPieces_cons, chosen]

theorem renderPieces_branch {holds : Bool} (condition : expr.eval scope = .ok (.flag holds))
    (yes no rest : List Piece) :
    renderPieces included scope (.branch expr yes no :: rest) =
      renderPieces included scope ((bif holds then yes else no) ++ rest) :=
  renderPieces_branch_of_counts condition rfl yes no rest

/-- A piece whose text fills a hole, and which leaves the scope as it is. -/
def Fills (values : Hole → List Char)
    (included : CodeText → Scope → Except RenderFault CodeText) (scope : Scope) (piece : Piece)
    (hole : Hole) : Prop :=
  renderPiece included scope piece = .ok (CodeText.ofChars (values hole), scope)

theorem renderPieces_fills {piece : Piece} {hole : Hole}
    (fills : Fills values included scope piece hole) (rest : List Piece) :
    renderPieces included scope (piece :: rest) =
      prepend values [.hole hole] (renderPieces included scope rest) := by
  refine renderPieces_of_piece ?_
  rw [fills, filled, fill, fill, List.append_nil]

/-! ### Loops -/

/-- The scope of a pass: the place of the pass and its item are bound, and its ends are marked. -/
def passScope (bind : Scope → Datum → Scope) (scope : Scope) (place item : Datum)
    (first last : Bool) : Scope :=
  { bind (scope.assign loopName place) item with isFirst := first, isLast := last }

def repeated : Piece → List Piece
  | .each _ _ body _ => body
  | .eachEntry _ _ _ body => body
  | _ => []

@[simp] theorem repeated_lines (texts : List String) : repeated (Packaged.lines texts) = [] := rfl

@[simp] theorem repeated_each (item : String) (collection : Expr) (body : List Piece) :
    repeated (Packaged.each item collection body) = body := rfl

@[simp] theorem repeated_eachEntry (key value : String) (table : Expr) (body : List Piece) :
    repeated (.eachEntry key value table body) = body := rfl

def loopBody (skeleton : Skeleton) : List Piece := skeleton.flatMap repeated

def itemScope (item : String) (scope : Scope) (place datum : Datum) (first last : Bool) : Scope :=
  passScope (fun told datum => told.assign item datum) scope place datum first last

theorem itemScope_get_self {item : String} (scope : Scope) (place datum : Datum)
    (first last : Bool) : (itemScope item scope place datum first last).get item = datum :=
  Scope.get_assign_self (scope.assign loopName place) item datum

/-- The scope of a pass over a table binds the name and the text of its entry. -/
def entryScope (key value : String) (scope : Scope) (place : Datum) (entry : String × CodeText)
    (first last : Bool) : Scope :=
  passScope (bindEntry key value) scope place (.list [.string entry.1, .text entry.2]) first last

theorem passes_cons {bind : Scope → Datum → Scope} {body : Scope → Except RenderFault CodeText}
    {total index : Nat} {item : Datum} {rest : List Datum} {here later : CodeText}
    (rendered : body (passScope bind scope (standing index total) item (index = 0) rest.isEmpty) =
      .ok here) (others : passes bind body scope total (index + 1) rest = .ok later) :
    passes bind body scope total index (item :: rest) = .ok (here ++ later) := by
  rw [passes]
  change (body (passScope bind scope (standing index total) item (index = 0) rest.isEmpty) >>=
    fun text => _) = _
  rw [rendered, others]
  rfl

/-- A loop whose passes depend on nothing but their item, and on whether they are the first, gives
their texts one after another. -/
theorem passes_eq {Item : Type} {bind : Scope → Datum → Scope}
    {body : Scope → Except RenderFault CodeText} {total : Nat} {datum : Item → Datum}
    {text : Bool → Item → List Char} {items : List Item}
    (each : ∀ item ∈ items, ∀ place first last,
      body (passScope bind scope place (datum item) first last) =
        .ok (CodeText.ofChars (text first item))) (index : Nat) :
    passes bind body scope total index (items.map datum) = .ok (CodeText.ofChars
      ((items.zipIdx index).flatMap fun entry => text (entry.2 = 0) entry.1)) := by
  induction items generalizing index with
  | nil => rfl
  | cons item rest ih =>
      obtain ⟨here, later⟩ := List.forall_mem_cons.mp each
      rw [List.map_cons, List.zipIdx_cons, List.flatMap_cons, CodeText.ofChars_append]
      exact passes_cons (here _ _ _) (ih later (index + 1))

/-- What each pass says is said by the loop, one pass after another. -/
theorem exists_passes {Item Part : Type} {pattern : Part → Text.Pattern}
    {bind : Scope → Datum → Scope} {body : Scope → Except RenderFault CodeText} {total : Nat}
    {datum : Item → Datum} {found : Bool → Item → Part → List (List (List Char))}
    {items : List Item}
    (each : ∀ item ∈ items, ∀ place first last, ∃ text,
      body (passScope bind scope place (datum item) first last) = .ok (CodeText.ofChars text) ∧
        ∀ part, (pattern part).Reads text (found first item part)) (index : Nat) :
    ∃ text, passes bind body scope total index (items.map datum) = .ok (CodeText.ofChars text) ∧
      ∀ part, (pattern part).Reads text
        ((items.zipIdx index).flatMap fun entry => found (entry.2 = 0) entry.1 part) := by
  induction items generalizing index with
  | nil => exact ⟨[], rfl, fun part => Text.Pattern.Reads.nil (pattern part)⟩
  | cons item rest ih =>
      obtain ⟨here, rendered, reads⟩ :=
        each item List.mem_cons_self (standing index total) (index = 0) (rest.map datum).isEmpty
      obtain ⟨later, passed, others⟩ :=
        ih (fun other member => each other (List.mem_cons_of_mem item member)) (index + 1)
      refine ⟨here ++ later, ?_, fun part => ?_⟩
      · rw [List.map_cons, CodeText.ofChars_append]
        exact passes_cons rendered passed
      · rw [List.zipIdx_cons, List.flatMap_cons]
        exact (reads part).append (others part)

/-- When no pass depends on its place, the loop says what the items say. -/
theorem flatMap_zipIdx_fst {Item : Type} {Said : Type} (said : Item → List Said) (items : List Item)
    (index : Nat) :
    ((items.zipIdx index).flatMap fun entry => said entry.1) = items.flatMap said := by
  induction items generalizing index with
  | nil => rfl
  | cons item rest ih => rw [List.zipIdx_cons, List.flatMap_cons, List.flatMap_cons, ih]

/-- When only the first pass says something, the loop says what the first item says. -/
theorem flatMap_zipIdx_first {Item : Type} {Said : Type} (said : Item → List Said)
    (items : List Item) :
    ((items.zipIdx 0).flatMap fun entry => if entry.2 = 0 then said entry.1 else []) =
      (items.take 1).flatMap said := by
  cases items with
  | nil => rfl
  | cons item rest =>
      have later : ((rest.zipIdx 1).flatMap fun entry => if entry.2 = 0 then said entry.1 else []) =
          [] := by
        refine List.flatMap_eq_nil_iff.mpr fun entry member => ?_
        have behind := (List.mem_zipIdx member).1
        rw [if_neg (by omega)]
      rw [List.zipIdx_cons, List.flatMap_cons, later, List.append_nil, List.take_succ_cons,
        List.take_zero, List.flatMap_singleton]
      rfl

theorem renderPiece_each {item : String} {collection : Expr} {body : List Piece} {datum : Datum}
    {items : List Datum} (value : collection.eval scope = .ok datum)
    (listed : datum.items = .ok items) :
    renderPiece included scope (Packaged.each item collection body) =
      (passes (fun told datum => told.assign item datum)
        (fun inner => (renderPieces included inner body).map Prod.fst) scope items.length 0
        items).map fun text => (text, scope) := by
  rw [Packaged.each, renderPiece, value]
  change (datum.items >>= fun items => _) = _
  rw [listed]
  cases items with
  | nil => rfl
  | cons first rest =>
      change (passes _ _ scope _ 0 (first :: rest) >>= fun text => _) = _
      cases passes (fun told datum => told.assign item datum)
        (fun inner => (renderPieces included inner body).map Prod.fst) scope (first :: rest).length 0
        (first :: rest) <;> rfl

theorem renderPiece_eachEntry {key value : String} {table : Expr} {body : List Piece}
    {entries : List (String × CodeText)} (evaluated : table.eval scope = .ok (Datum.ofTexts entries)) :
    renderPiece included scope (.eachEntry key value table body) =
      (passes (bindEntry key value)
        (fun inner => (renderPieces included inner body).map Prod.fst) scope entries.length 0
        (entries.map fun entry => .list [.string entry.1, .text entry.2])).map
          fun text => (text, scope) := by
  have listed : tableEntries (Datum.ofTexts entries) =
      .ok (entries.map fun entry => .list [.string entry.1, .text entry.2]) := by
    rw [Datum.ofTexts, tableEntries, List.map_map]
    rfl
  rw [renderPiece, evaluated]
  change (tableEntries (Datum.ofTexts entries) >>= fun entries => _) = _
  rw [listed]
  change (passes _ _ scope _ 0 _ >>= fun text => _) = _
  rw [List.length_map]
  cases passes (bindEntry key value) (fun inner => (renderPieces included inner body).map Prod.fst)
    scope entries.length 0 (entries.map fun entry => .list [.string entry.1, .text entry.2]) <;>
      rfl

end Skeleton

end EntityScaffold
