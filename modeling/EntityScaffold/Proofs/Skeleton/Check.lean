import EntityScaffold.Proofs.Route.Spelling
import EntityScaffold.Proofs.Skeleton.Kinds

/-
The check of skeletons. An expression has a kind when its names have the kinds that it asks for; a
piece is accepted with the kinds that names have behind it. Soundness goes along the evaluation: an
expression of a kind has a value of that kind, and an accepted piece is rendered to plain text.
-/

namespace EntityScaffold.Skeleton

/-! ### The check -/

/-- Is text again what comes out when text goes in? -/
def Filter.keepsText : Filter → Bool
  | .replace _ _ | .lower | .humanize | .twigVariable | .twigTag => true
  | .join _ | .unknown _ => false

mutual

/-- The kind of an expression, if its names have the kinds that it asks for. -/
def Expr.kind? (kinds : Kinds) : Expr → Option Kind
  | .name name => kinds.lookup name
  | .text value => some (if (Action.ofText? value).isSome then .action else .text)
  | .joined parts | .nameSpace parts => if areTexts kinds parts then some .text else none
  | .filtered filter expr =>
    if filter.keepsText && (expr.kind? kinds).any Kind.isText then some .text else none
  | .equals expr _ | .oneOf expr _ =>
    if (expr.kind? kinds).any Kind.isWord then some .flag else none
  | .contains collection _ =>
    if collection.kind? kinds = some .actions then some .flag else none
  | .either left right | .both left right =>
    if left.kind? kinds = some .flag ∧ right.kind? kinds = some .flag then some .flag else none
  | .negated expr => if (expr.kind? kinds).any (· ≠ .any) then some .flag else none
  | .isFirst | .isLast => some .flag
  | .routeBase start => if (start.kind? kinds).any Kind.isText then some .text else none
  | .routePath start action =>
    if (start.kind? kinds).any Kind.isText && (action.kind? kinds) = some .action then some .text
    else none
  | .routeName start action =>
    if (start.kind? kinds).any Kind.isText && (action.kind? kinds).any Kind.isText then some .text
    else none
  | .constant _ | .joinedBy _ _ => none

def areTexts (kinds : Kinds) : List Expr → Bool
  | [] => true
  | expr :: rest => (expr.kind? kinds).any Kind.isText && areTexts kinds rest

end

/-- The names of the skeletons that an expression may mean: a fixed text and an action. -/
def Expr.includes? (kinds : Kinds) : Expr → Option (List String)
  | .joined [.text front, .name variableName] =>
    if kinds.lookup variableName = some .action then
      some (Action.all.map fun action => front ++ action.text)
    else none
  | _ => none

def loopKinds (names : Kinds) (kinds : Kinds) : Kinds := names ++ (loopName, .any) :: kinds

mutual

/-- The kinds of names behind a piece, if it can be rendered; `included` checks a skeleton by its
name. -/
def Piece.kinds? (included : String → Kinds → Bool) (kinds : Kinds) : Piece → Option Kinds
  | .text _ => some kinds
  | .emit expr => if (expr.kind? kinds).any Kind.isText then some kinds else none
  | .assign name expr => (expr.kind? kinds).map fun kind => (name, kind) :: kinds
  | .branch condition yes no =>
    match kinds? included kinds yes, kinds? included kinds no with
    | some first, some second =>
      if (condition.kind? kinds).any (· ≠ .any) && first = second then some first else none
    | _, _ => none
  | .each item collection body otherwise =>
    match (collection.kind? kinds).bind Kind.item? with
    | some kind =>
      if (kinds? included (loopKinds [(item, kind)] kinds) body).isSome &&
          (kinds? included kinds otherwise).isSome then some kinds
      else none
    | none => none
  | .eachEntry key value table body =>
    if table.kind? kinds = some .table &&
        (kinds? included (loopKinds [(value, .word), (key, .text)] kinds) body).isSome then
      some kinds
    else none
  | .include name =>
    match name.includes? kinds with
    | some names => if names.all (included · kinds) then some kinds else none
    | none => none

def kinds? (included : String → Kinds → Bool) (kinds : Kinds) : List Piece → Option Kinds
  | [] => some kinds
  | piece :: rest => (piece.kinds? included kinds).bind fun next => kinds? included next rest

end

/-! ### Scopes -/

/-- The names of a scope stand for data of the given kinds. -/
def Scope.Matches (scope : Scope) (kinds : Kinds) : Prop :=
  ∀ name kind, kinds.lookup name = some kind → (scope.get name).HasKind kind

theorem Scope.Matches.assign {scope : Scope} {kinds : Kinds} (matching : scope.Matches kinds)
    {datum : Datum} {kind : Kind} (has : datum.HasKind kind) (name : String) :
    (scope.assign name datum).Matches ((name, kind) :: kinds) := by
  intro other otherKind found
  rw [List.lookup_cons] at found
  unfold Scope.get Scope.assign
  rw [List.lookup_cons]
  cases same : other == name with
  | true =>
      rw [same] at found
      cases found
      exact has
  | false =>
      rw [same] at found
      exact matching other otherKind found

/-! ### Expressions -/

theorem isPlain_replacePoint (old new : Char) {text : CodeText} (plain : text.IsPlain) :
    CodeText.IsPlain (replacePoint old new text) := by
  intro point member
  obtain ⟨former, listed, same⟩ := List.mem_map.mp member
  rw [← same]
  split
  · exact CodePoint.isSurrogate_ofChar new
  · exact plain former listed

theorem Filter.apply_yields {filter : Filter} (keeps : filter.keepsText = true) {datum : Datum}
    {kind : Kind} (has : datum.HasKind kind) (isText : kind.isText = true) :
    Yields (filter.apply datum) fun result => result.HasKind .text := by
  obtain ⟨value, same, plain⟩ := has.isText isText
  subst same
  cases filter with
  | replace old new => exact ⟨_, rfl, _, rfl, isPlain_replacePoint old new plain⟩
  | lower => exact ⟨_, rfl, _, rfl, CodeText.isPlain_mapRuns Text.lower plain⟩
  | humanize => exact ⟨_, rfl, _, rfl, CodeText.isPlain_mapWhole Text.humanize plain⟩
  | twigVariable | twigTag =>
      refine ⟨_, rfl, _, rfl, ?_⟩
      exact ((CodeText.isPlain_ofString _).append plain).append (CodeText.isPlain_ofString _)
  | join separator | unknown name => cases keeps

theorem strippable_yields {datum : Datum} (has : datum.HasKind .text) :
    Yields (strippable datum) CodeText.IsPlain := by
  obtain ⟨value, same, plain⟩ := has
  subst same
  exact ⟨value, rfl, plain⟩

theorem routeTail_yields {datum : Datum} (has : datum.HasKind .action) :
    Yields (routeTail datum) CodeText.IsPlain := by
  obtain ⟨action, same⟩ := has
  subst same
  have tail : ∃ tail, Route.tail? action.text = some tail := by
    cases action <;> exact ⟨_, rfl⟩
  obtain ⟨tail, hTail⟩ := tail
  refine ⟨CodeText.ofString tail, ?_, CodeText.isPlain_ofString tail⟩
  simp only [routeTail, Datum.string, CodeText.toStringReplacing_ofString, hTail]

theorem shownAll_yields {data : List Datum} (texts : ∀ datum ∈ data, datum.HasKind .text) :
    Yields (data.mapM Datum.shown) fun shown => ∀ text ∈ shown, CodeText.IsPlain text := by
  induction data with
  | nil => exact ⟨[], rfl, fun text member => by cases member⟩
  | cons datum rest ih =>
      obtain ⟨first, others⟩ := List.forall_mem_cons.mp texts
      rw [List.mapM_cons]
      refine Yields.bind (first.shown rfl) fun value plain => ?_
      refine Yields.bind (ih others) fun values plainRest => ?_
      exact Yields.of_ok (List.forall_mem_cons.mpr ⟨plain, plainRest⟩)

theorem countingTexts_yields {data : List Datum} (texts : ∀ datum ∈ data, datum.HasKind .text) :
    Yields (countingTexts data) fun shown => ∀ text ∈ shown, CodeText.IsPlain text := by
  induction data with
  | nil => exact ⟨[], rfl, fun text member => by cases member⟩
  | cons datum rest ih =>
      obtain ⟨first, others⟩ := List.forall_mem_cons.mp texts
      refine Yields.bind (first.counts (by decide)) fun counts _ => ?_
      cases counts with
      | false => exact ih others
      | true =>
          refine Yields.bind (first.shown rfl) fun value plain => ?_
          refine Yields.bind (ih others) fun values plainRest => ?_
          exact Yields.of_ok (List.forall_mem_cons.mpr ⟨plain, plainRest⟩)

theorem eq_of_if_some {α : Type} {condition : Prop} [Decidable condition] {given found : α}
    (checked : (if condition then some given else none) = some found) :
    condition ∧ given = found := by
  split at checked
  · next holds => exact ⟨holds, Option.some.inj checked⟩
  · cases checked

theorem hasKind_text_of_any {found : Option Kind} {computation : Except RenderFault Datum}
    (isText : found.any Kind.isText = true)
    (sound : ∀ kind, found = some kind → Yields computation fun datum => datum.HasKind kind) :
    Yields computation fun datum => datum.HasKind .text := by
  obtain ⟨kind, isFound, textKind⟩ := (Option.any_eq_true _ _).mp isText
  exact (sound kind isFound).mono fun datum has => has.isText textKind

theorem hasKind_word_of_any {found : Option Kind} {computation : Except RenderFault Datum}
    (isWord : found.any Kind.isWord = true)
    (sound : ∀ kind, found = some kind → Yields computation fun datum => datum.HasKind kind) :
    Yields computation fun datum => datum.HasKind .word := by
  obtain ⟨kind, isFound, wordKind⟩ := (Option.any_eq_true _ _).mp isWord
  exact (sound kind isFound).mono fun datum has => has.isWord wordKind

mutual

theorem Expr.eval_yields {scope : Scope} {kinds : Kinds} (matching : scope.Matches kinds) :
    ∀ (expr : Expr) (kind : Kind), expr.kind? kinds = some kind →
      Yields (expr.eval scope) fun datum => datum.HasKind kind
  | .name name, kind, checked => ⟨_, rfl, matching name kind checked⟩
  | .text value, kind, checked => by
      cases checked
      refine ⟨_, rfl, ?_⟩
      split
      · next isAction =>
        obtain ⟨action, found⟩ := Option.isSome_iff_exists.mp isAction
        have word : (action.text == value) = true :=
          List.find?_some (p := fun other : Action => other.text == value) found
        exact ⟨action, congrArg Datum.string (beq_iff_eq.mp word).symm⟩
      · exact Datum.hasKind_string value
  | .constant _, kind, checked => by cases checked
  | .joined parts, kind, checked => by
      obtain ⟨texts, same⟩ := eq_of_if_some checked
      subst same
      refine Yields.bind (evalAll_yields matching parts texts) fun data each => ?_
      refine Yields.bind (shownAll_yields each) fun shown plain => ?_
      exact Yields.of_ok ⟨_, rfl, CodeText.isPlain_flatten plain⟩
  | .filtered filter expr, kind, checked => by
      obtain ⟨both, same⟩ := eq_of_if_some checked
      subst same
      obtain ⟨keeps, isText⟩ := Bool.and_eq_true_iff.mp both
      refine Yields.bind (hasKind_text_of_any isText (expr.eval_yields matching)) fun datum has => ?_
      exact Filter.apply_yields keeps has rfl
  | .joinedBy _ _, kind, checked => by cases checked
  | .equals expr wanted, kind, checked => by
      obtain ⟨isWord, same⟩ := eq_of_if_some checked
      subst same
      refine Yields.bind (hasKind_word_of_any isWord (expr.eval_yields matching)) fun datum has => ?_
      refine Yields.bind (has.isText_yields wanted) fun flag _ => ?_
      exact Yields.of_ok ⟨flag, rfl⟩
  | .contains collection wanted, kind, checked => by
      obtain ⟨isActions, same⟩ := eq_of_if_some checked
      subst same
      refine Yields.bind (collection.eval_yields matching _ isActions) fun datum has => ?_
      refine Yields.bind (has.containsText wanted) fun flag _ => ?_
      exact Yields.of_ok ⟨flag, rfl⟩
  | .oneOf expr texts, kind, checked => by
      obtain ⟨isWord, same⟩ := eq_of_if_some checked
      subst same
      refine Yields.bind (hasKind_word_of_any isWord (expr.eval_yields matching)) fun datum has => ?_
      refine Yields.bind (has.anyText_yields texts) fun flag _ => ?_
      exact Yields.of_ok ⟨flag, rfl⟩
  | .either left right, kind, checked => by
      -- the right side is evaluated only where the left one does not decide
      obtain ⟨⟨isFlag, alsoFlag⟩, same⟩ := eq_of_if_some checked
      subst same
      refine Yields.bind (left.eval_yields matching _ isFlag) fun datum has => ?_
      refine Yields.bind (has.counts (by decide)) fun counts _ => ?_
      cases counts with
      | true => exact Yields.of_ok has
      | false => exact right.eval_yields matching _ alsoFlag
  | .both left right, kind, checked => by
      obtain ⟨⟨isFlag, alsoFlag⟩, same⟩ := eq_of_if_some checked
      subst same
      refine Yields.bind (left.eval_yields matching _ isFlag) fun datum has => ?_
      refine Yields.bind (has.counts (by decide)) fun counts _ => ?_
      cases counts with
      | true => exact right.eval_yields matching _ alsoFlag
      | false => exact Yields.of_ok has
  | .negated expr, kind, checked => by
      obtain ⟨known, same⟩ := eq_of_if_some checked
      subst same
      obtain ⟨found, isFound, isKnown⟩ := (Option.any_eq_true _ _).mp known
      refine Yields.bind (expr.eval_yields matching found isFound) fun datum has => ?_
      refine Yields.bind (has.counts (of_decide_eq_true isKnown)) fun counts _ => ?_
      exact Yields.of_ok ⟨_, rfl⟩
  | .isFirst, kind, checked => by
      cases checked
      exact ⟨_, rfl, _, rfl⟩
  | .isLast, kind, checked => by
      cases checked
      exact ⟨_, rfl, _, rfl⟩
  | .routeBase start, kind, checked => by
      obtain ⟨isText, same⟩ := eq_of_if_some checked
      subst same
      refine Yields.bind (hasKind_text_of_any isText (start.eval_yields matching)) fun datum has => ?_
      refine Yields.bind (strippable_yields has) fun written plain => ?_
      exact Yields.of_ok ⟨_, rfl, Route.isPlain_baseText plain⟩
  | .routePath start action, kind, checked => by
      obtain ⟨both, same⟩ := eq_of_if_some checked
      subst same
      obtain ⟨isText, isAction⟩ := Bool.and_eq_true_iff.mp both
      refine Yields.bind (hasKind_text_of_any isText (start.eval_yields matching)) fun datum has => ?_
      refine Yields.bind (strippable_yields has) fun written plain => ?_
      refine Yields.bind (action.eval_yields matching _ (of_decide_eq_true isAction)) fun word named => ?_
      refine Yields.bind (routeTail_yields named) fun tail plainTail => ?_
      exact Yields.of_ok ⟨_, rfl, (Route.isPlain_baseText plain).append plainTail⟩
  | .routeName start action, kind, checked => by
      obtain ⟨both, same⟩ := eq_of_if_some checked
      subst same
      obtain ⟨isText, alsoText⟩ := Bool.and_eq_true_iff.mp both
      refine Yields.bind (hasKind_text_of_any isText (start.eval_yields matching)) fun datum has => ?_
      refine Yields.bind (has.shown rfl) fun written plain => ?_
      refine Yields.bind (hasKind_text_of_any alsoText (action.eval_yields matching)) fun word named => ?_
      refine Yields.bind (named.shown rfl) fun spoken alsoPlain => ?_
      exact Yields.of_ok ⟨_, rfl, Route.isPlain_nameText plain alsoPlain⟩
  | .nameSpace parts, kind, checked => by
      obtain ⟨texts, same⟩ := eq_of_if_some checked
      subst same
      refine Yields.bind (evalAll_yields matching parts texts) fun data each => ?_
      refine Yields.bind (countingTexts_yields each) fun shown plain => ?_
      refine Yields.of_ok ⟨_, rfl, isPlain_replacePoint _ _ ?_⟩
      exact CodeText.isPlain_joinWith (CodeText.isPlain_ofString ".") plain

theorem evalAll_yields {scope : Scope} {kinds : Kinds} (matching : scope.Matches kinds) :
    ∀ parts : List Expr, areTexts kinds parts = true →
      Yields (evalAll scope parts) fun data => ∀ datum ∈ data, datum.HasKind .text
  | [], _ => ⟨[], rfl, fun datum member => by cases member⟩
  | expr :: rest, checked => by
      obtain ⟨isText, others⟩ := Bool.and_eq_true_iff.mp checked
      refine Yields.bind (hasKind_text_of_any isText (expr.eval_yields matching)) fun datum has => ?_
      refine Yields.bind (evalAll_yields matching rest others) fun data each => ?_
      exact Yields.of_ok (List.forall_mem_cons.mpr ⟨has, each⟩)

end

/-! ### Pieces -/

/-- A check of skeletons by their names is right about what is rendered under those names. -/
def IsSoundFor (included : String → Kinds → Bool)
    (rendered : CodeText → Scope → Except RenderFault CodeText) : Prop :=
  ∀ name kinds scope, included name kinds = true → scope.Matches kinds →
    Yields (rendered (CodeText.ofString name) scope) CodeText.IsPlain

theorem Expr.includes_yields {scope : Scope} {kinds : Kinds} (matching : scope.Matches kinds)
    {expr : Expr} {names : List String} (means : expr.includes? kinds = some names) :
    Yields (expr.eval scope) fun datum => ∃ name ∈ names, datum = .string name := by
  unfold Expr.includes? at means
  split at means
  · next front variableName =>
    split at means
    · next isAction =>
      cases means
      obtain ⟨action, same⟩ := matching variableName .action isAction
      have listed : action ∈ Action.all := by cases action <;> decide
      refine ⟨.string (front ++ action.text), ?_, _, List.mem_map_of_mem listed, rfl⟩
      have texts : (evalAll scope [.text front, .name variableName] >>= fun data =>
          data.mapM Datum.shown) =
            .ok [CodeText.ofString front, CodeText.ofString action.text] := by
        change (Except.ok [Datum.string front, scope.get variableName] >>= fun data =>
          data.mapM Datum.shown) = _
        rw [same]
        rfl
      have flat : [CodeText.ofString front, CodeText.ofString action.text].flatten =
          CodeText.ofString (front ++ action.text) := by
        rw [CodeText.ofString_append, List.flatten_cons, List.flatten_cons, List.flatten_nil,
          List.append_nil]
      rw [Expr.eval, ← bind_assoc, texts]
      exact congrArg (fun text => Except.ok (Datum.text text)) flat
    · cases means
  · cases means

theorem passes_yields {bind : Scope → Datum → Scope} {body : Scope → Except RenderFault CodeText}
    {scope : Scope} {items : List Datum} (total index : Nat)
    (each : ∀ mark first last, ∀ item ∈ items,
      Yields (body { bind (scope.assign loopName mark) item with isFirst := first, isLast := last })
        CodeText.IsPlain) :
    Yields (passes bind body scope total index items) CodeText.IsPlain := by
  induction items generalizing index with
  | nil => exact ⟨[], rfl, CodeText.isPlain_ofString ""⟩
  | cons item rest ih =>
      refine Yields.bind (each _ _ _ item List.mem_cons_self) fun text plain => ?_
      have others := ih (index + 1) fun mark first last other member =>
        each mark first last other (List.mem_cons_of_mem item member)
      refine Yields.bind others fun tail plainTail => ?_
      exact Yields.of_ok (plain.append plainTail)

theorem tableEntries_yields {datum : Datum} (has : datum.HasKind .table) :
    Yields (tableEntries datum) fun entries => ∀ entry ∈ entries, ∃ first second,
      entry = .list [first, second] ∧ first.HasKind .text ∧ second.HasKind .word := by
  obtain ⟨entries, same⟩ := has
  subst same
  refine ⟨_, rfl, fun entry member => ?_⟩
  rw [List.map_map] at member
  obtain ⟨pair, _, isEntry⟩ := List.mem_map.mp member
  exact ⟨_, _, isEntry.symm, Datum.hasKind_string pair.1, pair.2, rfl⟩

variable {included : String → Kinds → Bool}
  {rendered : CodeText → Scope → Except RenderFault CodeText}

mutual

/-- A piece that is accepted is rendered to plain text, and the names behind it are of the kinds
that the check says. -/
theorem renderPiece_yields (sound : IsSoundFor included rendered) :
    ∀ (piece : Piece) (scope : Scope) (kinds next : Kinds),
      piece.kinds? included kinds = some next → scope.Matches kinds →
        Yields (renderPiece rendered scope piece) fun result =>
          result.1.IsPlain ∧ result.2.Matches next
  | .text value, scope, kinds, next, checked, matching => by
      cases checked
      exact ⟨_, rfl, CodeText.isPlain_ofString value, matching⟩
  | .emit expr, scope, kinds, next, checked, matching => by
      obtain ⟨isText, same⟩ := eq_of_if_some checked
      subst same
      refine Yields.bind (hasKind_text_of_any isText (expr.eval_yields matching)) fun datum has => ?_
      refine Yields.bind (has.shown rfl) fun text plain => ?_
      exact Yields.of_ok ⟨plain, matching⟩
  | .assign name expr, scope, kinds, next, checked, matching => by
      obtain ⟨kind, isKind, same⟩ := Option.map_eq_some_iff.mp checked
      subst same
      refine Yields.bind (expr.eval_yields matching kind isKind) fun datum has => ?_
      exact Yields.of_ok ⟨CodeText.isPlain_ofString "", matching.assign has name⟩
  | .branch condition yes no, scope, kinds, next, checked, matching => by
      rw [Piece.kinds?] at checked
      split at checked
      · next first second yesChecked noChecked =>
        obtain ⟨both, isFirst⟩ := eq_of_if_some checked
        obtain ⟨known, same⟩ := Bool.and_eq_true_iff.mp both
        obtain ⟨kind, isKind, isKnown⟩ := (Option.any_eq_true _ _).mp known
        -- both branches leave the same kinds behind, whichever is taken
        rw [← of_decide_eq_true same, isFirst] at noChecked
        rw [isFirst] at yesChecked
        refine Yields.bind (condition.eval_yields matching kind isKind) fun datum has => ?_
        refine Yields.bind (has.counts (of_decide_eq_true isKnown)) fun counts _ => ?_
        cases counts with
        | true => exact renderPieces_yields sound yes scope kinds next yesChecked matching
        | false => exact renderPieces_yields sound no scope kinds next noChecked matching
      · cases checked
  | .each item collection body otherwise, scope, kinds, next, checked, matching => by
      rw [Piece.kinds?] at checked
      split at checked
      · next kind isItem =>
        obtain ⟨both, same⟩ := eq_of_if_some checked
        subst same
        obtain ⟨bodyChecked, otherwiseChecked⟩ := Bool.and_eq_true_iff.mp both
        obtain ⟨behindBody, bodyKinds⟩ := Option.isSome_iff_exists.mp bodyChecked
        obtain ⟨behindOther, otherKinds⟩ := Option.isSome_iff_exists.mp otherwiseChecked
        obtain ⟨collectionKind, isCollection, hasItems⟩ := Option.bind_eq_some_iff.mp isItem
        refine Yields.bind (collection.eval_yields matching collectionKind isCollection)
          fun datum has => ?_
        refine Yields.bind (has.items hasItems) fun items each => ?_
        cases items.isEmpty with
        | true =>
            refine Yields.bind
              (renderPieces_yields sound otherwise scope kinds behindOther otherKinds matching)
              fun (text, _) both => ?_
            exact Yields.of_ok ⟨both.1, matching⟩
        | false =>
            refine Yields.bind (passes_yields items.length 0 fun mark first last datum member => ?_)
              fun text plain => Yields.of_ok ⟨plain, matching⟩
            -- a pass starts from the scope around the loop; what it assigns is gone behind it
            have inner := (matching.assign mark.hasKind_any loopName).assign
              (each datum member) item
            exact Yields.map (renderPieces_yields sound body _ _ behindBody bodyKinds inner)
              fun result both => both.1
      · cases checked
  | .eachEntry key value table body, scope, kinds, next, checked, matching => by
      obtain ⟨both, same⟩ := eq_of_if_some checked
      subst same
      obtain ⟨isTable, bodyChecked⟩ := Bool.and_eq_true_iff.mp both
      obtain ⟨behindBody, bodyKinds⟩ := Option.isSome_iff_exists.mp bodyChecked
      refine Yields.bind (table.eval_yields matching .table (of_decide_eq_true isTable))
        fun datum has => ?_
      refine Yields.bind (tableEntries_yields has) fun entries pairs => ?_
      refine Yields.bind (passes_yields entries.length 0 fun mark first last entry member => ?_)
        fun text plain => Yields.of_ok ⟨plain, matching⟩
      obtain ⟨name, content, isPair, nameText, contentText⟩ := pairs entry member
      subst isPair
      have inner := ((matching.assign mark.hasKind_any loopName).assign nameText
        key).assign contentText value
      exact Yields.map (renderPieces_yields sound body _ _ behindBody bodyKinds inner)
        fun result both => both.1
  | .include name, scope, kinds, next, checked, matching => by
      rw [Piece.kinds?] at checked
      split at checked
      · next names means =>
        obtain ⟨all, same⟩ := eq_of_if_some checked
        subst same
        refine Yields.bind (name.includes_yields matching means) fun datum named => ?_
        obtain ⟨word, listed, isWord⟩ := named
        subst isWord
        have accepted := List.all_eq_true.mp all word listed
        have shown : Yields (Datum.string word).shown fun text => text = CodeText.ofString word :=
          ⟨_, rfl, rfl⟩
        refine Yields.bind shown fun text isText => ?_
        subst isText
        refine Yields.bind (sound word kinds scope accepted matching) fun text plain => ?_
        exact Yields.of_ok ⟨plain, matching⟩
      · cases checked

theorem renderPieces_yields (sound : IsSoundFor included rendered) :
    ∀ (pieces : List Piece) (scope : Scope) (kinds next : Kinds),
      kinds? included kinds pieces = some next → scope.Matches kinds →
        Yields (renderPieces rendered scope pieces) fun result =>
          result.1.IsPlain ∧ result.2.Matches next
  | [], scope, kinds, next, checked, matching => by
      cases checked
      exact ⟨_, rfl, CodeText.isPlain_ofString "", matching⟩
  | piece :: rest, scope, kinds, next, checked, matching => by
      obtain ⟨middle, first, others⟩ := Option.bind_eq_some_iff.mp checked
      refine Yields.bind (renderPiece_yields sound piece scope kinds middle first matching)
        fun (text, told) both => ?_
      refine Yields.bind (renderPieces_yields sound rest told middle next others both.2)
        fun (tail, last) behind => ?_
      exact Yields.of_ok ⟨both.1.append behind.1, behind.2⟩

end

end EntityScaffold.Skeleton
