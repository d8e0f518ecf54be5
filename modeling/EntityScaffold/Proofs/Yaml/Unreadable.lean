import EntityScaffold.Proofs.Yaml.TreeReading

/-
Texts that are not loaded. A reader never forgets the fault that stands behind the tokens, and it has
to come to their end, so that a text which is not scanned to its end is not read. A mapping that
begins with a colon is not read either, and one whose first key has no value is not built.
-/

namespace EntityScaffold.Yaml

open Node Node.Reader

variable {α β : Type}

/-- A part of reading leaves the fault behind the tokens as it is. -/
def KeepsFault (reader : Reader α) : Prop :=
  ∀ reading value after, reader.run reading = .ok (value, after) → after.fault = reading.fault

/-- A part of reading ends well only when no fault stands behind the tokens. -/
def NeedsEnd (reader : Reader α) : Prop :=
  ∀ reading value after, reader.run reading = .ok (value, after) → reading.fault = none

section Parts

variable {reader : Reader α} {next : α → Reader β}

theorem exists_of_run_bind {reading after : Reading} {result : β}
    (ran : (reader >>= next).run reading = .ok (result, after)) :
    ∃ value middle, reader.run reading = .ok (value, middle) ∧
      (next value).run middle = .ok (result, after) := by
  rw [StateT.run_bind] at ran
  cases read : reader.run reading with
  | error fault =>
      rw [read] at ran
      cases ran
  | ok found =>
      rw [read] at ran
      exact ⟨found.1, found.2, rfl, ran⟩

theorem keepsFault_pure (value : α) : KeepsFault (pure value) := by
  intro reading result after ran
  cases ran
  rfl

theorem keepsFault_throw (fault : Fault) : KeepsFault (throw fault : Reader α) := by
  intro reading result after ran
  cases ran

theorem KeepsFault.bind (first : KeepsFault reader) (later : ∀ value, KeepsFault (next value)) :
    KeepsFault (reader >>= next) := by
  intro reading result after ran
  obtain ⟨value, middle, read, ran⟩ := exists_of_run_bind ran
  exact (later value middle result after ran).trans (first reading value middle read)

theorem KeepsFault.needsEnd (first : KeepsFault reader) (later : ∀ value, NeedsEnd (next value)) :
    NeedsEnd (reader >>= next) := by
  intro reading result after ran
  obtain ⟨value, middle, read, ran⟩ := exists_of_run_bind ran
  rw [← first reading value middle read]
  exact later value middle result after ran

theorem keepsFault_get : KeepsFault (get : Reader Reading) := by
  intro reading result after ran
  cases ran
  rfl

theorem keepsFault_modify {change : Reading → Reading}
    (same : ∀ reading, (change reading).fault = reading.fault) :
    KeepsFault (modify change : Reader PUnit) := by
  intro reading result after ran
  cases ran
  exact same reading

theorem keepsFault_peek : KeepsFault peek := by
  refine keepsFault_get.bind fun reading => ?_
  split
  · exact keepsFault_pure _
  · exact keepsFault_pure _
  · exact keepsFault_throw _

theorem keepsFault_skip : KeepsFault skip := keepsFault_modify fun _ => rfl

theorem keepsFault_isAt (tokens : List Token) : KeepsFault (isAt tokens) := by
  refine keepsFault_peek.bind fun next => ?_
  split
  · exact keepsFault_pure _
  · exact keepsFault_pure _

theorem keepsFault_expect (token : Token) : KeepsFault (expect token) := by
  refine (keepsFault_isAt _).bind fun here => ?_
  split
  · exact keepsFault_skip
  · exact keepsFault_throw _

theorem keepsFault_anchor? : KeepsFault anchor? := by
  refine keepsFault_peek.bind fun next => ?_
  split
  · exact keepsFault_skip.bind fun _ => keepsFault_pure _
  · exact keepsFault_pure _

theorem keepsFault_tag? : KeepsFault tag? := by
  refine keepsFault_peek.bind fun next => ?_
  split
  · exact keepsFault_skip.bind fun _ => keepsFault_pure _
  · exact keepsFault_pure _

theorem keepsFault_properties : KeepsFault properties := by
  refine keepsFault_anchor?.bind fun anchor => ?_
  split
  · exact keepsFault_tag?.bind fun _ => keepsFault_pure _
  · refine keepsFault_tag?.bind fun tag => ?_
    split
    · exact keepsFault_anchor?.bind fun _ => keepsFault_pure _
    · exact keepsFault_pure _

theorem keepsFault_fullTag (written : Option (Option (List Char) × List Char)) :
    KeepsFault (fullTag written) := by
  unfold fullTag
  split
  · exact keepsFault_pure _
  · exact keepsFault_pure _
  · refine keepsFault_get.bind fun reading => ?_
    split
    · exact keepsFault_pure _
    · exact keepsFault_throw _

theorem keepsFault_begin? (anchor : Option (List Char)) (node : Node) :
    KeepsFault (begin? anchor node) := by
  -- the state is set as a whole, so that what the bind lemma knows of it is not enough
  intro reading value after ran
  unfold begin? at ran
  cases anchor with
  | none =>
      cases ran
      rfl
  | some name =>
      obtain ⟨found, middle, got, ran⟩ := exists_of_run_bind ran
      cases got
      dsimp only at ran
      split at ran
      · cases ran
      · cases ran
        rfl

theorem keepsFault_complete (number : Nat) (node : Node) : KeepsFault (complete number node) := by
  refine KeepsFault.bind (keepsFault_modify fun _ => rfl) fun _ => ?_
  exact keepsFault_pure _

theorem keepsFault_aliased (name : List Char) : KeepsFault (aliased name) := by
  refine keepsFault_get.bind fun reading => ?_
  split
  · exact keepsFault_pure _
  · exact keepsFault_throw _

theorem keepsFault_sequence (anchor tag : Option (List Char)) {items : Reader (List Nat)}
    (keeps : KeepsFault items) : KeepsFault (Node.sequence anchor tag items) := by
  refine (keepsFault_begin? _ _).bind fun number => ?_
  exact keeps.bind fun _ => keepsFault_complete _ _

theorem keepsFault_mapping (anchor tag : Option (List Char)) {entries : Reader (List (Nat × Nat))}
    (keeps : KeepsFault entries) : KeepsFault (Node.mapping anchor tag entries) := by
  refine (keepsFault_begin? _ _).bind fun number => ?_
  exact keeps.bind fun _ => keepsFault_complete _ _

end Parts

/-- All readers of a given fuel leave the fault as it is. -/
structure ReadersKeep (fuel : Nat) : Prop where
  read : ∀ depth inBlock indentless, KeepsFault (read fuel depth inBlock indentless)
  part : ∀ depth inBlock indentless ends, KeepsFault (readUnless fuel depth inBlock indentless ends)
  value : ∀ depth inBlock ends, KeepsFault (readAfterColon fuel depth inBlock ends)
  blockItems : ∀ depth, KeepsFault (readBlockItems fuel depth)
  indentless : ∀ depth, KeepsFault (readIndentless fuel depth)
  blockEntries : ∀ depth, KeepsFault (readBlockEntries fuel depth)
  flowPair : ∀ depth, KeepsFault (readFlowPair fuel depth)
  flowItems : ∀ depth isFirst, KeepsFault (readFlowItems fuel depth isFirst)
  flowEntries : ∀ depth isFirst, KeepsFault (readFlowEntries fuel depth isFirst)

section Steps

variable {fuel : Nat} (keep : ReadersKeep fuel)

include keep

theorem keepsFault_read (depth : Nat) (inBlock indentless : Bool) :
    KeepsFault (Node.read (fuel + 1) depth inBlock indentless) := by
  rw [Node.read]
  refine keepsFault_peek.bind fun next => ?_
  split
  · exact keepsFault_skip.bind fun _ => keepsFault_aliased _
  · refine keepsFault_properties.bind fun found => ?_
    obtain ⟨anchor, written⟩ := found
    refine (keepsFault_fullTag _).bind fun tag => keepsFault_peek.bind fun next => ?_
    split
    · exact keepsFault_sequence _ _ (keep.indentless _)
    · split
      · exact keepsFault_skip.bind fun _ => keepsFault_begin? _ _
      · exact keepsFault_skip.bind fun _ => keepsFault_sequence _ _ (keep.flowItems _ _)
      · exact keepsFault_skip.bind fun _ => keepsFault_mapping _ _ (keep.flowEntries _ _)
      · split
        · exact keepsFault_skip.bind fun _ => keepsFault_sequence _ _ (keep.blockItems _)
        · exact keepsFault_throw _
      · split
        · exact keepsFault_skip.bind fun _ => keepsFault_mapping _ _ (keep.blockEntries _)
        · exact keepsFault_throw _
      · split
        · exact keepsFault_begin? _ _
        · exact keepsFault_throw _

theorem keepsFault_readUnless (depth : Nat) (inBlock indentless : Bool) (ends : List Token) :
    KeepsFault (readUnless (fuel + 1) depth inBlock indentless ends) := by
  cases depth with
  | zero =>
      rw [readUnless]
      exact keepsFault_throw _
  | succ depth =>
      rw [readUnless]
      refine (keepsFault_isAt _).bind fun ended => ?_
      split
      · exact keepsFault_begin? _ _
      · exact keep.read _ _ _

theorem keepsFault_readAfterColon (depth : Nat) (inBlock : Bool) (ends : List Token) :
    KeepsFault (readAfterColon (fuel + 1) depth inBlock ends) := by
  rw [readAfterColon]
  refine (keepsFault_isAt _).bind fun colon => ?_
  split
  · exact keepsFault_skip.bind fun _ => keep.part _ _ _ _
  · exact keepsFault_begin? _ _

theorem keepsFault_readBlockItems (depth : Nat) : KeepsFault (readBlockItems (fuel + 1) depth) := by
  rw [readBlockItems]
  refine (keepsFault_isAt _).bind fun more => ?_
  split
  · refine keepsFault_skip.bind fun _ => (keep.part _ _ _ _).bind fun item => ?_
    exact (keep.blockItems _).bind fun _ => keepsFault_pure _
  · exact (keepsFault_expect _).bind fun _ => keepsFault_pure _

theorem keepsFault_readIndentless (depth : Nat) : KeepsFault (readIndentless (fuel + 1) depth) := by
  rw [readIndentless]
  refine (keepsFault_isAt _).bind fun more => ?_
  split
  · refine keepsFault_skip.bind fun _ => (keep.part _ _ _ _).bind fun item => ?_
    exact (keep.indentless _).bind fun _ => keepsFault_pure _
  · exact keepsFault_pure _

theorem keepsFault_readBlockEntries (depth : Nat) :
    KeepsFault (readBlockEntries (fuel + 1) depth) := by
  rw [readBlockEntries]
  refine (keepsFault_isAt _).bind fun more => ?_
  split
  · refine keepsFault_skip.bind fun _ => (keep.part _ _ _ _).bind fun key => ?_
    refine (keep.value _ _ _).bind fun value => ?_
    exact (keep.blockEntries _).bind fun _ => keepsFault_pure _
  · exact (keepsFault_expect _).bind fun _ => keepsFault_pure _

theorem keepsFault_readFlowPair (depth : Nat) : KeepsFault (readFlowPair (fuel + 1) depth) := by
  cases depth with
  | zero =>
      rw [readFlowPair]
      exact keepsFault_throw _
  | succ depth =>
      rw [readFlowPair]
      refine keepsFault_skip.bind fun _ => (keep.part _ _ _ _).bind fun key => ?_
      exact (keep.value _ _ _).bind fun _ => keepsFault_pure _

theorem keepsFault_readFlowItems (depth : Nat) (isFirst : Bool) :
    KeepsFault (readFlowItems (fuel + 1) depth isFirst) := by
  rw [readFlowItems]
  refine (keepsFault_isAt _).bind fun ended => ?_
  split
  · exact keepsFault_skip.bind fun _ => keepsFault_pure _
  · extract_lets goesOn
    have keeps (told : Unit) : KeepsFault (goesOn told) := by
      refine (keepsFault_isAt _).bind fun isPair => ?_
      split
      · refine (keepsFault_mapping _ _ (keep.flowPair _)).bind fun item => ?_
        exact (keep.flowItems _ _).bind fun _ => keepsFault_pure _
      · refine (keepsFault_isAt _).bind fun ended => ?_
        split
        · exact keepsFault_skip.bind fun _ => keepsFault_pure _
        · refine (keep.part _ _ _ _).bind fun item => ?_
          exact (keep.flowItems _ _).bind fun _ => keepsFault_pure _
    split
    · exact (keepsFault_expect _).bind keeps
    · exact keeps ()

theorem keepsFault_readFlowEntries (depth : Nat) (isFirst : Bool) :
    KeepsFault (readFlowEntries (fuel + 1) depth isFirst) := by
  rw [readFlowEntries]
  refine (keepsFault_isAt _).bind fun ended => ?_
  split
  · exact keepsFault_skip.bind fun _ => keepsFault_pure _
  · extract_lets ends goesOn
    have keeps (told : Unit) : KeepsFault (goesOn told) := by
      refine (keepsFault_isAt _).bind fun isKey => ?_
      split
      · refine keepsFault_skip.bind fun _ => (keep.part _ _ _ _).bind fun key => ?_
        refine (keep.value _ _ _).bind fun value => ?_
        exact (keep.flowEntries _ _).bind fun _ => keepsFault_pure _
      · refine (keepsFault_isAt _).bind fun ended => ?_
        split
        · exact keepsFault_skip.bind fun _ => keepsFault_pure _
        · refine (keep.part _ _ _ _).bind fun key => (keepsFault_begin? _ _).bind fun value => ?_
          exact (keep.flowEntries _ _).bind fun _ => keepsFault_pure _
    split
    · exact (keepsFault_expect _).bind keeps
    · exact keeps ()

end Steps

/-- By induction on the fuel, each reader using those of less fuel. -/
theorem readersKeep (fuel : Nat) : ReadersKeep fuel := by
  induction fuel with
  | zero =>
      constructor <;> intros <;>
        simp only [Node.read, readUnless, readAfterColon, readBlockItems, readIndentless,
          readBlockEntries, readFlowPair, readFlowItems, readFlowEntries, keepsFault_throw]
  | succ fuel keep =>
      exact ⟨keepsFault_read keep, keepsFault_readUnless keep, keepsFault_readAfterColon keep,
        keepsFault_readBlockItems keep, keepsFault_readIndentless keep,
        keepsFault_readBlockEntries keep, keepsFault_readFlowPair keep,
        keepsFault_readFlowItems keep, keepsFault_readFlowEntries keep⟩

/-! ### Documents -/

theorem keepsFault_readDirectives (fuel : Nat) (seenVersion : Bool)
    (handles : List (List Char × List Char)) :
    KeepsFault (readDirectives fuel seenVersion handles) := by
  induction fuel generalizing seenVersion handles with
  | zero =>
      rw [readDirectives]
      exact keepsFault_throw _
  | succ fuel ih =>
      rw [readDirectives]
      refine keepsFault_peek.bind fun next => ?_
      split
      · refine keepsFault_skip.bind fun _ => ?_
        split
        · exact (keepsFault_throw _).bind fun _ => ih _ _
        · exact ih _ _
      · refine keepsFault_skip.bind fun _ => ?_
        split
        · exact (keepsFault_throw _).bind fun _ => ih _ _
        · exact ih _ _
      · exact keepsFault_skip.bind fun _ => ih _ _
      · exact keepsFault_pure _

theorem keepsFault_skipDocumentEnds (fuel : Nat) : KeepsFault (skipDocumentEnds fuel) := by
  induction fuel with
  | zero =>
      rw [skipDocumentEnds]
      exact keepsFault_throw _
  | succ fuel ih =>
      rw [skipDocumentEnds]
      refine (keepsFault_isAt _).bind fun ended => ?_
      split
      · exact keepsFault_skip.bind fun _ => ih
      · exact keepsFault_pure _

theorem keepsFault_isAtBoundary (marks : List Token) : KeepsFault (isAtBoundary marks) := by
  refine keepsFault_peek.bind fun next => ?_
  split
  all_goals exact keepsFault_pure _

theorem keepsFault_readDocumentStart (fuel : Nat) : KeepsFault (readDocumentStart fuel) := by
  refine (keepsFault_readDirectives _ _ _).bind fun handles => (keepsFault_expect _).bind fun _ => ?_
  exact keepsFault_modify fun _ => rfl

theorem needsEnd_peek {next : Option Token → Reader β}
    (later : ∀ token, NeedsEnd (next (some token))) : NeedsEnd (peek >>= next) := by
  intro reading result after ran
  obtain ⟨token?, middle, peeked, ran⟩ := exists_of_run_bind ran
  cases token? with
  | some token =>
      rw [← keepsFault_peek reading _ middle peeked]
      exact later token middle result after ran
  | none =>
      obtain ⟨found, standing, got, peeked⟩ := exists_of_run_bind peeked
      cases got
      split at peeked
      · cases peeked
      · next noFault => exact noFault
      · cases peeked

theorem needsEnd_readDocumentStart (fuel : Nat) :
    NeedsEnd (do readDocumentStart fuel; throw .malformed : Reader α) := by
  intro reading result after ran
  obtain ⟨_, _, _, ran⟩ := exists_of_run_bind ran
  cases ran

/-- Reading a document needs the end of the tokens. -/
theorem needsEnd_readDocument (fuel : Nat) : NeedsEnd (readDocument fuel) := by
  refine needsEnd_peek fun token => ?_
  refine (keepsFault_isAtBoundary _).needsEnd fun opened => ?_
  extract_lets goesOn
  have ends (root : Nat) : NeedsEnd (goesOn root) := by
    refine (keepsFault_skipDocumentEnds _).needsEnd fun _ => ?_
    exact needsEnd_peek fun _ => needsEnd_readDocumentStart fuel
  have whole : NeedsEnd (Node.read fuel depthLimit true false >>= goesOn) :=
    ((readersKeep fuel).read _ _ _).needsEnd ends
  split
  · refine (keepsFault_readDocumentStart _).needsEnd fun _ => ?_
    refine (keepsFault_isAtBoundary _).needsEnd fun atEnd => ?_
    split
    · exact (keepsFault_begin? _ _).needsEnd ends
    · exact whole
  · exact whole

/-- A text that is not scanned to its end is not read. -/
theorem exists_ofTokens_eq_error {stream : TokenStream} (faulty : stream.fault ≠ none) :
    ∃ fault, Node.ofTokens stream = .error fault := by
  cases read : (readDocument (4 * stream.tokens.length + 4)).run
      { tokens := stream.tokens, fault := stream.fault, handles := usualHandles } with
  | error fault =>
      refine ⟨fault, ?_⟩
      rw [Node.ofTokens, read]
      rfl
  | ok result => exact absurd (needsEnd_readDocument _ _ _ _ read) faulty

namespace Tree

variable {fault : Option Fault} {depth least : Nat} {rest tokens : List Token}

/-- Entries of a block mapping are not read, however much fuel there is beyond some. -/
def Stops (fault : Option Fault) (depth least : Nat) (rest : List Token) : Prop :=
  ∀ fuel nodes, least ≤ fuel → (readBlockEntries fuel depth).run
    ⟨rest, fault, usualHandles, [], nodes⟩ = .error .malformed

/-- Where an entry should begin, something else stands. -/
theorem stops_token {token : Token} (noKey : token ≠ .key) (noEnd : token ≠ .blockEnd) :
    Stops fault depth 1 (token :: rest) := by
  intro fuel nodes enough
  obtain ⟨fuel, rfl⟩ : ∃ less, fuel = less + 1 := ⟨fuel - 1, by omega⟩
  have isKey : [Token.key].contains token = false := by simpa using noKey
  have isEnd : [Token.blockEnd].contains token = false := by simpa using noEnd
  rw [readBlockEntries, run_bind_of_eq (run_isAt _), isKey]
  refine run_bind_of_error ?_
  rw [expect, run_bind_of_eq (run_isAt _), isEnd]
  rfl

theorem stops_nil : Stops (some .malformed) depth 1 [] := by
  intro fuel nodes enough
  obtain ⟨fuel, rfl⟩ : ∃ less, fuel = less + 1 := ⟨fuel - 1, by omega⟩
  rw [readBlockEntries]
  exact run_bind_of_error rfl

/-- Behind entries that are read, others are not. -/
theorem Stops.entries {entries : List (Spelled × Tree)} {isFirst : Bool}
    (stops : Stops fault (depth + 1) least rest) (fit : entriesFit true depth entries = true) :
    Stops fault (depth + 1) (least + 4 * (entryTokens true isFirst entries).length + 4)
      (entryTokens true isFirst entries ++ rest) := by
  induction entries generalizing isFirst with
  | nil => exact fun fuel nodes enough => stops fuel nodes (by omega)
  | cons entry others ih =>
      obtain ⟨key, value⟩ := entry
      obtain ⟨fitsValue, fitOthers⟩ := Bool.and_eq_true_iff.mp fit
      intro fuel nodes enough
      have lengths := length_entryTokens_cons true isFirst key value others
      obtain ⟨fuel, rfl⟩ : ∃ less, fuel = less + 3 := ⟨fuel - 3, by omega⟩
      have here := @read_tokens fault usualHandles [] fuel depth (nodes ++ [key.node].toArray) true
        true (entryTokens true false others ++ rest) value fitsValue (by omega)
      have behind : (readBlockEntries (fuel + 3) (depth + 1)).run
          ⟨.key :: key.token :: .value :: (value.tokens ++
            (entryTokens true false others ++ rest)), fault, usualHandles, [], nodes⟩ =
          .error .malformed :=
        (readBlockEntries_entry here).trans (run_bind_of_error (ih fitOthers _ _ (by omega)))
      simpa [entryTokens] using behind

/-- The value of a key is a mapping whose entries are not read. -/
theorem Stops.inside (key : Spelled) (stops : Stops fault depth least rest) :
    Stops fault (depth + 1) (least + 4)
      (.key :: key.token :: .value :: .blockMappingStart :: rest) := by
  intro fuel nodes enough
  obtain ⟨fuel, rfl⟩ : ∃ less, fuel = less + 4 := ⟨fuel - 4, by omega⟩
  rw [readBlockEntries]
  refine (run_bind_of_eq (run_isAt _)).trans ?_
  refine (run_bind_of_eq run_skip).trans ?_
  refine (run_bind_of_eq (readUnless_spelled (by rfl))).trans ?_
  refine run_bind_of_error ?_
  rw [readAfterColon, run_bind_of_eq (run_isAt _)]
  refine (run_bind_of_eq run_skip).trans ?_
  rw [readUnless]
  refine (run_bind_of_eq (run_isAt _)).trans ?_
  refine read_blockMapping.trans ?_
  exact run_bind_of_error (stops _ _ (by omega))

/-- A mapping is not read when its entries are not. -/
theorem Stops.ofTokens (stops : Stops fault depthLimit least rest)
    (enough : least ≤ 4 * rest.length + 7) :
    Node.ofTokens ⟨.blockMappingStart :: rest, fault⟩ = .error .malformed := by
  let begun : Reading := ⟨.blockMappingStart :: rest, fault, usualHandles, [], #[]⟩
  have next : peek.run begun = .ok (some .blockMappingStart, begun) := rfl
  have boundary : (isAtBoundary [.documentStart]).run begun = .ok (false, begun) := rfl
  have unread : (Node.read (4 * rest.length + 8) depthLimit true false).run begun =
      .error .malformed := by
    rw [read_blockMapping]
    exact run_bind_of_error (stops _ _ enough)
  have document : (readDocument (4 * rest.length + 8)).run begun = .error .malformed := by
    rw [readDocument, run_bind_of_eq next]
    refine (run_bind_of_eq boundary).trans ?_
    exact run_bind_of_error unread
  exact congrArg (fun result => result >>= _) document

end Tree

/-- A mapping whose first key is missing is not read. -/
theorem ofTokens_value (tokens : List Token) (fault : Option Fault) :
    Node.ofTokens ⟨.blockMappingStart :: .value :: tokens, fault⟩ = .error .malformed :=
  (Tree.stops_token (by decide) (by decide)).ofTokens (by simp)

/-! ### Loading -/

variable {source : List Char}

theorem exists_load_eq_error {fault : Fault}
    (unread : Node.ofTokens (Token.scan source) = .error fault) :
    load source = .error (.text fault) := by
  rw [load, unread]
  rfl

theorem Tree.load_eq_error {key : Spelled} {value : Tree} {entries : List (Spelled × Tree)}
    {fault : LoadFault}
    (scanned : Token.scan source = ⟨(Tree.map true ((key, value) :: entries)).tokens, none⟩)
    (fit : (Tree.map true ((key, value) :: entries)).fits true depthLimit = true)
    (keys : ∀ entry ∈ (key, value) :: entries, Builder.isScalarTag entry.1.tag = true)
    (notFloat : key.tag ≠ .float) (noValue : Scalar.valueOf key.tag key.text = .error fault) :
    load source = .error fault := by
  have read := ofTokens_tokens _ fit
  rw [← scanned] at read
  have unbuilt : Part.ofNodes ((Tree.map true ((key, value) :: entries)).nodes 0).toArray 0 =
      .error fault := by
    have behind : ((Tree.map true ((key, value) :: entries)).layout 0).drop 1 =
        entryLayout 1 ((key, value) :: entries) ++ [] := (List.append_nil _).symm
    have scalars := (valueAt_entryStarts behind).2
    refine Part.ofNodes_eq_error rfl (fun start listed => ?_) rfl notFloat noValue
    obtain ⟨entry, member, standing⟩ := scalars start listed
    exact ⟨_, _, standing, keys entry member⟩
  rw [load, read]
  change (Part.ofNodes _ 0 >>= fun parts => Except.ok (documentOf parts 0)) = _
  rw [unbuilt]
  rfl

end EntityScaffold.Yaml
