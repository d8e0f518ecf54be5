import EntityScaffold.Proofs.Yaml.Assembled
import EntityScaffold.Proofs.Yaml.Tree

/-
How the tokens of a tree are read. The nodes come out as they are numbered, whatever stands behind the
tokens, as long as there is enough fuel and the collections are not too deep. So a text with the
tokens of a tree is loaded as the value of the tree.
-/

namespace EntityScaffold.Yaml

/-- Tokens with which a scalar or a collection begins. -/
def Token.beginsNode : Token → Bool
  | .scalar _ _ | .flowSequenceStart | .flowMappingStart | .blockMappingStart => true
  | _ => false

namespace Node.Reader

variable {token : Token} {tokens rest : List Token} {fault : Option Fault}
  {handles : List (List Char × List Char)} {anchors : List (List Char × Nat)} {nodes : Array Node}

theorem run_isAt (marks : List Token) :
    (isAt marks).run ⟨token :: tokens, fault, handles, anchors, nodes⟩ =
      .ok (marks.contains token, ⟨token :: tokens, fault, handles, anchors, nodes⟩) := rfl

theorem run_skip : skip.run ⟨token :: tokens, fault, handles, anchors, nodes⟩ =
    .ok ((), ⟨tokens, fault, handles, anchors, nodes⟩) := rfl

theorem run_expect : (expect token).run ⟨token :: tokens, fault, handles, anchors, nodes⟩ =
    .ok ((), ⟨tokens, fault, handles, anchors, nodes⟩) := by
  rw [expect, run_bind_of_eq (run_isAt [token]), List.contains_cons, beq_self_eq_true]
  rfl

/-- What begins a node is no mark. -/
theorem run_isAt_of_beginsNode (begins : token.beginsNode = true) {marks : List Token}
    (none_ : marks.all (fun mark => !mark.beginsNode) = true) :
    (isAt marks).run ⟨token :: tokens, fault, handles, anchors, nodes⟩ =
      .ok (false, ⟨token :: tokens, fault, handles, anchors, nodes⟩) := by
  have absent : marks.contains token = false := by
    rw [List.contains_eq_mem, decide_eq_false_iff_not]
    intro member
    have mark := List.all_eq_true.mp none_ token member
    rw [begins] at mark
    cases mark
  rw [run_isAt, absent]

/-- A node is completed in front of the nodes that began behind it. -/
theorem run_complete {draft node : Node} {later : List Node} :
    (complete nodes.size node).run
        ⟨tokens, fault, handles, anchors, nodes.push draft ++ later.toArray⟩ =
      .ok (nodes.size, ⟨tokens, fault, handles, anchors, nodes ++ (node :: later).toArray⟩) := by
  have placed : (nodes.push draft ++ later.toArray).setIfInBounds nodes.size node =
      nodes ++ (node :: later).toArray := by
    apply Array.toList_inj.mp
    simp
  rw [← placed]
  rfl

end Node.Reader

namespace Tree

open Node Node.Reader

variable {fault : Option Fault} {handles : List (List Char × List Char)}
  {anchors : List (List Char × Nat)} {nodes : Array Node} {inBlock indentless : Bool}
  {fuel depth : Nat} {rest : List Token}

theorem exists_tokens_eq (tree : Tree) :
    ∃ token more, tree.tokens = token :: more ∧ token.beginsNode = true := by
  cases tree with
  | scalar spelled => exact ⟨_, _, rfl, rfl⟩
  | list items => exact ⟨_, _, rfl, rfl⟩
  | map inBlock entries => cases inBlock <;> exact ⟨_, _, rfl, rfl⟩

theorem read_spelled (spelled : Spelled) :
    (Node.read (fuel + 1) depth inBlock indentless).run
        ⟨spelled.token :: rest, fault, handles, anchors, nodes⟩ =
      .ok (nodes.size, ⟨rest, fault, handles, anchors, nodes ++ [spelled.node].toArray⟩) := by
  rw [Node.read, ← Array.push_eq_append]
  cases indentless <;> rfl

theorem run_isAt_tokens {tree : Tree} {marks : List Token}
    (none_ : marks.all (fun mark => !mark.beginsNode) = true) :
    (isAt marks).run ⟨tree.tokens ++ rest, fault, handles, anchors, nodes⟩ =
      .ok (false, ⟨tree.tokens ++ rest, fault, handles, anchors, nodes⟩) := by
  obtain ⟨token, more, same, begins⟩ := exists_tokens_eq tree
  rw [same]
  exact run_isAt_of_beginsNode begins none_

/-- A part of a collection is read where it does not end. -/
theorem readUnless_tokens {tree : Tree} {marks : List Token}
    (none_ : marks.all (fun mark => !mark.beginsNode) = true) :
    (readUnless (fuel + 1) (depth + 1) inBlock indentless marks).run
        ⟨tree.tokens ++ rest, fault, handles, anchors, nodes⟩ =
      (Node.read fuel depth inBlock indentless).run
        ⟨tree.tokens ++ rest, fault, handles, anchors, nodes⟩ := by
  rw [readUnless, run_bind_of_eq (run_isAt_tokens none_)]
  rfl

/-- Behind a comma an item is read as the first one is. -/
theorem readFlowItems_comma {tree : Tree} :
    (readFlowItems (fuel + 1) depth false).run
        ⟨.flowEntry :: (tree.tokens ++ rest), fault, handles, anchors, nodes⟩ =
      (readFlowItems (fuel + 1) depth true).run
        ⟨tree.tokens ++ rest, fault, handles, anchors, nodes⟩ := by
  rw [readFlowItems, readFlowItems, run_bind_of_eq (run_isAt_tokens (by rfl)),
    run_bind_of_eq (run_isAt _)]
  exact run_bind_of_eq run_expect

theorem readFlowEntries_comma :
    (readFlowEntries (fuel + 1) depth false).run
        ⟨.flowEntry :: .key :: rest, fault, handles, anchors, nodes⟩ =
      (readFlowEntries (fuel + 1) depth true).run
        ⟨.key :: rest, fault, handles, anchors, nodes⟩ := by
  rw [readFlowEntries, readFlowEntries, run_bind_of_eq (run_isAt _), run_bind_of_eq (run_isAt _)]
  exact run_bind_of_eq run_expect

theorem readUnless_spelled {key : Spelled} {marks : List Token}
    (none_ : marks.all (fun mark => !mark.beginsNode) = true) :
    (readUnless (fuel + 2) (depth + 1) inBlock indentless marks).run
        ⟨key.token :: rest, fault, handles, anchors, nodes⟩ =
      .ok (nodes.size, ⟨rest, fault, handles, anchors, nodes ++ [key.node].toArray⟩) :=
  (@readUnless_tokens _ _ _ _ _ _ (fuel + 1) _ _ (.scalar key) _ none_).trans (read_spelled key)

theorem readAfterColon_tokens {tree : Tree} {marks : List Token}
    (none_ : marks.all (fun mark => !mark.beginsNode) = true) :
    (readAfterColon (fuel + 2) (depth + 1) inBlock marks).run
        ⟨.value :: (tree.tokens ++ rest), fault, handles, anchors, nodes⟩ =
      (Node.read fuel depth inBlock inBlock).run
        ⟨tree.tokens ++ rest, fault, handles, anchors, nodes⟩ := by
  rw [readAfterColon, run_bind_of_eq (run_isAt _)]
  exact (run_bind_of_eq run_skip).trans (readUnless_tokens none_)

/-! A collection begins with its node, to be completed once its parts are read. -/

theorem read_flowSequence :
    (Node.read (fuel + 1) depth inBlock indentless).run
        ⟨.flowSequenceStart :: rest, fault, handles, anchors, nodes⟩ =
      (readFlowItems fuel depth true >>= fun items =>
          complete nodes.size ⟨.sequence, .sequence items⟩).run
        ⟨rest, fault, handles, anchors, nodes.push ⟨.sequence, .sequence []⟩⟩ := by
  rw [Node.read]
  cases indentless <;> rfl

theorem read_flowMapping :
    (Node.read (fuel + 1) depth inBlock indentless).run
        ⟨.flowMappingStart :: rest, fault, handles, anchors, nodes⟩ =
      (readFlowEntries fuel depth true >>= fun entries =>
          complete nodes.size ⟨.mapping, .mapping entries⟩).run
        ⟨rest, fault, handles, anchors, nodes.push ⟨.mapping, .mapping []⟩⟩ := by
  rw [Node.read]
  cases indentless <;> rfl

theorem read_blockMapping :
    (Node.read (fuel + 1) depth true indentless).run
        ⟨.blockMappingStart :: rest, fault, handles, anchors, nodes⟩ =
      (readBlockEntries fuel depth >>= fun entries =>
          complete nodes.size ⟨.mapping, .mapping entries⟩).run
        ⟨rest, fault, handles, anchors, nodes.push ⟨.mapping, .mapping []⟩⟩ := by
  rw [Node.read]
  cases indentless <;> rfl

theorem append_toArray_append {α : Type} (items : Array α) (first second : List α) :
    items ++ first.toArray ++ second.toArray = items ++ (first ++ second).toArray := by
  simp

theorem size_append_nodes (tree : Tree) (number : Nat) :
    (nodes ++ (tree.nodes number).toArray).size = nodes.size + tree.size := by
  simp [Tree.nodes, length_layout]

theorem size_append_entry (key : Spelled) (value : Tree) (number : Nat) :
    (nodes ++ (key.node :: value.nodes number).toArray).size = nodes.size + (value.size + 1) := by
  simp [Tree.nodes, length_layout]

theorem entryLayout_nodes (number : Nat) (key : Spelled) (value : Tree)
    (others : List (Spelled × Tree)) :
    (entryLayout number ((key, value) :: others)).map Prod.fst =
      (key.node :: value.nodes (number + 1)) ++
        (entryLayout (number + (value.size + 1)) others).map Prod.fst := by
  rw [entryLayout, List.map_append, List.map_cons, Tree.nodes]

/-- An entry is read: the key with its node, and the value with the nodes behind it. -/
theorem read_entry {key : Spelled} {value : Tree} {marks marksBehind : List Token}
    (none_ : marks.all (fun mark => !mark.beginsNode) = true)
    (noneBehind : marksBehind.all (fun mark => !mark.beginsNode) = true)
    (read : (Node.read fuel depth inBlock inBlock).run
        ⟨value.tokens ++ rest, fault, handles, anchors, nodes ++ [key.node].toArray⟩ =
      .ok ((nodes ++ [key.node].toArray).size, ⟨rest, fault, handles, anchors,
        nodes ++ [key.node].toArray ++
          (value.nodes (nodes ++ [key.node].toArray).size).toArray⟩))
    {α : Type} (next : Nat → Nat → Reader α) :
    (do
      let key ← readUnless (fuel + 2) (depth + 1) inBlock indentless marks
      let value ← readAfterColon (fuel + 2) (depth + 1) inBlock marksBehind
      next key value).run
        ⟨key.token :: .value :: (value.tokens ++ rest), fault, handles, anchors, nodes⟩ =
      (next nodes.size (nodes.size + 1)).run ⟨rest, fault, handles, anchors,
        nodes ++ (key.node :: value.nodes (nodes.size + 1)).toArray⟩ := by
  have place : (nodes ++ [key.node].toArray).size = nodes.size + 1 := by simp
  rw [append_toArray_append, place] at read
  rw [run_bind_of_eq (readUnless_spelled none_),
    run_bind_of_eq ((readAfterColon_tokens noneBehind).trans read)]
  rfl

/-- Behind an entry of a block mapping the others are read. -/
theorem readBlockEntries_entry {key : Spelled} {value : Tree}
    (read : (Node.read fuel depth true true).run
        ⟨value.tokens ++ rest, fault, handles, anchors, nodes ++ [key.node].toArray⟩ =
      .ok ((nodes ++ [key.node].toArray).size, ⟨rest, fault, handles, anchors,
        nodes ++ [key.node].toArray ++
          (value.nodes (nodes ++ [key.node].toArray).size).toArray⟩)) :
    (readBlockEntries (fuel + 3) (depth + 1)).run
        ⟨.key :: key.token :: .value :: (value.tokens ++ rest), fault, handles, anchors, nodes⟩ =
      (readBlockEntries (fuel + 2) (depth + 1) >>= fun others =>
          pure ((nodes.size, nodes.size + 1) :: others)).run
        ⟨rest, fault, handles, anchors,
          nodes ++ (key.node :: value.nodes (nodes.size + 1)).toArray⟩ := by
  rw [readBlockEntries]
  refine (run_bind_of_eq (run_isAt _)).trans ?_
  refine (run_bind_of_eq run_skip).trans ?_
  exact read_entry (by rfl) (by rfl) read _

/-- Behind an entry of a flow mapping the others are read, with a comma in front of them. -/
theorem readFlowEntries_entry {key : Spelled} {value : Tree}
    (read : (Node.read fuel depth false false).run
        ⟨value.tokens ++ rest, fault, handles, anchors, nodes ++ [key.node].toArray⟩ =
      .ok ((nodes ++ [key.node].toArray).size, ⟨rest, fault, handles, anchors,
        nodes ++ [key.node].toArray ++
          (value.nodes (nodes ++ [key.node].toArray).size).toArray⟩)) :
    (readFlowEntries (fuel + 3) (depth + 1) true).run
        ⟨.key :: key.token :: .value :: (value.tokens ++ rest), fault, handles, anchors, nodes⟩ =
      (readFlowEntries (fuel + 2) (depth + 1) false >>= fun others =>
          pure ((nodes.size, nodes.size + 1) :: others)).run
        ⟨rest, fault, handles, anchors,
          nodes ++ (key.node :: value.nodes (nodes.size + 1)).toArray⟩ := by
  rw [readFlowEntries, run_bind_of_eq (run_isAt _)]
  refine (run_bind_of_eq (run_isAt _)).trans ?_
  refine (run_bind_of_eq run_skip).trans ?_
  exact read_entry (by rfl) (by rfl) read _

theorem length_entryTokens_cons (inBlock isFirst : Bool) (key : Spelled) (value : Tree)
    (others : List (Spelled × Tree)) :
    value.tokens.length + (entryTokens inBlock false others).length + 3 ≤
      (entryTokens inBlock isFirst ((key, value) :: others)).length := by
  rw [entryTokens, List.length_append, List.length_append, List.length_cons, List.length_cons,
    List.length_cons]
  omega

mutual

theorem read_tokens {fuel depth : Nat} {nodes : Array Node} {inBlock indentless : Bool}
    {rest : List Token} : (tree : Tree) →
    tree.fits inBlock depth = true → 4 * tree.tokens.length ≤ fuel →
    (Node.read fuel depth inBlock indentless).run
        ⟨tree.tokens ++ rest, fault, handles, anchors, nodes⟩ =
      .ok (nodes.size, ⟨rest, fault, handles, anchors,
        nodes ++ (tree.nodes nodes.size).toArray⟩)
  | .scalar spelled, _, enough => by
      obtain ⟨fuel, rfl⟩ : ∃ less, fuel = less + 1 := by
        rw [tokens, List.length_singleton] at enough
        exact ⟨fuel - 1, by omega⟩
      exact read_spelled spelled
  | .list items, fit, enough => by
      obtain ⟨depth, rfl, fit⟩ := exists_depth_of_list fit
      rw [tokens, List.length_append, List.length_cons, List.length_singleton] at enough
      obtain ⟨fuel, rfl⟩ : ∃ less, fuel = less + 1 := ⟨fuel - 1, by omega⟩
      have inside := @readFlowItems_tokens fuel depth
        (nodes.push ⟨.sequence, .sequence []⟩) rest true items fit (by omega)
      rw [Array.size_push] at inside
      rw [tokens, List.append_assoc, List.cons_append, List.singleton_append, read_flowSequence,
        run_bind_of_eq inside]
      exact run_complete
  | .map true entries, fit, enough => by
      obtain ⟨depth, rfl, allowed, fit⟩ := exists_depth_of_map fit
      obtain rfl : inBlock = true := allowed rfl
      rw [tokens, List.length_append, List.length_cons, List.length_singleton] at enough
      obtain ⟨fuel, rfl⟩ : ∃ less, fuel = less + 1 := ⟨fuel - 1, by omega⟩
      have inside := @readBlockEntries_tokens fuel depth
        (nodes.push ⟨.mapping, .mapping []⟩) rest true entries fit (by omega)
      rw [Array.size_push] at inside
      rw [tokens, List.append_assoc, List.cons_append, List.singleton_append, read_blockMapping,
        run_bind_of_eq inside]
      exact run_complete
  | .map false entries, fit, enough => by
      obtain ⟨depth, rfl, _, fit⟩ := exists_depth_of_map fit
      rw [tokens, List.length_append, List.length_cons, List.length_singleton] at enough
      obtain ⟨fuel, rfl⟩ : ∃ less, fuel = less + 1 := ⟨fuel - 1, by omega⟩
      have inside := @readFlowEntries_tokens fuel depth
        (nodes.push ⟨.mapping, .mapping []⟩) rest true entries fit (by omega)
      rw [Array.size_push] at inside
      rw [tokens, List.append_assoc, List.cons_append, List.singleton_append, read_flowMapping,
        run_bind_of_eq inside]
      exact run_complete

theorem readFlowItems_tokens {fuel depth : Nat} {nodes : Array Node} {rest : List Token}
    {isFirst : Bool} : (items : List Tree) →
    itemsFit depth items = true → 4 * (itemTokens isFirst items).length + 4 ≤ fuel →
    (readFlowItems fuel (depth + 1) isFirst).run
        ⟨itemTokens isFirst items ++ .flowSequenceEnd :: rest, fault, handles, anchors, nodes⟩ =
      .ok (itemStarts nodes.size items, ⟨rest, fault, handles, anchors,
        nodes ++ ((itemLayout nodes.size items).map Prod.fst).toArray⟩)
  | [], _, enough => by
      obtain ⟨fuel, rfl⟩ : ∃ less, fuel = less + 1 := ⟨fuel - 1, by omega⟩
      rw [readFlowItems, itemTokens, List.nil_append, run_bind_of_eq (run_isAt _)]
      rfl
  | item :: others, fit, enough => by
      obtain ⟨fitsItem, fitOthers⟩ := Bool.and_eq_true_iff.mp fit
      obtain ⟨token, more, begins, _⟩ := exists_tokens_eq item
      have some_ : 0 < item.tokens.length := by rw [begins]; exact Nat.succ_pos _
      have long : 4 * item.tokens.length + 4 * (itemTokens false others).length + 4 ≤ fuel := by
        rw [itemTokens, List.length_append, List.length_append] at enough
        omega
      obtain ⟨fuel, rfl⟩ : ∃ less, fuel = less + 2 := ⟨fuel - 2, by omega⟩
      have here := @read_tokens fuel depth nodes false false
        (itemTokens false others ++ .flowSequenceEnd :: rest) item fitsItem (by omega)
      have later := @readFlowItems_tokens (fuel + 1) depth
        (nodes ++ (item.nodes nodes.size).toArray) rest false others fitOthers (by omega)
      rw [size_append_nodes, append_toArray_append] at later
      have first : (readFlowItems (fuel + 2) (depth + 1) true).run
          ⟨item.tokens ++ (itemTokens false others ++ .flowSequenceEnd :: rest), fault, handles,
            anchors, nodes⟩ =
          .ok (itemStarts nodes.size (item :: others), ⟨rest, fault, handles, anchors,
            nodes ++ ((itemLayout nodes.size (item :: others)).map Prod.fst).toArray⟩) := by
        rw [itemStarts, itemLayout, List.map_append, readFlowItems,
          run_bind_of_eq (run_isAt_tokens (by rfl))]
        refine (run_bind_of_eq (run_isAt_tokens (by rfl))).trans ?_
        refine (run_bind_of_eq (run_isAt_tokens (by rfl))).trans ?_
        refine (run_bind_of_eq ((readUnless_tokens (by rfl)).trans here)).trans ?_
        exact run_bind_of_eq later
      cases isFirst with
      | true =>
          rw [itemTokens, if_pos rfl, List.nil_append, List.append_assoc]
          exact first
      | false =>
          rw [itemTokens, if_neg Bool.false_ne_true, List.append_assoc, List.append_assoc,
            List.singleton_append, readFlowItems_comma]
          exact first

theorem readFlowEntries_tokens {fuel depth : Nat} {nodes : Array Node} {rest : List Token}
    {isFirst : Bool} : (entries : List (Spelled × Tree)) →
    entriesFit false depth entries = true →
    4 * (entryTokens false isFirst entries).length + 4 ≤ fuel →
    (readFlowEntries fuel (depth + 1) isFirst).run
        ⟨entryTokens false isFirst entries ++ .flowMappingEnd :: rest, fault, handles, anchors,
          nodes⟩ =
      .ok (entryStarts nodes.size entries, ⟨rest, fault, handles, anchors,
        nodes ++ ((entryLayout nodes.size entries).map Prod.fst).toArray⟩)
  | [], _, enough => by
      obtain ⟨fuel, rfl⟩ : ∃ less, fuel = less + 1 := ⟨fuel - 1, by omega⟩
      rw [readFlowEntries, entryTokens, List.nil_append, run_bind_of_eq (run_isAt _)]
      rfl
  | (key, value) :: others, fit, enough => by
      obtain ⟨fitsValue, fitOthers⟩ := Bool.and_eq_true_iff.mp fit
      have lengths := length_entryTokens_cons false isFirst key value others
      obtain ⟨fuel, rfl⟩ : ∃ less, fuel = less + 3 := ⟨fuel - 3, by omega⟩
      have here := @read_tokens fuel depth (nodes ++ [key.node].toArray) false false
        (entryTokens false false others ++ .flowMappingEnd :: rest) value fitsValue (by omega)
      have later := @readFlowEntries_tokens (fuel + 2) depth
        (nodes ++ (key.node :: value.nodes (nodes.size + 1)).toArray) rest false others fitOthers
        (by omega)
      rw [append_toArray_append, size_append_entry, ← entryLayout_nodes] at later
      have first : (readFlowEntries (fuel + 3) (depth + 1) true).run
          ⟨.key :: key.token :: .value :: (value.tokens ++
              (entryTokens false false others ++ .flowMappingEnd :: rest)), fault, handles,
            anchors, nodes⟩ =
          .ok (entryStarts nodes.size ((key, value) :: others), ⟨rest, fault, handles, anchors,
            nodes ++ ((entryLayout nodes.size ((key, value) :: others)).map Prod.fst).toArray⟩) :=
        (readFlowEntries_entry here).trans (run_bind_of_eq later)
      cases isFirst with
      | true => simpa [entryTokens] using first
      | false =>
          rw [← readFlowEntries_comma] at first
          simpa [entryTokens] using first

theorem readBlockEntries_tokens {fuel depth : Nat} {nodes : Array Node} {rest : List Token}
    {isFirst : Bool} : (entries : List (Spelled × Tree)) →
    entriesFit true depth entries = true →
    4 * (entryTokens true isFirst entries).length + 4 ≤ fuel →
    (readBlockEntries fuel (depth + 1)).run
        ⟨entryTokens true isFirst entries ++ .blockEnd :: rest, fault, handles, anchors, nodes⟩ =
      .ok (entryStarts nodes.size entries, ⟨rest, fault, handles, anchors,
        nodes ++ ((entryLayout nodes.size entries).map Prod.fst).toArray⟩)
  | [], _, enough => by
      obtain ⟨fuel, rfl⟩ : ∃ less, fuel = less + 1 := ⟨fuel - 1, by omega⟩
      rw [readBlockEntries, entryTokens, List.nil_append, run_bind_of_eq (run_isAt _)]
      exact run_bind_of_eq run_expect
  | (key, value) :: others, fit, enough => by
      obtain ⟨fitsValue, fitOthers⟩ := Bool.and_eq_true_iff.mp fit
      have lengths := length_entryTokens_cons true isFirst key value others
      obtain ⟨fuel, rfl⟩ : ∃ less, fuel = less + 3 := ⟨fuel - 3, by omega⟩
      have here := @read_tokens fuel depth (nodes ++ [key.node].toArray) true true
        (entryTokens true false others ++ .blockEnd :: rest) value fitsValue (by omega)
      have later := @readBlockEntries_tokens (fuel + 2) depth
        (nodes ++ (key.node :: value.nodes (nodes.size + 1)).toArray) rest false others fitOthers
        (by omega)
      rw [append_toArray_append, size_append_entry, ← entryLayout_nodes] at later
      have first : (readBlockEntries (fuel + 3) (depth + 1)).run
          ⟨.key :: key.token :: .value :: (value.tokens ++
              (entryTokens true false others ++ .blockEnd :: rest)), fault, handles, anchors,
            nodes⟩ =
          .ok (entryStarts nodes.size ((key, value) :: others), ⟨rest, fault, handles, anchors,
            nodes ++ ((entryLayout nodes.size ((key, value) :: others)).map Prod.fst).toArray⟩) :=
        (readBlockEntries_entry here).trans (run_bind_of_eq later)
      simpa [entryTokens] using first

end

/-- The one document of a text is the tree that is written. -/
theorem ofTokens_tokens (tree : Tree) (fit : tree.fits true depthLimit = true) :
    Node.ofTokens ⟨tree.tokens, none⟩ = .ok (some 0, (tree.nodes 0).toArray) := by
  obtain ⟨token, more, same, begins⟩ := exists_tokens_eq tree
  have boundary : (isAtBoundary [.documentStart]).run
      ⟨tree.tokens, none, usualHandles, [], #[]⟩ =
        .ok (false, ⟨tree.tokens, none, usualHandles, [], #[]⟩) := by
    rw [same]
    cases token <;> first | rfl | cases begins
  have next : peek.run ⟨tree.tokens, none, usualHandles, [], #[]⟩ =
      .ok (some token, ⟨tree.tokens, none, usualHandles, [], #[]⟩) := by
    rw [same]
    rfl
  have read := @read_tokens none usualHandles [] (4 * tree.tokens.length + 4) depthLimit #[] true
    false [] tree fit (by omega)
  rw [List.append_nil] at read
  have document : (readDocument (4 * tree.tokens.length + 4)).run
      ⟨tree.tokens, none, usualHandles, [], #[]⟩ =
        .ok (some 0, ⟨[], none, usualHandles, [], (tree.nodes 0).toArray⟩) := by
    rw [readDocument, run_bind_of_eq next]
    refine (run_bind_of_eq boundary).trans ?_
    refine (run_bind_of_eq read).trans ?_
    rw [Array.empty_append]
    rfl
  rw [Node.ofTokens, document]
  rfl

theorem load_of_scan_eq {source : List Char} {tree : Tree}
    (scanned : Token.scan source = ⟨tree.tokens, none⟩) (fit : tree.fits true depthLimit = true)
    (has : tree.HasValues) : load source = .ok ⟨tree.value, []⟩ := by
  have read : Node.ofTokens (Token.scan source) = .ok (some 0, (tree.nodes 0).toArray) := by
    rw [scanned, ofTokens_tokens tree fit]
  have root : valueAt (tree.layout 0) 0 = tree.value := by
    refine @valueAt_of_layout _ 0 [] tree ?_
    rw [List.drop_zero, List.append_nil]
  rw [load_of_valuation read (isValuation tree has), root]
  rw [List.size_toArray, Tree.nodes, List.length_map, length_layout]
  exact size_pos tree

end Tree

end EntityScaffold.Yaml
