import EntityScaffold.Proofs.Yaml.Valuation

/-
What a text without tags, anchors and aliases writes: scalars, flow collections, and block mappings.
Such a tree has its tokens, and nodes that are numbered in the order in which they begin. When the
scalars have values, the nodes have the value of the tree.
-/

namespace EntityScaffold.Yaml

/-- A scalar as it is written, with quotes or without. -/
structure Spelled where
  text : CodeText
  isPlain : Bool

namespace Spelled

def token (spelled : Spelled) : Token := .scalar spelled.text spelled.isPlain

def tag (spelled : Spelled) : Tag := Node.scalarTag spelled.isPlain spelled.text none

def node (spelled : Spelled) : Node := ⟨spelled.tag, .scalar spelled.text⟩

def value (spelled : Spelled) : Value :=
  match Scalar.valueOf spelled.tag spelled.text with
  | .ok value => value
  | .error _ => .null

/-- A scalar has a value, and is no number with a fraction. -/
structure HasValue (spelled : Spelled) : Prop where
  isScalar : Builder.isScalarTag spelled.tag = true
  notFloat : spelled.tag ≠ .float
  stands : Scalar.valueOf spelled.tag spelled.text = .ok spelled.value

end Spelled

inductive Tree where
  | scalar (spelled : Spelled)
  | list (items : List Tree)
  | map (inBlock : Bool) (entries : List (Spelled × Tree))

namespace Tree

mutual

def tokens : Tree → List Token
  | .scalar spelled => [spelled.token]
  | .list items => .flowSequenceStart :: itemTokens true items ++ [.flowSequenceEnd]
  | .map true entries => .blockMappingStart :: entryTokens true true entries ++ [.blockEnd]
  | .map false entries => .flowMappingStart :: entryTokens false true entries ++ [.flowMappingEnd]

/-- The tokens of the items of a list, with a comma in front of each but the first. -/
def itemTokens (isFirst : Bool) : List Tree → List Token
  | [] => []
  | item :: rest =>
    (if isFirst then [] else [.flowEntry]) ++ tokens item ++ itemTokens false rest

/-- The tokens of the entries of a mapping. In a flow mapping commas stand between them. -/
def entryTokens (inBlock isFirst : Bool) : List (Spelled × Tree) → List Token
  | [] => []
  | (key, value) :: rest =>
    (if inBlock || isFirst then [] else [.flowEntry]) ++
      .key :: key.token :: .value :: tokens value ++ entryTokens inBlock false rest

end

mutual

def size : Tree → Nat
  | .scalar _ => 1
  | .list items => sizeOfItems items + 1
  | .map _ entries => sizeOfEntries entries + 1

def sizeOfItems : List Tree → Nat
  | [] => 0
  | item :: rest => size item + sizeOfItems rest

def sizeOfEntries : List (Spelled × Tree) → Nat
  | [] => 0
  | (_, value) :: rest => size value + 1 + sizeOfEntries rest

end

mutual

def value : Tree → Value
  | .scalar spelled => spelled.value
  | .list items => .list (itemValues items)
  | .map _ entries => .map (Ordered.ofListBy Value.sameKey (entryValues entries))

def itemValues : List Tree → List Value
  | [] => []
  | item :: rest => value item :: itemValues rest

def entryValues : List (Spelled × Tree) → List (Value × Value)
  | [] => []
  | (key, item) :: rest => (key.value, value item) :: entryValues rest

end

/-- The numbers of the items of a list, the first one being given. -/
def itemStarts (number : Nat) : List Tree → List Nat
  | [] => []
  | item :: rest => number :: itemStarts (number + item.size) rest

/-- The numbers of the keys and values of a mapping, that of the first key being given. -/
def entryStarts (number : Nat) : List (Spelled × Tree) → List (Nat × Nat)
  | [] => []
  | (_, value) :: rest => (number, number + 1) :: entryStarts (number + (value.size + 1)) rest

mutual

/-- The nodes of a tree, the number of the first one being given, each with its value. -/
def layout (number : Nat) : Tree → List (Node × Value)
  | .scalar spelled => [(spelled.node, spelled.value)]
  | .list items =>
    (⟨.sequence, .sequence (itemStarts (number + 1) items)⟩, .list (itemValues items)) ::
      itemLayout (number + 1) items
  | .map _ entries =>
    (⟨.mapping, .mapping (entryStarts (number + 1) entries)⟩,
        .map (Ordered.ofListBy Value.sameKey (entryValues entries))) ::
      entryLayout (number + 1) entries

def itemLayout (number : Nat) : List Tree → List (Node × Value)
  | [] => []
  | item :: rest => layout number item ++ itemLayout (number + item.size) rest

def entryLayout (number : Nat) : List (Spelled × Tree) → List (Node × Value)
  | [] => []
  | (key, value) :: rest =>
    (key.node, key.value) :: layout (number + 1) value ++
      entryLayout (number + (value.size + 1)) rest

end

mutual

theorem length_layout (number : Nat) : (tree : Tree) → (tree.layout number).length = tree.size
  | .scalar _ => rfl
  | .list items => by rw [layout, size, List.length_cons, length_itemLayout]
  | .map _ entries => by rw [layout, size, List.length_cons, length_entryLayout]

theorem length_itemLayout (number : Nat) :
    (items : List Tree) → (itemLayout number items).length = sizeOfItems items
  | [] => rfl
  | item :: rest => by
      rw [itemLayout, sizeOfItems, List.length_append, length_layout, length_itemLayout]

theorem length_entryLayout (number : Nat) :
    (entries : List (Spelled × Tree)) → (entryLayout number entries).length = sizeOfEntries entries
  | [] => rfl
  | (key, value) :: rest => by
      rw [entryLayout, sizeOfEntries, List.length_append, List.length_cons, length_layout,
        length_entryLayout]

end

mutual

/-- Block collections stand in block collections only, and not too many collections stand in one
another. -/
def fits (inBlock : Bool) : (depth : Nat) → Tree → Bool
  | _, .scalar _ => true
  | 0, _ => false
  | depth + 1, .list items => itemsFit depth items
  | depth + 1, .map block entries => (inBlock || !block) && entriesFit block depth entries

def itemsFit (depth : Nat) : List Tree → Bool
  | [] => true
  | item :: rest => fits false depth item && itemsFit depth rest

def entriesFit (inBlock : Bool) (depth : Nat) : List (Spelled × Tree) → Bool
  | [] => true
  | (_, value) :: rest => fits inBlock depth value && entriesFit inBlock depth rest

end

theorem exists_depth_of_list {items : List Tree} {inBlock : Bool} {depth : Nat}
    (fit : (list items).fits inBlock depth = true) :
    ∃ less, depth = less + 1 ∧ itemsFit less items = true := by
  cases depth with
  | zero => cases fit
  | succ less => exact ⟨less, rfl, fit⟩

theorem exists_depth_of_map {entries : List (Spelled × Tree)} {inBlock block : Bool} {depth : Nat}
    (fit : (map block entries).fits inBlock depth = true) :
    ∃ less, depth = less + 1 ∧ (block = true → inBlock = true) ∧
      entriesFit block less entries = true := by
  cases depth with
  | zero => cases fit
  | succ less =>
      obtain ⟨allowed, fit⟩ := Bool.and_eq_true_iff.mp fit
      refine ⟨less, rfl, fun isBlock => ?_, fit⟩
      simpa [isBlock] using allowed

/-! ### Values -/

mutual

def HasValues : Tree → Prop
  | .scalar spelled => spelled.HasValue
  | .list items => ItemsHaveValues items
  | .map _ entries => EntriesHaveValues entries

def ItemsHaveValues : List Tree → Prop
  | [] => True
  | item :: rest => HasValues item ∧ ItemsHaveValues rest

def EntriesHaveValues : List (Spelled × Tree) → Prop
  | [] => True
  | (key, value) :: rest => key.HasValue ∧ HasValues value ∧ EntriesHaveValues rest

end

theorem size_pos (tree : Tree) : 0 < tree.size := by
  cases tree <;> exact Nat.succ_pos _

theorem mem_itemStarts {number start : Nat} {items : List Tree}
    (member : start ∈ itemStarts number items) :
    number ≤ start ∧ start < number + sizeOfItems items := by
  induction items generalizing number with
  | nil => cases member
  | cons item rest ih =>
      have some_ := size_pos item
      rw [sizeOfItems]
      rcases List.mem_cons.mp member with here | later
      · omega
      · have range := ih later
        omega

theorem mem_entryStarts {number : Nat} {start : Nat × Nat} {entries : List (Spelled × Tree)}
    (member : start ∈ entryStarts number entries) :
    number ≤ start.1 ∧ start.1 < start.2 ∧ start.2 < number + sizeOfEntries entries := by
  induction entries generalizing number with
  | nil => cases member
  | cons entry rest ih =>
      obtain ⟨key, value⟩ := entry
      have some_ := size_pos value
      rw [sizeOfEntries]
      rcases List.mem_cons.mp member with here | later
      · rw [here]
        dsimp only
        omega
      · have range := ih later
        omega

theorem pairwise_entryStarts (number : Nat) (entries : List (Spelled × Tree)) :
    (entryStarts number entries).Pairwise fun left right => left.1 ≠ right.1 := by
  induction entries generalizing number with
  | nil => exact List.Pairwise.nil
  | cons entry rest ih =>
      refine List.pairwise_cons.mpr ⟨fun other member => ?_, ih _⟩
      have range := mem_entryStarts member
      dsimp only
      omega

section Placed

variable (all : List (Node × Value))

def allNodes : Array Node := (all.map Prod.fst).toArray

def valueAt (number : Nat) : Value := (all[number]?.map Prod.snd).getD .null

variable {all} {number : Nat} {behind : List (Node × Value)}

theorem getElem?_of_drop {pair : Node × Value} (here : all.drop number = pair :: behind) :
    (allNodes all)[number]? = some pair.1 ∧ valueAt all number = pair.2 := by
  have there : all[number]? = some pair := by
    rw [← Nat.add_zero number, ← List.getElem?_drop, here]
    rfl
  rw [allNodes, List.getElem?_toArray, List.getElem?_map, valueAt, there]
  exact ⟨rfl, rfl⟩

theorem drop_of_drop {part : List (Node × Value)} {length : Nat}
    (here : all.drop number = part ++ behind) (long : part.length = length) :
    all.drop (number + length) = behind := by
  rw [← List.drop_drop, here, ← long, List.drop_left]

theorem valueAt_of_layout {tree : Tree} (here : all.drop number = tree.layout number ++ behind) :
    valueAt all number = tree.value := by
  cases tree with
  | scalar spelled => exact (getElem?_of_drop here).2
  | list items => exact (getElem?_of_drop here).2
  | map inBlock entries => exact (getElem?_of_drop here).2

theorem valueAt_itemStarts {items : List Tree}
    (here : all.drop number = itemLayout number items ++ behind) :
    (itemStarts number items).map (valueAt all) = itemValues items := by
  induction items generalizing number with
  | nil => rfl
  | cons item rest ih =>
      rw [itemLayout, List.append_assoc] at here
      rw [itemStarts, List.map_cons, valueAt_of_layout here,
        ih (drop_of_drop here (length_layout _ _)), itemValues]

/-- What stands at the keys and values of a mapping. -/
theorem valueAt_entryStarts {entries : List (Spelled × Tree)}
    (here : all.drop number = entryLayout number entries ++ behind) :
    (entryStarts number entries).map (Prod.map (valueAt all) (valueAt all)) = entryValues entries ∧
      ∀ start ∈ entryStarts number entries,
        ∃ entry ∈ entries, (allNodes all)[start.1]? = some entry.1.node := by
  induction entries generalizing number with
  | nil => exact ⟨rfl, fun _ none => absurd none List.not_mem_nil⟩
  | cons entry rest ih =>
      obtain ⟨key, value⟩ := entry
      rw [entryLayout, List.append_assoc, List.cons_append] at here
      obtain ⟨node, isKey⟩ := getElem?_of_drop here
      have ofValue := drop_of_drop (List.singleton_append ▸ here) List.length_singleton
      have later := drop_of_drop ofValue (length_layout _ _)
      rw [Nat.add_assoc, Nat.add_comm 1] at later
      obtain ⟨values, nodes⟩ := ih later
      refine ⟨?_, List.forall_mem_cons.mpr ⟨⟨_, List.mem_cons_self, node⟩, fun start listed => ?_⟩⟩
      · rw [entryStarts, List.map_cons, Prod.map_apply, isKey, valueAt_of_layout ofValue, values,
          entryValues]
      · obtain ⟨entry, member, standing⟩ := nodes start listed
        exact ⟨entry, List.mem_cons_of_mem _ member, standing⟩

/-- The keys of a mapping have numbers of their own, so that those are one which have one value. -/
theorem keptEntries_entryStarts (entries : List (Spelled × Tree)) :
    Ordered.ofListBy Value.sameKey
        ((entryStarts number entries).map (Prod.map (valueAt all) (valueAt all))) =
      (keptEntries (valueAt all) (entryStarts number entries)).map
        (Prod.map (valueAt all) (valueAt all)) := by
  refine Ordered.ofListBy_map ((pairwise_entryStarts number entries).imp fun apart => ?_)
  rw [beq_false_of_ne apart, Bool.false_or]

/-- A node of a document has its value, and begins before its parts. -/
def IsRightAt (all : List (Node × Value)) (number : Nat) : Prop :=
  ∀ node, (allNodes all)[number]? = some node →
    HasValue (allNodes all) (valueAt all) number node ∧
      ∀ part ∈ node.content.parts, number < part ∧ part < (allNodes all).size

theorem le_size_of_drop {part : List (Node × Value)} {length : Nat}
    (here : all.drop number = part ++ behind) (long : part.length = length) (some_ : 0 < length) :
    number + length ≤ (allNodes all).size := by
  have whole := congrArg List.length here
  rw [List.length_drop, List.length_append, long] at whole
  have same : (allNodes all).size = all.length := by
    rw [allNodes, List.size_toArray, List.length_map]
  omega

mutual

theorem isRightAt_layout {number : Nat} {behind : List (Node × Value)} : (tree : Tree) →
    tree.HasValues → all.drop number = tree.layout number ++ behind →
    ∀ other, number ≤ other → other < number + tree.size → IsRightAt all other
  | .scalar spelled, has, here, other, low, high => by
      have same : other = number := by rw [size] at high; omega
      subst same
      obtain ⟨there, isValue⟩ := getElem?_of_drop here
      rintro node standing
      cases there.symm.trans standing
      refine ⟨.scalar has.isScalar has.notFloat ?_, fun part none => absurd none List.not_mem_nil⟩
      rw [isValue]
      exact has.stands
  | .list items, has, here, other, low, high => by
      rw [layout, List.cons_append] at here
      rw [size] at high
      have inside := drop_of_drop (List.singleton_append ▸ here) List.length_singleton
      -- the node of the list itself, or one of the nodes behind it
      by_cases same : other = number
      · subst same
        obtain ⟨there, isValue⟩ := getElem?_of_drop here
        rintro node standing
        cases there.symm.trans standing
        refine ⟨.sequence ?_, fun part listed => ?_⟩
        · rw [isValue, valueAt_itemStarts inside]
        · have range := mem_itemStarts listed
          have bound := le_size_of_drop inside (length_itemLayout _ _) (by omega)
          omega
      · exact isRightAt_itemLayout items has inside other (by omega) (by omega)
  | .map inBlock entries, has, here, other, low, high => by
      rw [layout, List.cons_append] at here
      rw [size] at high
      have inside := drop_of_drop (List.singleton_append ▸ here) List.length_singleton
      by_cases same : other = number
      · subst same
        obtain ⟨there, isValue⟩ := getElem?_of_drop here
        obtain ⟨values, scalars⟩ := valueAt_entryStarts inside
        rintro node standing
        cases there.symm.trans standing
        refine ⟨.mapping (fun start listed => ?_) ?_, fun part listed => ?_⟩
        · obtain ⟨entry, _, standing⟩ := scalars start listed
          exact ⟨_, _, standing⟩
        · rw [isValue, ← values, keptEntries_entryStarts]
        · obtain ⟨start, member, isPart⟩ := List.mem_flatMap.mp listed
          have range := mem_entryStarts member
          have bound := le_size_of_drop inside (length_entryLayout _ _) (by omega)
          rcases List.mem_cons.mp isPart with isKey | isItem
          · omega
          · have isItem := List.mem_singleton.mp isItem
            omega
      · exact isRightAt_entryLayout entries has inside other (by omega) (by omega)

theorem isRightAt_itemLayout {number : Nat} {behind : List (Node × Value)} :
    (items : List Tree) → ItemsHaveValues items →
    all.drop number = itemLayout number items ++ behind →
    ∀ other, number ≤ other → other < number + sizeOfItems items → IsRightAt all other
  | [], _, _, other, low, high => absurd high (Nat.not_lt.mpr low)
  | item :: rest, has, here, other, low, high => by
      rw [itemLayout, List.append_assoc] at here
      rw [sizeOfItems] at high
      by_cases inItem : other < number + item.size
      · exact isRightAt_layout item has.1 here other low inItem
      · exact isRightAt_itemLayout rest has.2 (drop_of_drop here (length_layout _ _)) other
          (by omega) (by omega)

theorem isRightAt_entryLayout {number : Nat} {behind : List (Node × Value)} :
    (entries : List (Spelled × Tree)) → EntriesHaveValues entries →
    all.drop number = entryLayout number entries ++ behind →
    ∀ other, number ≤ other → other < number + sizeOfEntries entries → IsRightAt all other
  | [], _, _, other, low, high => absurd high (Nat.not_lt.mpr low)
  | (key, value) :: rest, has, here, other, low, high => by
      rw [entryLayout, List.append_assoc, List.cons_append] at here
      rw [sizeOfEntries] at high
      have ofValue := drop_of_drop (List.singleton_append ▸ here) List.length_singleton
      by_cases isKey : other < number + 1
      · exact isRightAt_layout (.scalar key) has.1 here other low isKey
      · by_cases inValue : other < number + 1 + value.size
        · exact isRightAt_layout value has.2.1 ofValue other (by omega) inValue
        · have later := drop_of_drop ofValue (length_layout _ _)
          rw [Nat.add_assoc, Nat.add_comm 1] at later
          exact isRightAt_entryLayout rest has.2.2 later other (by omega) (by omega)

end

end Placed

/-- The nodes of a tree, numbered from zero, and their values. -/
def nodes (number : Nat) (tree : Tree) : List Node := (tree.layout number).map Prod.fst

theorem isValuation (tree : Tree) (has : tree.HasValues) :
    IsValuation (tree.nodes 0).toArray (valueAt (tree.layout 0)) := by
  have right (number : Nat) (node : Node) (there : (tree.nodes 0).toArray[number]? = some node) :
      IsRightAt (tree.layout 0) number := by
    obtain ⟨inRange, _⟩ := Array.getElem?_eq_some_iff.mp there
    rw [List.size_toArray, nodes, List.length_map, length_layout] at inRange
    refine @isRightAt_layout _ 0 [] tree has ?_ number (Nat.zero_le _) ?_
    · rw [List.drop_zero, List.append_nil]
    · omega
  exact ⟨fun number node there => (right number node there node there).1,
    fun number node there => (right number node there node there).2⟩

end Tree

end EntityScaffold.Yaml
