import EntityScaffold.Proofs.Text.Pieces
import EntityScaffold.Proofs.Yaml.Scanning
import EntityScaffold.Proofs.Yaml.Tree

/-
Routes in YAML. A routing file has one entry for each route, with the path, the defaults and the
methods below the name. The names stand without quotes, so that the tokens of the file are those of
its entries as long as the names may be keys; what a name stands for is decided by its spelling.
-/

namespace EntityScaffold.Yaml

open Text (joinWith)

def Spelled.plain (chars : List Char) : Spelled := ⟨CodeText.ofChars chars, true⟩

def Spelled.quoted (chars : List Char) : Spelled := ⟨CodeText.ofChars chars, false⟩

/-- A route as the lines of a routing file declare it. -/
structure RouteLines where
  name : List Char
  path : List Char
  controller : List Char
  methods : List (List Char)

namespace RouteLines

def pathKey : List Char := ['p', 'a', 't', 'h']

def defaultsKey : List Char := ['d', 'e', 'f', 'a', 'u', 'l', 't', 's']

def controllerKey : List Char := ['_', 'c', 'o', 'n', 't', 'r', 'o', 'l', 'l', 'e', 'r']

def methodsKey : List Char := ['m', 'e', 't', 'h', 'o', 'd', 's']

def indented (count : Nat) (text : List Char) : List Char := List.replicate count ' ' ++ text

/-- The text from the methods on, from behind the defaults, and so on, up to what follows the colon
behind the name. -/
def fromMethods (route : RouteLines) (below : List Char) : List Char :=
  joinWith [',', ' '] route.methods ++ ']' :: below

def behindDefaults (route : RouteLines) (below : List Char) : List Char :=
  '\n' :: indented 4 (methodsKey ++ ':' :: indented 2 ('[' :: route.fromMethods below))

def fromController (route : RouteLines) (below : List Char) : List Char :=
  '\x27' :: (route.controller ++ '\x27' :: indented 1 ('\x7d' :: route.behindDefaults below))

def fromDefaults (route : RouteLines) (below : List Char) : List Char :=
  defaultsKey ++ ':' :: indented 1 ('\x7b' ::
    indented 1 (controllerKey ++ ':' :: indented 1 (route.fromController below)))

def behindName (route : RouteLines) (below : List Char) : List Char :=
  '\n' :: indented 4 (pathKey ++ ':' ::
    indented 5 (route.path ++ '\n' :: indented 4 (route.fromDefaults below)))

def text (route : RouteLines) (below : List Char) : List Char :=
  route.name ++ ':' :: route.behindName below

/-- The rest of a file behind a route, an empty line standing in front of each further one. -/
def following : List RouteLines → List Char
  | [] => ['\n']
  | route :: rest => '\n' :: '\n' :: route.text (following rest)

/-- What is written below the name. -/
def tree (route : RouteLines) : Tree :=
  .map true
    [(.plain pathKey, .scalar (.plain route.path)),
     (.plain defaultsKey, .map false [(.plain controllerKey, .scalar (.quoted route.controller))]),
     (.plain methodsKey, .list (route.methods.map fun method => .scalar (.plain method)))]

/-- A route can be read: the path and the methods need no quotes, and the controller has none. -/
structure IsReadable (route : RouteLines) : Prop where
  path : IsPlainWord false route.path
  inLine : ∀ char ∈ route.controller, isInLine char = true
  quoted : ∀ char ∈ route.controller, isQuotedChar char = true
  methods : route.methods ≠ []
  words : ∀ method ∈ route.methods, IsPlainWord true method ∧ method.length ≤ 1024

/-- The tokens below a name, up to the end of the methods. -/
def openTokens (route : RouteLines) : List Token :=
  [.blockMappingStart, .key, (Spelled.plain pathKey).token, .value, (Spelled.plain route.path).token,
   .key, (Spelled.plain defaultsKey).token, .value, .flowMappingStart, .key,
   (Spelled.plain controllerKey).token, .value, (Spelled.quoted route.controller).token,
   .flowMappingEnd, .key, (Spelled.plain methodsKey).token, .value, .flowSequenceStart] ++
  Tree.itemTokens true (route.methods.map fun method => .scalar (.plain method)) ++
  [.flowSequenceEnd]

theorem tokens_tree (route : RouteLines) : route.tree.tokens = route.openTokens ++ [.blockEnd] := by
  simp [tree, openTokens, Tree.tokens, Tree.entryTokens]

open Scan

variable {rest : List Char} {index line column : Nat} {indent : Int} {outer : List Int}
  {tokens : List Token} {tokenCount : Nat} {methods : List (List Char)}

/-- The items of a list are scanned up to its end. -/
theorem takes_items {count : Nat} (listed : methods ≠ [])
    (words : ∀ method ∈ methods, IsPlainWord true method ∧ method.length ≤ 1024) :
    ∃ last lastColumn lastCount, Takes
      ⟨⟨indented count (joinWith [',', ' '] methods ++ ']' :: rest), index, line, column⟩, indent,
        outer, true, [none, none], tokens, tokenCount⟩
      ⟨⟨rest, last, line, lastColumn⟩, indent, outer, false, [none],
        .flowSequenceEnd :: ((Tree.itemTokens true (methods.map fun method =>
          .scalar (.plain method))).reverse ++ tokens), lastCount⟩ := by
  induction methods generalizing count index column tokens tokenCount with
  | nil => exact absurd rfl listed
  | cons method others ih =>
      obtain ⟨⟨plain, short⟩, later⟩ := List.forall_mem_cons.mp words
      have noKey : NoKeys [none] := noKeys_cons noKeys_nil
      have inFlow : 0 < [(none : Option PendingKey)].length := Nat.one_pos
      cases others with
      | nil =>
          iterate 3 apply Exists.intro
          refine takes_behindSpaces plain.isSolid ?_
          refine (takes_word plain rfl rfl ⟨rfl, rfl, rfl⟩ noKey (Or.inl inFlow)).trans ?_
          exact takes_mark (align_word short ⟨rfl, rfl, rfl⟩ noKey (Or.inl inFlow)) rfl
      | cons next more =>
          obtain ⟨last, lastColumn, lastCount, others⟩ := @ih
            (index + count + method.length + 1) (column + count + method.length + 1)
            (.flowEntry :: (Spelled.plain method).token :: tokens) (tokenCount + 1 + 1) 1
            (List.cons_ne_nil _ _) later
          have text : joinWith [',', ' '] (method :: next :: more) ++ ']' :: rest =
              method ++ ',' :: indented 1 (joinWith [',', ' '] (next :: more) ++ ']' :: rest) := by
            simp [joinWith, indented]
          have items : (Tree.itemTokens true ((method :: next :: more).map fun method =>
              .scalar (.plain method))).reverse ++ tokens =
              (Tree.itemTokens true ((next :: more).map fun method =>
                .scalar (.plain method))).reverse ++
                  .flowEntry :: (Spelled.plain method).token :: tokens := by
            simp [Tree.itemTokens, Tree.tokens]
          rw [text, items]
          refine ⟨last, lastColumn, lastCount, takes_behindSpaces plain.isSolid ?_⟩
          refine (takes_word plain rfl rfl ⟨rfl, rfl, rfl⟩ noKey (Or.inl inFlow)).trans ?_
          refine (takes_mark (align_word short ⟨rfl, rfl, rfl⟩ noKey (Or.inl inFlow)) rfl).trans ?_
          exact others

theorem isPlainWord_keys :
    IsPlainWord false pathKey ∧ IsPlainWord false defaultsKey ∧ IsPlainWord true controllerKey ∧
      IsPlainWord false methodsKey :=
  ⟨⟨⟨_, _, rfl, rfl, by decide⟩, Text.forall_mem_of_all (by decide)⟩,
    ⟨⟨_, _, rfl, rfl, by decide⟩, Text.forall_mem_of_all (by decide)⟩,
    ⟨⟨_, _, rfl, rfl, by decide⟩, Text.forall_mem_of_all (by decide)⟩,
    ⟨⟨_, _, rfl, rfl, by decide⟩, Text.forall_mem_of_all (by decide)⟩⟩

variable {route : RouteLines} {mayBeginKey : Bool} {below : List Char}

/-- The line of the path, up to the next key. -/
theorem takes_pathLine (readable : route.IsReadable) :
    ∃ last lastLine, Takes
      ⟨⟨route.behindName below, index, line, column⟩, 0, [-1], mayBeginKey, [none], tokens,
        tokenCount⟩
      ⟨⟨route.fromDefaults below, last, lastLine, 4⟩, 4, [0, -1], true, [none],
        (Spelled.plain route.path).token :: .value :: (Spelled.plain pathKey).token :: .key ::
          .blockMappingStart :: tokens, tokenCount + 5⟩ := by
  obtain ⟨isPath, isDefaults, _, _⟩ := isPlainWord_keys
  apply Exists.intro
  apply Exists.intro
  refine @takes_behindLines _ _ index line column 0 [-1] mayBeginKey tokens tokenCount 0 4
    isPath.isSolid ?_
  refine (takes_firstKey isPath (by decide) rfl (by decide)).trans ?_
  refine takes_behindSpaces readable.path.isSolid ?_
  exact takes_line readable.path isDefaults.isSolid (by decide) (by decide) rfl

/-- The line of the defaults, up to its end. -/
theorem takes_defaultsLine (readable : route.IsReadable) :
    ∃ last lastLine lastColumn lastCount, Takes
      ⟨⟨route.fromDefaults below, index, line, 4⟩, 4, [0, -1], true, [none], tokens, tokenCount⟩
      ⟨⟨route.behindDefaults below, last, lastLine, lastColumn⟩, 4, [0, -1], false, [none],
        .flowMappingEnd :: (Spelled.quoted route.controller).token :: .value ::
          (Spelled.plain controllerKey).token :: .key :: .flowMappingStart :: .value ::
          (Spelled.plain defaultsKey).token :: .key :: tokens, lastCount⟩ := by
  obtain ⟨_, isDefaults, isController, _⟩ := isPlainWord_keys
  have noKey : NoKeys [none] := noKeys_cons noKeys_nil
  have inFlow : 1 < [(none : Option PendingKey), none].length := Nat.lt_succ_self 1
  iterate 4 apply Exists.intro
  refine (takes_key isDefaults rfl (by decide) rfl noKeys_nil (Or.inr rfl)).trans ?_
  refine takes_behindSpaces ⟨rfl, rfl, rfl⟩ ?_
  refine (takes_mark (align_self ⟨rfl, rfl, rfl⟩ (isFresh_of_noKeys noKey) (by decide)) rfl).trans ?_
  refine takes_behindSpaces isController.isSolid ?_
  refine (takes_key isController rfl (by decide) rfl noKey (Or.inl Nat.one_pos)).trans ?_
  refine takes_behindSpaces ⟨rfl, rfl, rfl⟩ ?_
  refine (takes_quoted readable.inLine readable.quoted rfl).trans ?_
  refine takes_behindSpaces ⟨rfl, rfl, rfl⟩ ?_
  exact takes_mark
    (align_self ⟨rfl, rfl, rfl⟩ (isFresh_of_noKeys (noKeys_cons noKey)) (Or.inl inFlow)) rfl

/-- The line of the methods, up to the end of the list. -/
theorem takes_methodsLine (readable : route.IsReadable) :
    ∃ last lastLine lastColumn lastCount, Takes
      ⟨⟨route.behindDefaults below, index, line, column⟩, 4, [0, -1], false, [none], tokens,
        tokenCount⟩
      ⟨⟨below, last, lastLine, lastColumn⟩, 4, [0, -1], false, [none],
        .flowSequenceEnd :: ((Tree.itemTokens true (route.methods.map fun method =>
          .scalar (.plain method))).reverse ++ .flowSequenceStart :: .value ::
            (Spelled.plain methodsKey).token :: .key :: tokens), lastCount⟩ := by
  obtain ⟨_, _, _, isMethods⟩ := isPlainWord_keys
  have noKey : NoKeys [none] := noKeys_cons noKeys_nil
  obtain ⟨last, lastColumn, lastCount, items⟩ := @takes_items below
    (index + 1 + 0 + 4 + methodsKey.length + 1 + 2 + 1) (line + 1 + 0)
    (4 + methodsKey.length + 1 + 2 + 1) 4 [0, -1]
    (.flowSequenceStart :: .value :: (Spelled.plain methodsKey).token :: .key :: tokens)
    (tokenCount + 3 + 1) route.methods 0 readable.methods readable.words
  refine ⟨last, line + 1 + 0, lastColumn, lastCount, ?_⟩
  refine @takes_behindLines _ _ index line column 4 [0, -1] false tokens tokenCount 0 4
    isMethods.isSolid ?_
  refine (takes_key isMethods rfl (by decide) rfl noKeys_nil (Or.inr rfl)).trans ?_
  refine takes_behindSpaces ⟨rfl, rfl, rfl⟩ ?_
  exact (takes_mark (align_self ⟨rfl, rfl, rfl⟩ (isFresh_of_noKeys noKey) (by decide)) rfl).trans items

/-- From behind a name, the lines of a route are scanned up to the end of its methods. -/
theorem takes_behindName (readable : route.IsReadable) :
    ∃ last lastLine lastColumn lastCount, Takes
      ⟨⟨route.behindName below, index, line, column⟩, 0, [-1], mayBeginKey, [none], tokens,
        tokenCount⟩
      ⟨⟨below, last, lastLine, lastColumn⟩, 4, [0, -1], false, [none],
        route.openTokens.reverse ++ tokens, lastCount⟩ := by
  obtain ⟨_, _, path⟩ := takes_pathLine readable
  obtain ⟨_, _, _, _, defaults⟩ := takes_defaultsLine readable
  obtain ⟨last, lastLine, lastColumn, lastCount, methods⟩ := takes_methodsLine readable
  have same : route.openTokens.reverse ++ tokens =
      .flowSequenceEnd :: ((Tree.itemTokens true (route.methods.map fun method =>
        .scalar (.plain method))).reverse ++ .flowSequenceStart :: .value ::
          (Spelled.plain methodsKey).token :: .key :: .flowMappingEnd ::
          (Spelled.quoted route.controller).token :: .value ::
          (Spelled.plain controllerKey).token :: .key :: .flowMappingStart :: .value ::
          (Spelled.plain defaultsKey).token :: .key :: (Spelled.plain route.path).token ::
          .value :: (Spelled.plain pathKey).token :: .key :: .blockMappingStart :: tokens) := by
    simp [openTokens]
  rw [same]
  exact ⟨last, lastLine, lastColumn, lastCount, path.trans (defaults.trans methods)⟩

end RouteLines

end EntityScaffold.Yaml
