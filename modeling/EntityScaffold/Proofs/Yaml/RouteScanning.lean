import EntityScaffold.Proofs.Yaml.RouteLines

/-
How the text of several routes is scanned. When all names can be keys, the tokens are those of the
entries. A name that is too long for a key stops the scan, and without a name the text begins with a
colon.
-/

namespace EntityScaffold.Yaml.RouteLines

open Scan

def entry (route : RouteLines) : Spelled × Tree := (.plain route.name, route.tree)

/-- A name can be the key of a line. -/
structure HasKey (route : RouteLines) : Prop where
  plain : IsPlainWord false route.name
  short : route.name.length ≤ 1024

variable {rest : List RouteLines} {index line column : Nat} {tokens : List Token} {tokenCount : Nat}
  {route first : RouteLines} {routes : List RouteLines} {before : Scan} {mayBeginKey : Bool}

/-- At the end of the text both blocks end. -/
theorem run_lineEnd (fuel : Nat) :
    run (fuel + 1) ⟨⟨['\n'], index, line, column⟩, 4, [0, -1], false, [none], tokens, tokenCount⟩ =
      ⟨(.blockEnd :: .blockEnd :: tokens).reverse, none⟩ := by
  have behind := @align_lines [] index line column 4 [0, -1] false tokens tokenCount 0 0
    ⟨rfl, rfl, rfl⟩
  exact run_end (behind.trans (align_end (by decide))) fuel

/-- Behind a route and an empty line the next name stands at the margin, where the block ends. -/
theorem takes_nextName {below : List Char} {after : Scan} (solid : IsSolid (route.text below))
    (takes : Takes ⟨⟨route.text below, index + 2, line + 2, 0⟩, 0, [-1], true, [none],
      .blockEnd :: tokens, tokenCount + 1⟩ after) :
    Takes ⟨⟨'\n' :: '\n' :: route.text below, index, line, column⟩, 4, [0, -1], false, [none],
      tokens, tokenCount⟩ after := by
  have aligned := (@align_lines (route.text below) index line column 4 [0, -1] false tokens
    tokenCount 1 0 solid).trans (align_less solid (by decide) (by decide))
  exact takes_of_align_eq aligned (Nat.le_add_right _ 2) takes

/-- A name at the margin, and the colon behind it. -/
theorem takes_name {below : List Char} (key : route.HasKey) :
    Takes ⟨⟨route.text below, index, line, 0⟩, 0, [-1], true, [none], tokens, tokenCount⟩
      ⟨⟨route.behindName below, index + route.name.length + 1, line, 0 + route.name.length + 1⟩, 0,
        [-1], false, [none], .value :: (Spelled.plain route.name).token :: .key :: tokens,
        tokenCount + 3⟩ :=
  takes_key key.plain rfl key.short rfl noKeys_nil (Or.inr rfl)

/-- A name that is too long for a key stops the scan. -/
theorem exists_fault_of_long {below : List Char} {indent : Int} {outer : List Int}
    (word : IsPlainWord false route.name) (long : 1024 < route.name.length) (fits : indent ≤ 0) :
    ∃ last, Takes
        ⟨⟨route.text below, index, line, 0⟩, indent, outer, true, [none], tokens, tokenCount⟩ last ∧
      ∀ fuel, (last.run (fuel + 1)).fault ≠ none := by
  obtain ⟨last, name, stopped⟩ := @exists_run_of_long (route.behindName below) index line 0 indent
    outer tokens tokenCount route.name word long rfl fits
  refine ⟨last, name, fun fuel => ?_⟩
  rw [stopped]
  exact Option.some_ne_none _

theorem takes_nextRoute (key : route.HasKey) (readable : route.IsReadable) :
    ∃ last lastLine lastColumn lastCount, Takes
      ⟨⟨following (route :: rest), index, line, column⟩, 4, [0, -1], false, [none], tokens,
        tokenCount⟩
      ⟨⟨following rest, last, lastLine, lastColumn⟩, 4, [0, -1], false, [none],
        route.openTokens.reverse ++
          .value :: (Spelled.plain route.name).token :: .key :: .blockEnd :: tokens,
        lastCount⟩ := by
  obtain ⟨last, lastLine, lastColumn, lastCount, behindName⟩ :=
    @takes_behindName (index + 2 + route.name.length + 1) (line + 2) (0 + route.name.length + 1)
      (.value :: (Spelled.plain route.name).token :: .key :: .blockEnd :: tokens)
      (tokenCount + 1 + 3) route false (following rest) readable
  exact ⟨last, lastLine, lastColumn, lastCount,
    takes_nextName key.plain.isSolid ((takes_name key).trans behindName)⟩

/-- Behind a route, the further ones are scanned up to the end of the text. -/
theorem exists_end (keys : ∀ route ∈ routes, route.HasKey)
    (readable : ∀ route ∈ routes, route.IsReadable)
    (reached : Takes before ⟨⟨following routes, index, line, column⟩, 4, [0, -1], false, [none],
      tokens, tokenCount⟩) :
    ∃ last, Takes before last ∧ ∀ fuel, last.run (fuel + 1) =
      ⟨tokens.reverse ++ .blockEnd :: (Tree.entryTokens true false (routes.map entry) ++
        [.blockEnd]), none⟩ := by
  induction routes generalizing index line column tokens tokenCount with
  | nil =>
      refine ⟨_, reached, fun fuel => ?_⟩
      rw [following, run_lineEnd]
      simp [Tree.entryTokens]
  | cons route rest ih =>
      obtain ⟨key, keysLater⟩ := List.forall_mem_cons.mp keys
      obtain ⟨here, later⟩ := List.forall_mem_cons.mp readable
      obtain ⟨_, _, _, _, next⟩ := takes_nextRoute key here
      obtain ⟨last, takes, ends⟩ := ih keysLater later (reached.trans next)
      refine ⟨last, takes, fun fuel => ?_⟩
      rw [ends]
      simp [Tree.entryTokens, entry, tokens_tree, Spelled.plain]

/-- Behind a route, a name that is too long stops the scan. -/
theorem exists_fault (words : ∀ route ∈ routes, IsPlainWord false route.name)
    (readable : ∀ route ∈ routes, route.IsReadable)
    (long : ∃ route ∈ routes, 1024 < route.name.length)
    (reached : Takes before ⟨⟨following routes, index, line, column⟩, 4, [0, -1], false, [none],
      tokens, tokenCount⟩) :
    ∃ last, Takes before last ∧ ∀ fuel, (last.run (fuel + 1)).fault ≠ none := by
  induction routes generalizing index line column tokens tokenCount with
  | nil =>
      obtain ⟨route, impossible, _⟩ := long
      cases impossible
  | cons route rest ih =>
      obtain ⟨word, wordsLater⟩ := List.forall_mem_cons.mp words
      obtain ⟨here, later⟩ := List.forall_mem_cons.mp readable
      by_cases short : route.name.length ≤ 1024
      · obtain ⟨_, _, _, _, next⟩ := @takes_nextRoute rest index line column tokens tokenCount route
          ⟨word, short⟩ here
        obtain ⟨other, listed, tooLong⟩ := long
        have inRest : other ∈ rest := (List.mem_cons.mp listed).resolve_left fun same =>
          Nat.not_le.mpr tooLong (same ▸ short)
        exact ih wordsLater later ⟨other, inRest, tooLong⟩ (reached.trans next)
      · obtain ⟨last, name, faulty⟩ :=
          exists_fault_of_long word (Nat.not_le.mp short) (Int.le_refl 0)
        exact ⟨last, reached.trans (takes_nextName word.isSolid name), faulty⟩

/-- A text that begins with a word begins with no mark of the byte order. -/
theorem noMark_text {below : List Char} (word : IsPlainWord false route.name) :
    ((route.text below).headD '\x00' == '\uFEFF') = false := by
  have inLine := word.isInLine
  obtain ⟨letter, more, named, _⟩ := word.begins
  rw [named] at inLine
  rw [text, named]
  have here := inLine letter List.mem_cons_self
  simp only [isInLine, Bool.and_eq_true, bne_iff_ne] at here
  exact beq_false_of_ne here.2

theorem takes_firstName {below : List Char} (key : first.HasKey) :
    Takes (start (first.text below))
      ⟨⟨first.behindName below, 0 + first.name.length + 1, 0, 0 + first.name.length + 1⟩, 0, [-1],
        false, [none],
        [.value, (Spelled.plain first.name).token, .key, .blockMappingStart], 4⟩ :=
  takes_firstKey key.plain key.short rfl (by decide)

theorem scan_text (allowed : (first.text (following routes)).all isAllowed = true)
    (keys : ∀ route ∈ first :: routes, route.HasKey)
    (readable : ∀ route ∈ first :: routes, route.IsReadable) :
    Token.scan (first.text (following routes)) =
      ⟨(Tree.map true ((first :: routes).map entry)).tokens, none⟩ := by
  obtain ⟨key, keysLater⟩ := List.forall_mem_cons.mp keys
  obtain ⟨here, later⟩ := List.forall_mem_cons.mp readable
  obtain ⟨_, _, _, _, behindName⟩ := takes_behindName here
  obtain ⟨last, takes, ends⟩ := exists_end keysLater later ((takes_firstName key).trans behindName)
  obtain ⟨fuel, scanned⟩ := exists_scan_eq allowed (noMark_text key.plain) takes
  rw [scanned, ends]
  simp [Tree.tokens, Tree.entryTokens, entry, tokens_tree, Spelled.plain, Spelled.token]

theorem fault_of_long_name (allowed : (first.text (following routes)).all isAllowed = true)
    (words : ∀ route ∈ first :: routes, IsPlainWord false route.name)
    (readable : ∀ route ∈ first :: routes, route.IsReadable)
    (long : ∃ route ∈ first :: routes, 1024 < route.name.length) :
    (Token.scan (first.text (following routes))).fault ≠ none := by
  obtain ⟨word, wordsLater⟩ := List.forall_mem_cons.mp words
  obtain ⟨here, later⟩ := List.forall_mem_cons.mp readable
  have stopped : ∃ last, Takes (start (first.text (following routes))) last ∧
      ∀ fuel, (last.run (fuel + 1)).fault ≠ none := by
    by_cases short : first.name.length ≤ 1024
    · obtain ⟨_, _, _, _, behindName⟩ := takes_behindName here
      obtain ⟨other, listed, tooLong⟩ := long
      have inRest : other ∈ routes := (List.mem_cons.mp listed).resolve_left fun same =>
        Nat.not_le.mpr tooLong (same ▸ short)
      exact exists_fault wordsLater later ⟨other, inRest, tooLong⟩
        ((takes_firstName ⟨word, short⟩).trans behindName)
    · exact exists_fault_of_long word (Nat.not_le.mp short) (by decide)
  obtain ⟨last, takes, faulty⟩ := stopped
  obtain ⟨fuel, scanned⟩ := exists_scan_eq allowed (noMark_text word) takes
  rw [scanned]
  exact faulty fuel

/-- Without a name, a text begins with a mapping whose first key is missing. -/
theorem exists_scan_nameless (allowed : (first.text (following routes)).all isAllowed = true)
    (nameless : first.name = []) (here : first.IsReadable)
    (keys : ∀ route ∈ routes, route.HasKey) (readable : ∀ route ∈ routes, route.IsReadable) :
    ∃ tokens, Token.scan (first.text (following routes)) =
      ⟨.blockMappingStart :: .value :: tokens, none⟩ := by
  have begins : first.text (following routes) = ':' :: first.behindName (following routes) := by
    rw [text, nameless]
    rfl
  rw [begins] at allowed ⊢
  have noKey : NoKeys [none] := noKeys_cons noKeys_nil
  have colon : Takes (start (':' :: first.behindName (following routes)))
      ⟨⟨first.behindName (following routes), 1, 0, 1⟩, 0, [-1], true, [none],
        [.value, .blockMappingStart], 2⟩ :=
    takes_token (align_self ⟨rfl, rfl, rfl⟩ (isFresh_of_noKeys noKey) (by decide)) rfl
      ((takeToken_colon rfl).trans rfl) (Nat.lt_succ_self _)
  obtain ⟨_, _, _, _, behindName⟩ := takes_behindName here
  obtain ⟨last, takes, ends⟩ := exists_end keys readable (colon.trans behindName)
  obtain ⟨fuel, scanned⟩ := exists_scan_eq allowed rfl takes
  refine ⟨first.openTokens ++
    .blockEnd :: (Tree.entryTokens true false (routes.map entry) ++ [.blockEnd]), ?_⟩
  rw [scanned, ends]
  simp

end EntityScaffold.Yaml.RouteLines
