import EntityScaffold.Proofs.Yaml.RouteLines
import EntityScaffold.Proofs.Yaml.Unreadable

/-
Fields in YAML. A field file has the identifier in its first line and one indented line for each field,
with the name and the type. Both stand without quotes. The lines are scanned one after another, each
from behind the colon of its name up to the next name, unless a name is too long for a key.
-/

namespace EntityScaffold.Yaml

/-- A field as a line of a file declares it. -/
structure FieldLine where
  name : List Char
  type : List Char

namespace FieldLine

def identifierKey : List Char := "identifier".toList

def fieldsKey : List Char := "fields".toList

def usualIdentifier : List Char := "id".toList

/-- The rest of a file behind a name, and behind the line of a field. -/
def behindName (line : FieldLine) (below : List Char) : List Char :=
  List.replicate 1 ' ' ++ (line.type ++ below)

def following (width : Nat) : List FieldLine → List Char
  | [] => ['\n']
  | line :: rest =>
    '\n' :: (List.replicate width ' ' ++
      (line.name ++ ':' :: line.behindName (following width rest)))

def fileText (width : Nat) (lines : List FieldLine) : List Char :=
  identifierKey ++ ':' :: (List.replicate 1 ' ' ++ (usualIdentifier ++
    '\n' :: (fieldsKey ++ ':' :: following width lines)))

def entry (line : FieldLine) : Spelled × Tree := (.plain line.name, .scalar (.plain line.type))

def tree (lines : List FieldLine) : Tree :=
  .map true
    [(.plain identifierKey, .scalar (.plain usualIdentifier)),
     (.plain fieldsKey, .map true (lines.map entry))]

/-- The name and the type need no quotes where they stand. -/
structure IsReadable (line : FieldLine) : Prop where
  name : IsPlainWord false line.name
  type : IsPlainWord false line.type

open Scan

variable {line : FieldLine} {lines rest : List FieldLine} {width index row column : Nat}
  {tokens : List Token} {tokenCount : Nat} {before : Scan}

/-- At the end of the text the block of the fields ends, and the whole mapping. -/
theorem run_end (some_ : 0 < width) (fuel : Nat) :
    run (fuel + 1) ⟨⟨[], index, row, 0⟩, width, [0, -1], true, [none], tokens, tokenCount⟩ =
      ⟨(.blockEnd :: .blockEnd :: tokens).reverse, none⟩ :=
  Scan.run_end (align_end (by omega)) fuel

/-- The type of the last field ends with its line. -/
theorem takes_lastType (plain : IsPlainWord false line.type) (deep : width ≤ column) :
    ∃ last, Takes
      ⟨⟨line.behindName (following width []), index, row, column⟩, width, [0, -1], false, [none],
        tokens, tokenCount⟩
      ⟨⟨[], last, row + 1, 0⟩, width, [0, -1], true, [none],
        (Spelled.plain line.type).token :: tokens, tokenCount + 1⟩ := by
  apply Exists.intro
  refine takes_behindSpaces plain.isSolid ?_
  exact @takes_line [] _ _ _ _ _ _ _ _ 0 plain ⟨rfl, rfl, rfl⟩ (by omega) (by omega) rfl

/-- Behind the type of a field stands the name of the next one. -/
theorem takes_type {next : FieldLine} (plain : IsPlainWord false line.type)
    (nextPlain : IsPlainWord false next.name) (some_ : 0 < width) (deep : width ≤ column) :
    ∃ last, Takes
      ⟨⟨line.behindName (following width (next :: rest)), index, row, column⟩, width, [0, -1],
        false, [none], tokens, tokenCount⟩
      ⟨⟨next.name ++ ':' :: next.behindName (following width rest), last, row + 1, width⟩, width,
        [0, -1], true, [none], (Spelled.plain line.type).token :: tokens, tokenCount + 1⟩ := by
  obtain ⟨less, rfl⟩ : ∃ less, width = less + 1 := ⟨width - 1, by omega⟩
  apply Exists.intro
  refine takes_behindSpaces plain.isSolid ?_
  exact takes_line plain nextPlain.isSolid (by omega) (by omega) rfl

/-- From behind one name the text is scanned up to behind the next one. -/
theorem takes_field {next : FieldLine} (here : line.IsReadable) (later : next.IsReadable)
    (short : next.name.length ≤ 1024) (some_ : 0 < width) (deep : width ≤ column) :
    ∃ last nextColumn, width ≤ nextColumn ∧ Takes
      ⟨⟨line.behindName (following width (next :: rest)), index, row, column⟩, width, [0, -1],
        false, [none], tokens, tokenCount⟩
      ⟨⟨next.behindName (following width rest), last, row + 1, nextColumn⟩, width, [0, -1], false,
        [none], .value :: (Spelled.plain next.name).token :: .key ::
          (Spelled.plain line.type).token :: tokens, tokenCount + 4⟩ := by
  obtain ⟨last, type⟩ := @takes_type line rest width index row column tokens tokenCount next
    here.type later.name some_ deep
  refine ⟨last + next.name.length + 1, width + next.name.length + 1, by omega, type.trans ?_⟩
  exact takes_key later.name rfl short rfl noKeys_nil (Or.inr rfl)

/-- Behind the name of a field, the text is scanned up to its end. -/
theorem exists_end (here : line.IsReadable) (later : ∀ other ∈ rest, other.IsReadable)
    (short : ∀ other ∈ rest, other.name.length ≤ 1024) (some_ : 0 < width) (deep : width ≤ column)
    (reached : Takes before ⟨⟨line.behindName (following width rest), index, row, column⟩, width,
      [0, -1], false, [none], tokens, tokenCount⟩) :
    ∃ last, Takes before last ∧ ∀ fuel, last.run (fuel + 1) =
      ⟨tokens.reverse ++ (Spelled.plain line.type).token ::
        (Tree.entryTokens true false (rest.map entry) ++ [.blockEnd, .blockEnd]), none⟩ := by
  induction rest generalizing line index row column tokens tokenCount with
  | nil =>
      obtain ⟨last, type⟩ := @takes_lastType line width index row column tokens tokenCount here.type
        deep
      refine ⟨_, reached.trans type, fun fuel => ?_⟩
      rw [run_end some_]
      simp [Tree.entryTokens]
  | cons next more ih =>
      obtain ⟨nextReadable, moreReadable⟩ := List.forall_mem_cons.mp later
      obtain ⟨nextShort, moreShort⟩ := List.forall_mem_cons.mp short
      obtain ⟨_, _, nextDeep, taken⟩ := @takes_field line more width index row column tokens
        tokenCount next here nextReadable nextShort some_ deep
      obtain ⟨last, takes, ends⟩ :=
        ih nextReadable moreReadable moreShort nextDeep (reached.trans taken)
      refine ⟨last, takes, fun fuel => ?_⟩
      rw [ends]
      simp [Tree.entryTokens, Tree.tokens, entry, Spelled.plain]

/-- Behind the name of a field, a name that is too long stops the scan. -/
theorem exists_stop (here : line.IsReadable) (later : ∀ other ∈ rest, other.IsReadable)
    (long : ∃ other ∈ rest, 1024 < other.name.length) (some_ : 0 < width) (deep : width ≤ column)
    (reached : Takes before ⟨⟨line.behindName (following width rest), index, row, column⟩, width,
      [0, -1], false, [none], tokens, tokenCount⟩) :
    ∃ last front name, Takes before last ∧ ∀ fuel, last.run (fuel + 1) =
      ⟨tokens.reverse ++ (Spelled.plain line.type).token ::
        (Tree.entryTokens true false (List.map entry front) ++ [Spelled.token name]),
        some .malformed⟩ := by
  induction rest generalizing line index row column tokens tokenCount with
  | nil =>
      obtain ⟨other, impossible, _⟩ := long
      cases impossible
  | cons next more ih =>
      obtain ⟨nextReadable, moreReadable⟩ := List.forall_mem_cons.mp later
      -- the first name that is too long ends the scan, whatever stands behind it
      by_cases short : next.name.length ≤ 1024
      · obtain ⟨other, listed, tooLong⟩ := long
        have inMore : other ∈ more := (List.mem_cons.mp listed).resolve_left fun same =>
          Nat.not_le.mpr tooLong (same ▸ short)
        obtain ⟨_, _, nextDeep, taken⟩ := @takes_field line more width index row column tokens
          tokenCount next here nextReadable short some_ deep
        obtain ⟨last, front, name, takes, stops⟩ := ih nextReadable moreReadable
          ⟨other, inMore, tooLong⟩ nextDeep (reached.trans taken)
        refine ⟨last, next :: front, name, takes, fun fuel => ?_⟩
        rw [stops]
        simp [Tree.entryTokens, Tree.tokens, entry, Spelled.plain]
      · obtain ⟨nextIndex, type⟩ := @takes_type line more width index row column tokens tokenCount
          next here.type nextReadable.name some_ deep
        obtain ⟨last, name, stops⟩ := @exists_run_of_long
          (next.behindName (following width more)) nextIndex (row + 1) width width [0, -1]
          ((Spelled.plain line.type).token :: tokens) (tokenCount + 1) next.name nextReadable.name
          (Nat.not_le.mp short) rfl (Int.le_refl _)
        refine ⟨last, [], .plain next.name, (reached.trans type).trans name, fun fuel => ?_⟩
        rw [stops]
        simp [Tree.entryTokens, Spelled.token, Spelled.plain]

theorem isPlainWord_keys : IsPlainWord false identifierKey ∧ IsPlainWord false usualIdentifier ∧
    IsPlainWord false fieldsKey :=
  ⟨⟨⟨_, _, rfl, rfl, by decide⟩, Text.forall_mem_of_all (by decide)⟩,
    ⟨⟨_, _, rfl, rfl, by decide⟩, Text.forall_mem_of_all (by decide)⟩,
    ⟨⟨_, _, rfl, rfl, by decide⟩, Text.forall_mem_of_all (by decide)⟩⟩

/-- The tokens up to the name of the first field, the last one in front. -/
def openTokens : List Token :=
  [.value, (Spelled.plain fieldsKey).token, .key, (Spelled.plain usualIdentifier).token, .value,
    (Spelled.plain identifierKey).token, .key, .blockMappingStart]

/-- From the start a file is scanned up to the name of the first field. -/
theorem takes_head : ∃ last column, Takes (start (fileText width lines))
    ⟨⟨following width lines, last, 1, column⟩, 0, [-1], false, [none], openTokens, 8⟩ := by
  obtain ⟨isIdentifier, isUsual, isFields⟩ := isPlainWord_keys
  have lineEnds : isWordEnd ((following width lines).headD '\x00') = true := by
    cases lines <;> rfl
  iterate 2 apply Exists.intro
  refine (takes_firstKey isIdentifier (by decide) rfl (by decide)).trans ?_
  refine takes_behindSpaces isUsual.isSolid ?_
  refine (@takes_line _ _ _ _ _ _ _ _ _ 0 isUsual isFields.isSolid (by decide) (by decide)
    rfl).trans ?_
  exact takes_key isFields rfl (by decide) lineEnds noKeys_nil (Or.inr rfl)

/-- From the start a file is scanned up to behind the name of the first field. -/
theorem takes_firstField (here : line.IsReadable) (short : line.name.length ≤ 1024)
    (some_ : 0 < width) :
    ∃ last column, width ≤ column ∧ Takes (start (fileText width (line :: rest)))
      ⟨⟨line.behindName (following width rest), last, 2, column⟩, width, [0, -1], false, [none],
        .value :: (Spelled.plain line.name).token :: .key :: .blockMappingStart :: openTokens,
        12⟩ := by
  obtain ⟨last, column, head⟩ := @takes_head (line :: rest) width
  refine ⟨last + 1 + 0 + width + line.name.length + 1, width + line.name.length + 1, by omega,
    head.trans ?_⟩
  refine @takes_behindLines _ _ last 1 column 0 [-1] false openTokens 8 0 width
    here.name.isSolid ?_
  exact takes_firstKey here.name short rfl (by omega)

theorem fits_entries (lines : List FieldLine) (depth : Nat) :
    Tree.entriesFit true depth (lines.map entry) = true := by
  induction lines with
  | nil => rfl
  | cons line rest ih => exact ih

variable {first : FieldLine}

theorem scan_fileText (allowed : (fileText width (first :: rest)).all isAllowed = true)
    (readable : ∀ line ∈ first :: rest, line.IsReadable)
    (short : ∀ line ∈ first :: rest, line.name.length ≤ 1024) (some_ : 0 < width) :
    Token.scan (fileText width (first :: rest)) = ⟨(tree (first :: rest)).tokens, none⟩ := by
  obtain ⟨here, later⟩ := List.forall_mem_cons.mp readable
  obtain ⟨shortHere, shortLater⟩ := List.forall_mem_cons.mp short
  obtain ⟨_, _, deep, field⟩ := @takes_firstField first rest width here shortHere some_
  obtain ⟨last, takes, ends⟩ := exists_end here later shortLater some_ deep field
  obtain ⟨fuel, scanned⟩ := exists_scan_eq allowed rfl takes
  rw [scanned, ends]
  simp [tree, entry, openTokens, Tree.tokens, Tree.entryTokens, Spelled.token]

/-- With a name that is too long, the text is no document. -/
theorem ofTokens_of_long (allowed : (fileText width (first :: rest)).all isAllowed = true)
    (readable : ∀ line ∈ first :: rest, line.IsReadable)
    (long : ∃ line ∈ first :: rest, 1024 < line.name.length) (some_ : 0 < width) :
    Node.ofTokens (Token.scan (fileText width (first :: rest))) = .error .malformed := by
  obtain ⟨here, later⟩ := List.forall_mem_cons.mp readable
  by_cases short : first.name.length ≤ 1024
  · obtain ⟨other, listed, tooLong⟩ := long
    have inRest : other ∈ rest := (List.mem_cons.mp listed).resolve_left fun same =>
      Nat.not_le.mpr tooLong (same ▸ short)
    obtain ⟨_, _, deep, field⟩ := @takes_firstField first rest width here short some_
    obtain ⟨last, front, name, takes, stopped⟩ :=
      exists_stop here later ⟨other, inRest, tooLong⟩ some_ deep field
    obtain ⟨fuel, scanned⟩ := exists_scan_eq allowed rfl takes
    have fields := @Tree.Stops.entries (some .malformed) 488 _ [name.token]
      ((first :: front).map entry) true (Tree.stops_token nofun nofun) (fits_entries _ 488)
    have identifier := @Tree.Stops.entries (some .malformed) 489 _ _
      [(.plain identifierKey, .scalar (.plain usualIdentifier))] true
      (fields.inside (.plain fieldsKey)) rfl
    have unread := identifier.ofTokens (by simp; omega)
    rw [scanned, stopped]
    simpa [openTokens, entry, Tree.tokens, Tree.entryTokens, Spelled.token] using unread
  · obtain ⟨last, column, head⟩ := @takes_head (first :: rest) width
    obtain ⟨stop, name, stopped⟩ := @exists_run_of_long
      (first.behindName (following width rest)) (last + 1 + 0 + width) (1 + 1 + 0) width 0 [-1]
      openTokens 8 first.name here.name (Nat.not_le.mp short) rfl (by omega)
    have behind := @takes_behindLines stop _ last 1 column 0 [-1] false openTokens 8 0 width
      here.name.isSolid name
    obtain ⟨fuel, scanned⟩ := exists_scan_eq allowed rfl (head.trans behind)
    have entries := @Tree.Stops.entries (some .malformed) 489 _ _
      [(.plain identifierKey, .scalar (.plain usualIdentifier)),
        (.plain fieldsKey, .scalar (.plain first.name))] true Tree.stops_nil rfl
    have unread := entries.ofTokens (by simp; omega)
    rw [scanned, stopped]
    simpa [openTokens, Tree.tokens, Tree.entryTokens, Spelled.token, Spelled.plain] using unread

end FieldLine

end EntityScaffold.Yaml
