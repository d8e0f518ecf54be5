import EntityScaffold.Proofs.Text.Pattern

/-
Outlines of texts. An outline is a text with holes, of which only the kind of text that will fill them
is known. Where the holes cannot matter, a pattern is read off the outline, and what is read is
filled; where they could, nothing is read. So one reading of an outline holds of every text that
fills it.
-/

namespace EntityScaffold.Text

/-- What may fill a hole: text within a line, of characters that are admitted, or whole lines. -/
inductive HoleKind where
  | within (admits : Char → Bool)
  | lines

inductive Symbol (Hole : Type) where
  | char (char : Char)
  | hole (hole : Hole)
  deriving DecidableEq

abbrev Outline (Hole : Type) := List (Symbol Hole)

namespace Outline

variable {Hole : Type} {kinds : Hole → HoleKind} {values : Hole → List Char}

def ofChars (chars : List Char) : Outline Hole := chars.map .char

def spell (text : String) : Outline Hole := ofChars text.toList

def fill (values : Hole → List Char) : Outline Hole → List Char
  | [] => []
  | .char char :: rest => char :: fill values rest
  | .hole hole :: rest => values hole ++ fill values rest

/-- Each hole within a line is filled with characters that it admits. -/
def Fits (kinds : Hole → HoleKind) (values : Hole → List Char) : Prop :=
  ∀ hole admits, kinds hole = .within admits → ∀ char ∈ values hole, admits char = true

theorem fill_append (values : Hole → List Char) (first second : Outline Hole) :
    fill values (first ++ second) = fill values first ++ fill values second := by
  induction first with
  | nil => rfl
  | cons symbol rest ih =>
      cases symbol with
      | char char => rw [List.cons_append, fill, fill, ih, List.cons_append]
      | hole hole => rw [List.cons_append, fill, fill, ih, List.append_assoc]

@[simp] theorem fill_ofChars (values : Hole → List Char) (chars : List Char) :
    fill values (ofChars chars) = chars := by
  induction chars with
  | nil => rfl
  | cons char rest ih => exact congrArg (char :: ·) ih

theorem fill_hole (values : Hole → List Char) (hole : Hole) : fill values [.hole hole] = values hole := by
  rw [fill, fill, List.append_nil]

theorem not_mem_fill {outline : Outline Hole} {char : Char} (absent : Symbol.char char ∉ outline)
    (inNoHole : ∀ hole, char ∉ values hole) : char ∉ fill values outline := by
  induction outline with
  | nil => exact List.not_mem_nil
  | cons symbol rest ih =>
      obtain ⟨different, later⟩ := List.ne_and_not_mem_of_not_mem_cons absent
      cases symbol with
      | char other =>
          rw [fill, List.mem_cons, not_or]
          exact ⟨fun same => different (congrArg Symbol.char same), ih later⟩
      | hole hole =>
          rw [fill, List.mem_append, not_or]
          exact ⟨inNoHole hole, ih later⟩

/-! ### Starts -/

/-- Does a text begin with something else, however much of it is in a hole? -/
def through (admits : Char → Bool) (next : List Char → Bool) : List Char → Bool
  | [] => false
  | mark :: start => next (mark :: start) && (!admits mark || through admits next start)

/-- Does an outline begin with something else than a text, whatever fills it? -/
def fails (kinds : Hole → HoleKind) : Outline Hole → List Char → Bool
  | [], _ => false
  | .char _ :: _, [] => false
  | .char char :: rest, mark :: start => char != mark || fails kinds rest start
  | .hole hole :: rest, start =>
    match kinds hole with
    | .lines => false
    | .within admits => through admits (fails kinds rest) start

theorem not_prefix_of_through {admits : Char → Bool} {next : List Char → Bool} {behind : List Char}
    (sound : ∀ start, next start = true → ¬start <+: behind) {start text : List Char}
    (passed : through admits next start = true) (admitted : ∀ char ∈ text, admits char = true) :
    ¬start <+: (text ++ behind) := by
  induction text generalizing start with
  | nil =>
      cases start with
      | nil => cases passed
      | cons mark start =>
          rw [through, Bool.and_eq_true] at passed
          exact sound _ passed.1
  | cons char rest ih =>
      cases start with
      | nil => cases passed
      | cons mark start =>
          rw [through, Bool.and_eq_true] at passed
          intro begins
          rw [List.cons_append, List.cons_prefix_cons] at begins
          obtain ⟨same, begins⟩ := begins
          subst same
          have admits := admitted mark List.mem_cons_self
          rw [admits, Bool.not_true, Bool.false_or] at passed
          exact ih passed.2 (fun other member => admitted other (List.mem_cons_of_mem mark member))
            begins

theorem not_prefix_of_fails (fits : Fits kinds values) {outline : Outline Hole} {start : List Char}
    (failed : fails kinds outline start = true) (below : List Char) :
    ¬start <+: (fill values outline ++ below) := by
  induction outline generalizing start with
  | nil => cases failed
  | cons symbol rest ih =>
      cases symbol with
      | char char =>
          cases start with
          | nil => cases failed
          | cons mark start =>
              rw [fails, Bool.or_eq_true] at failed
              intro begins
              rw [fill, List.cons_append, List.cons_prefix_cons] at begins
              rcases failed with different | later
              · exact bne_iff_ne.mp different begins.1.symm
              · exact ih later begins.2
      | hole hole =>
          rw [fails] at failed
          cases kind : kinds hole with
          | lines =>
              rw [kind] at failed
              cases failed
          | within admits =>
              rw [kind] at failed
              rw [fill, List.append_assoc]
              exact not_prefix_of_through (fun start later => ih later) failed
                (fits hole admits kind)

def behind? : List Char → Outline Hole → Option (Outline Hole)
  | [], outline => some outline
  | mark :: start, .char char :: rest => if mark = char then behind? start rest else none
  | _ :: _, _ => none

theorem fill_of_behind? {outline rest : Outline Hole} {start : List Char}
    (found : behind? start outline = some rest) :
    fill values outline = start ++ fill values rest := by
  induction start generalizing outline with
  | nil =>
      cases found
      rfl
  | cons mark start ih =>
      cases outline with
      | nil => cases found
      | cons symbol others =>
          cases symbol with
          | hole hole => cases found
          | char char =>
              rw [behind?] at found
              split at found
              · next same =>
                subst same
                rw [fill, ih found, List.cons_append]
              · cases found

/-! ### Gaps -/

/-- Does a symbol belong to a gap? -/
def isInside (closing : List Char) : Symbol Hole → Bool
  | .char char => Pattern.isInside closing char
  | .hole _ => true

/-- No hole of a gap can end it. -/
def holesStay (kinds : Hole → HoleKind) (closing : List Char) (gap : Outline Hole) : Bool :=
  gap.all fun symbol =>
    match symbol with
    | .char _ => true
    | .hole hole =>
      match kinds hole with
      | .lines => false
      | .within admits => !admits '\n' && closing.head?.all fun mark => !admits mark

/-- The gaps that some texts close, unless a hole or the end of the outline decides about them; the
inner result tells whether the outline has them. -/
def follow? (kinds : Hole → HoleKind) :
    List (List Char) → Outline Hole → Option (Option (List (Outline Hole)))
  | [], _ => some (some [])
  | closing :: more, outline =>
    let gap := outline.takeWhile (isInside closing)
    let behind := outline.dropWhile (isInside closing)
    if behind.isEmpty || !holesStay kinds closing gap then none
    else if fails kinds behind closing then some none
    else (behind? closing behind).bind fun rest =>
      (follow? kinds more rest).map (Option.map (gap :: ·))

theorem isInside_fill (fits : Fits kinds values) {closing : List Char} {gap : Outline Hole}
    (inside : ∀ symbol ∈ gap, isInside closing symbol = true)
    (stay : holesStay kinds closing gap = true) :
    ∀ char ∈ fill values gap, Pattern.isInside closing char = true := by
  induction gap with
  | nil =>
      intro char member
      cases member
  | cons symbol rest ih =>
      rw [holesStay, List.all_cons, Bool.and_eq_true] at stay
      have later := ih (fun other member => inside other (List.mem_cons_of_mem symbol member)) stay.2
      cases symbol with
      | char char =>
          intro other member
          rcases List.mem_cons.mp member with same | inRest
          · subst same
            exact inside (.char other) List.mem_cons_self
          · exact later other inRest
      | hole hole =>
          intro char member
          rcases List.mem_append.mp member with inHole | inRest
          · cases kind : kinds hole with
            | lines => simp [kind] at stay
            | within admits =>
                have admitted := fits hole admits kind char inHole
                have kept := stay.1
                simp only [kind, Bool.and_eq_true, Bool.not_eq_true', Option.all_eq_true] at kept
                unfold Pattern.isInside
                rw [Bool.and_eq_true, bne_iff_ne, bne_iff_ne]
                refine ⟨?_, ?_⟩
                · intro same
                  rw [same, kept.1] at admitted
                  cases admitted
                · intro heads
                  rw [kept.2 char heads] at admitted
                  cases admitted
          · exact later char inRest

theorem takeWhile_fill (fits : Fits kinds values) {closing : List Char} {outline : Outline Hole}
    (stay : holesStay kinds closing (outline.takeWhile (isInside closing)) = true)
    (stops : outline.dropWhile (isInside closing) ≠ []) (below : List Char) :
    (fill values outline ++ below).takeWhile (Pattern.isInside closing) =
        fill values (outline.takeWhile (isInside closing)) ∧
      (fill values outline ++ below).dropWhile (Pattern.isInside closing) =
        fill values (outline.dropWhile (isInside closing)) ++ below := by
  have inside := isInside_fill fits (fun symbol member =>
    List.all_eq_true.mp List.all_takeWhile symbol member) stay
  obtain ⟨symbol, rest, same⟩ := List.exists_cons_of_ne_nil stops
  have whole : fill values outline ++ below =
      fill values (outline.takeWhile (isInside closing)) ++
        (fill values (outline.dropWhile (isInside closing)) ++ below) := by
    rw [← List.append_assoc, ← fill_append, List.takeWhile_append_dropWhile]
  have ends : isInside closing symbol = false := by
    have head := List.head?_dropWhile_not (isInside closing) outline
    rw [same] at head
    simpa using head
  cases symbol with
  | hole hole => cases ends
  | char char =>
      have stopped : ¬Pattern.isInside closing char = true := by
        rw [show Pattern.isInside closing char = false from ends]
        decide
      constructor
      · rw [whole, List.takeWhile_append_of_pos inside, same, fill, List.cons_append,
          List.takeWhile_cons_of_neg stopped, List.append_nil]
      · rw [whole, List.dropWhile_append_of_pos inside, same, fill, List.cons_append,
          List.dropWhile_cons_of_neg stopped]

theorem follow?_fill (fits : Fits kinds values) {closings : List (List Char)}
    {outline : Outline Hole} {verdict : Option (List (Outline Hole))}
    (followed : follow? kinds closings outline = some verdict) (below : List Char) :
    (Pattern.follow? closings (fill values outline ++ below)).map Prod.fst =
      verdict.map (List.map (fill values)) := by
  induction closings generalizing outline verdict with
  | nil =>
      cases followed
      rfl
  | cons closing more ih =>
      rw [follow?] at followed
      split at followed
      · cases followed
      · next decided =>
        rw [Bool.or_eq_true, not_or, Bool.not_eq_true, Bool.not_eq_true, Bool.not_eq_false']
          at decided
        obtain ⟨stops, stay⟩ := decided
        -- no hole ends the gap, so the text closes it where the outline does
        obtain ⟨taken, dropped⟩ := takeWhile_fill fits stay
          (fun nothing => by rw [nothing] at stops; cases stops) below
        rw [Pattern.follow?, taken, dropped]
        split at followed
        · next failed =>
          cases followed
          rw [Pattern.behind?_eq_none (not_prefix_of_fails fits failed below)]
          rfl
        · obtain ⟨rest, found, followed⟩ := Option.bind_eq_some_iff.mp followed
          obtain ⟨later, others, same⟩ := Option.map_eq_some_iff.mp followed
          subst same
          rw [fill_of_behind? found, List.append_assoc, Pattern.behind?_append, Option.map_map]
          have tail := ih others
          cases later with
          | none =>
              cases actual : Pattern.follow? more (fill values rest ++ below) with
              | none => rfl
              | some gaps =>
                  rw [actual] at tail
                  cases tail
          | some gaps =>
              cases actual : Pattern.follow? more (fill values rest ++ below) with
              | none =>
                  rw [actual] at tail
                  cases tail
              | some found =>
                  rw [actual] at tail
                  have gapsSame := Option.some.inj tail
                  simp only [Option.map_some, Function.comp, List.map_cons]
                  rw [gapsSame]

/-! ### Occurrences -/

/-- Does nothing begin within a hole that an outline goes on from? -/
def passes (kinds : Hole → HoleKind) (hole : Hole) (rest : Outline Hole) (start : List Char) : Bool :=
  match kinds hole, start with
  | .within admits, mark :: start => !admits mark || through admits (fails kinds rest) start
  | _, _ => false

def mayOpen (start : List Char) (char : Char) : Bool :=
  start.head?.all (· == char)

/-- The gaps of all occurrences in an outline, if they do not depend on what fills the holes or comes
below; an occurrence that the last line break begins is not among them. -/
def occurrences? (kinds : Hole → HoleKind) (pattern : Pattern) :
    Outline Hole → Option (List (List (Outline Hole)))
  | [] => if mayOpen pattern.opening '\n' then none else some []
  | .char char :: rest =>
    match mayOpen pattern.opening char with
    | false => occurrences? kinds pattern rest
    | true =>
      if rest.isEmpty then if char = '\n' then some [] else none
      else if fails kinds (.char char :: rest) pattern.opening then occurrences? kinds pattern rest
      else (behind? pattern.opening (.char char :: rest)).bind fun behind =>
        (follow? kinds pattern.closings behind).bind fun verdict =>
          (occurrences? kinds pattern rest).map (verdict.toList ++ ·)
  | .hole hole :: rest =>
    if passes kinds hole rest pattern.opening then occurrences? kinds pattern rest else none

theorem not_prefix_of_mayOpen {start : List Char} {char : Char} (other : mayOpen start char = false)
    (text : List Char) : ¬start <+: (char :: text) := by
  cases start with
  | nil => cases other
  | cons mark start =>
      intro begins
      have same := (List.cons_prefix_cons.mp begins).1
      subst same
      simp [mayOpen] at other

theorem gapsAt_append_of_passes {pattern : Pattern} (fits : Fits kinds values) {hole : Hole}
    {rest : Outline Hole} (passed : passes kinds hole rest pattern.opening = true)
    (below : List Char) :
    pattern.gapsAt (values hole ++ (fill values rest ++ below)) =
      pattern.gapsAt (fill values rest ++ below) := by
  unfold passes at passed
  split at passed
  · next admits mark start kind opens =>
    have admitted := fits hole admits kind
    generalize values hole = text at admitted
    induction text with
    | nil => rfl
    | cons char others ih =>
        have later := fun other member => admitted other (List.mem_cons_of_mem char member)
        have noMatch : pattern.match? (char :: (others ++ (fill values rest ++ below))) = none := by
          refine Pattern.match?_eq_none fun begins => ?_
          rw [opens, List.cons_prefix_cons] at begins
          obtain ⟨same, begins⟩ := begins
          subst same
          rw [admitted mark List.mem_cons_self, Bool.not_true, Bool.false_or] at passed
          exact not_prefix_of_through (fun start failed => not_prefix_of_fails fits failed below)
            passed later begins
        rw [List.cons_append, Pattern.gapsAt, Pattern.occurrences_cons, noMatch]
        exact ih later
  · cases passed

theorem gapsIn_of_mayOpen {pattern : Pattern} (other : mayOpen pattern.opening '\n' = false)
    (text : List Char) : pattern.gapsIn text = pattern.gapsAt text := by
  rw [Pattern.gapsIn, Pattern.gapsAt, Pattern.occurrences_cons,
    Pattern.match?_eq_none (not_prefix_of_mayOpen other text)]
  rfl

theorem gapsAt_cons {pattern : Pattern} {char : Char} {text below : List Char}
    {gaps : Option (List (Outline Hole))} {others : List (List (Outline Hole))}
    (here : (pattern.match? (char :: text)).map Prod.fst = gaps.map (List.map (fill values)))
    (later : pattern.gapsAt text =
      others.map (List.map (fill values)) ++ pattern.gapsIn below) :
    pattern.gapsAt (char :: text) =
      (gaps.toList ++ others).map (List.map (fill values)) ++ pattern.gapsIn below := by
  have both := congrArg Option.toList here
  rw [Option.toList_map, Option.toList_map] at both
  rw [Pattern.gapsAt] at later ⊢
  rw [Pattern.occurrences_cons, List.map_append, later, both, List.map_append, List.append_assoc]

theorem gapsAt_fill {pattern : Pattern} (fits : Fits kinds values) {outline : Outline Hole}
    {found : List (List (Outline Hole))}
    (read : occurrences? kinds pattern outline = some found) (below : List Char) :
    pattern.gapsAt (fill values outline ++ below) =
      found.map (List.map (fill values)) ++ pattern.gapsIn below := by
  induction outline generalizing found with
  | nil =>
      rw [occurrences?] at read
      split at read
      · cases read
      · next other =>
        cases read
        exact (gapsIn_of_mayOpen (Bool.eq_false_iff.mpr other) below).symm
  | cons symbol rest ih =>
      cases symbol with
      | hole hole =>
          rw [occurrences?] at read
          split at read
          · next passed =>
            rw [fill, List.append_assoc, gapsAt_append_of_passes fits passed, ih read]
          · cases read
      | char char =>
          rw [occurrences?] at read
          rw [fill, List.cons_append]
          -- a character that opens nothing, the last one, another opening, or an occurrence
          split at read
          · next other =>
            refine @gapsAt_cons _ _ _ _ _ _ none _ ?_ (ih read)
            rw [Pattern.match?_eq_none (not_prefix_of_mayOpen other _)]
            rfl
          · split at read
            · next last =>
              split at read
              · next lineEnd =>
                cases read
                rw [List.isEmpty_iff.mp last, lineEnd]
                rfl
              · cases read
            · split at read
              · next failed =>
                have absent := not_prefix_of_fails fits failed below
                refine @gapsAt_cons _ _ _ _ _ _ none _ ?_ (ih read)
                rw [fill, List.cons_append] at absent
                rw [Pattern.match?_eq_none absent]
                rfl
              · obtain ⟨behind, opened, read⟩ := Option.bind_eq_some_iff.mp read
                obtain ⟨verdict, followed, read⟩ := Option.bind_eq_some_iff.mp read
                obtain ⟨others, later, same⟩ := Option.map_eq_some_iff.mp read
                subst same
                refine gapsAt_cons ?_ (ih later)
                have whole : fill values _ = _ := fill_of_behind? opened
                rw [← List.cons_append, ← fill, whole, List.append_assoc, Pattern.match?_append]
                exact follow?_fill fits followed below

/-! ### Blocks -/

/-- The gaps of all occurrences in an outline that consists of whole lines. -/
def gapsIn? (kinds : Hole → HoleKind) (pattern : Pattern) (outline : Outline Hole) :
    Option (List (List (Outline Hole))) :=
  if outline.isEmpty then some [] else occurrences? kinds pattern (.char '\n' :: outline)

theorem reads_of_gapsIn? {pattern : Pattern} (fits : Fits kinds values) {outline : Outline Hole}
    {found : List (List (Outline Hole))} (read : gapsIn? kinds pattern outline = some found) :
    pattern.Reads (fill values outline) (found.map (List.map (fill values))) := by
  unfold gapsIn? at read
  split at read
  · next nothing =>
    cases read
    rw [List.isEmpty_iff.mp nothing]
    exact Pattern.Reads.nil pattern
  · intro below
    exact gapsAt_fill fits read below

/-- What is read off an outline: the gaps of an occurrence, or all that a block of lines says. -/
inductive Finding (Hole : Type) where
  | gaps (parts : List (Outline Hole))
  | block (hole : Hole)
  deriving DecidableEq

/-- The lines in front of the first block, and each block with the lines behind it. -/
def blocks (kinds : Hole → HoleKind) : Outline Hole → Outline Hole × List (Hole × Outline Hole)
  | [] => ([], [])
  | .char char :: rest => ((.char char :: (blocks kinds rest).1), (blocks kinds rest).2)
  | .hole hole :: rest =>
    match kinds hole with
    | .within _ => ((.hole hole :: (blocks kinds rest).1), (blocks kinds rest).2)
    | .lines => ([], (hole, (blocks kinds rest).1) :: (blocks kinds rest).2)

/-- What is read off the lines behind some blocks, and off the blocks. -/
def behindBlocks? (kinds : Hole → HoleKind) (pattern : Pattern) :
    List (Hole × Outline Hole) → Option (List (Finding Hole))
  | [] => some []
  | (hole, lines) :: more =>
    (gapsIn? kinds pattern lines).bind fun found =>
      (behindBlocks? kinds pattern more).map fun others =>
        .block hole :: (found.map .gaps ++ others)

/-- What is read off an outline with blocks of lines in it. -/
def read? (kinds : Hole → HoleKind) (pattern : Pattern) (outline : Outline Hole) :
    Option (List (Finding Hole)) :=
  (gapsIn? kinds pattern (blocks kinds outline).1).bind fun found =>
    (behindBlocks? kinds pattern (blocks kinds outline).2).map fun others =>
      found.map .gaps ++ others

/-- What a finding says once the holes are filled; `inBlock` tells what is found in blocks. -/
def Finding.filled (values : Hole → List Char) (inBlock : Hole → List (List (List Char))) :
    Finding Hole → List (List (List Char))
  | .gaps parts => [parts.map (fill values)]
  | .block hole => inBlock hole

theorem fill_blocks (values : Hole → List Char) (outline : Outline Hole) :
    fill values outline = fill values (blocks kinds outline).1 ++
      (blocks kinds outline).2.flatMap fun block => values block.1 ++ fill values block.2 := by
  induction outline with
  | nil => rfl
  | cons symbol rest ih =>
      cases symbol with
      | char char => rw [fill, ih, blocks, fill, List.cons_append]
      | hole hole =>
          rw [fill, ih, blocks]
          cases kinds hole with
          | within admits => rw [fill, List.append_assoc]
          | lines => rw [fill, List.nil_append, List.flatMap_cons, List.append_assoc]

theorem flatMap_filled_gaps (inBlock : Hole → List (List (List Char)))
    (found : List (List (Outline Hole))) :
    (found.map Finding.gaps).flatMap (Finding.filled values inBlock) =
      found.map (List.map (fill values)) := by
  induction found with
  | nil => rfl
  | cons gaps rest ih => rw [List.map_cons, List.flatMap_cons, ih]; rfl

theorem reads_behindBlocks {pattern : Pattern} (fits : Fits kinds values)
    {inBlock : Hole → List (List (List Char))} {more : List (Hole × Outline Hole)}
    {findings : List (Finding Hole)}
    (inBlocks : ∀ block ∈ more, .block block.1 ∈ findings →
      pattern.Reads (values block.1) (inBlock block.1))
    (read : behindBlocks? kinds pattern more = some findings) :
    pattern.Reads (more.flatMap fun block => values block.1 ++ fill values block.2)
      (findings.flatMap (Finding.filled values inBlock)) := by
  induction more generalizing findings with
  | nil =>
      cases read
      exact Pattern.Reads.nil pattern
  | cons block rest ih =>
      obtain ⟨hole, lines⟩ := block
      rw [behindBlocks?] at read
      obtain ⟨found, here, read⟩ := Option.bind_eq_some_iff.mp read
      obtain ⟨others, later, same⟩ := Option.map_eq_some_iff.mp read
      subst same
      rw [List.flatMap_cons, List.flatMap_cons, List.flatMap_append, flatMap_filled_gaps,
        ← List.append_assoc]
      have first := inBlocks _ List.mem_cons_self List.mem_cons_self
      exact (first.append (reads_of_gapsIn? fits here)).append (ih (fun block member listed =>
        inBlocks block (List.mem_cons_of_mem _ member)
          (List.mem_cons_of_mem _ (List.mem_append_right _ listed))) later)

theorem kinds_of_mem_blocks {outline : Outline Hole} {block : Hole × Outline Hole}
    (member : block ∈ (blocks kinds outline).2) : kinds block.1 = .lines := by
  induction outline with
  | nil => cases member
  | cons symbol rest ih =>
      cases symbol with
      | char char => exact ih member
      | hole hole =>
          rw [blocks] at member
          cases kind : kinds hole with
          | within admits =>
              rw [kind] at member
              exact ih member
          | lines =>
              rw [kind] at member
              rcases List.mem_cons.mp member with same | later
              · rw [same]
                exact kind
              · exact ih later

/-- What is read off an outline is what the text says, whatever fills the holes. -/
theorem reads_of_read? {pattern : Pattern} (fits : Fits kinds values)
    {inBlock : Hole → List (List (List Char))} {outline : Outline Hole}
    {findings : List (Finding Hole)}
    (inBlocks : ∀ hole, kinds hole = .lines → .block hole ∈ findings →
      pattern.Reads (values hole) (inBlock hole))
    (read : read? kinds pattern outline = some findings) :
    pattern.Reads (fill values outline) (findings.flatMap (Finding.filled values inBlock)) := by
  obtain ⟨found, here, read⟩ := Option.bind_eq_some_iff.mp read
  obtain ⟨others, later, same⟩ := Option.map_eq_some_iff.mp read
  subst same
  rw [fill_blocks values outline, List.flatMap_append, flatMap_filled_gaps]
  exact (reads_of_gapsIn? fits here).append
    (reads_behindBlocks fits (fun block member listed =>
      inBlocks _ (kinds_of_mem_blocks member) (List.mem_append_right _ listed)) later)

theorem mem_of_mem_gaps_append {found : List (List (Outline Hole))} {findings : List (Finding Hole)}
    {hole : Hole} (listed : .block hole ∈ found.map Finding.gaps ++ findings) :
    .block hole ∈ findings := by
  rcases List.mem_append.mp listed with isGaps | isOther
  · obtain ⟨_, _, impossible⟩ := List.mem_map.mp isGaps
    cases impossible
  · exact isOther

theorem exists_mem_of_mem_behindBlocks? {pattern : Pattern} {more : List (Hole × Outline Hole)}
    {findings : List (Finding Hole)} (read : behindBlocks? kinds pattern more = some findings)
    {hole : Hole} (listed : .block hole ∈ findings) : ∃ lines, (hole, lines) ∈ more := by
  induction more generalizing findings with
  | nil =>
      cases read
      cases listed
  | cons block rest ih =>
      obtain ⟨front, lines⟩ := block
      rw [behindBlocks?] at read
      obtain ⟨found, _, read⟩ := Option.bind_eq_some_iff.mp read
      obtain ⟨others, later, same⟩ := Option.map_eq_some_iff.mp read
      subst same
      rcases List.mem_cons.mp listed with isFront | behind
      · cases isFront
        exact ⟨lines, List.mem_cons_self⟩
      · obtain ⟨lines, member⟩ := ih later (mem_of_mem_gaps_append behind)
        exact ⟨lines, List.mem_cons_of_mem _ member⟩

/-- A block that is read off an outline stands in the text as it is filled. -/
theorem infix_fill_of_read? (values : Hole → List Char) {pattern : Pattern} {outline : Outline Hole}
    {findings : List (Finding Hole)} (read : read? kinds pattern outline = some findings)
    {hole : Hole} (listed : .block hole ∈ findings) : values hole <:+: fill values outline := by
  obtain ⟨found, _, read⟩ := Option.bind_eq_some_iff.mp read
  obtain ⟨others, later, same⟩ := Option.map_eq_some_iff.mp read
  subst same
  obtain ⟨lines, member⟩ := exists_mem_of_mem_behindBlocks? later (mem_of_mem_gaps_append listed)
  obtain ⟨front, back, same⟩ := List.append_of_mem member
  refine ⟨fill values (blocks kinds outline).1 ++
    front.flatMap fun block => values block.1 ++ fill values block.2,
    fill values lines ++ back.flatMap fun block => values block.1 ++ fill values block.2, ?_⟩
  rw [@fill_blocks _ kinds values outline, same, List.flatMap_append, List.flatMap_cons]
  simp only [List.append_assoc]

/-- The lines in front of the first block say what is read off them, whatever stands below. -/
theorem exists_gapsIn_fill {pattern : Pattern} (fits : Fits kinds values) {outline : Outline Hole}
    {found : List (List (Outline Hole))}
    (read : gapsIn? kinds pattern (blocks kinds outline).1 = some found) (below : List Char) :
    ∃ more, pattern.gapsIn (fill values outline ++ below) =
      found.map (List.map (fill values)) ++ more := by
  have front := reads_of_gapsIn? fits read
  rw [@fill_blocks _ kinds values outline, List.append_assoc]
  exact ⟨_, front _⟩

end Outline

end EntityScaffold.Text
