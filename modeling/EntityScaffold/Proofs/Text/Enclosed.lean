import EntityScaffold.Proofs.Text.Outline

/-
What stands between marks. Some text opens and another one closes; what stands behind an opening, up to
the next closing, is enclosed. A block of text adds what it encloses to that of the text below, as long
as nothing is open at its end. Outlines are read in the same way as for patterns: what they enclose is
told where no hole can open or close anything, except for holes that are known to be filled with blocks.
-/

namespace EntityScaffold.Text

/-! ### Texts that are absent -/

/-- Some text begins nowhere within a text that another one follows. -/
def NotBegun (start behind : List Char) : List Char → Prop
  | [] => True
  | char :: rest => ¬start <+: (char :: (rest ++ behind)) ∧ NotBegun start behind rest

/-- Some text begins nowhere within a block, whatever stands below it. -/
def IsAbsent (start block : List Char) : Prop := ∀ below, NotBegun start below block

theorem notBegun_append {start behind first second : List Char} :
    NotBegun start behind (first ++ second) ↔
      NotBegun start (second ++ behind) first ∧ NotBegun start behind second := by
  induction first with
  | nil => simp [NotBegun]
  | cons char rest ih => rw [List.cons_append, NotBegun, NotBegun, ih, List.append_assoc, and_assoc]

theorem isAbsent_flatMap {Item : Type} {start : List Char} {items : List Item}
    {block : Item → List Char} (each : ∀ item ∈ items, IsAbsent start (block item)) :
    IsAbsent start (items.flatMap block) := by
  induction items with
  | nil => exact fun _ => trivial
  | cons item rest ih =>
      obtain ⟨here, later⟩ := List.forall_mem_cons.mp each
      intro below
      rw [List.flatMap_cons, notBegun_append]
      exact ⟨here _, ih later below⟩

/-! ### Marks -/

structure Marks where
  opening : List Char
  closing : List Char

namespace Marks

/-- The marks of an element. -/
def ofTag (tag : String) : Marks := ⟨('<' :: tag.toList) ++ ['>'], ('<' :: '/' :: tag.toList) ++ ['>']⟩

/-- What stands in front of the next closing text. -/
def before? (closing : List Char) : List Char → Option (List Char)
  | [] => none
  | char :: rest =>
    if (Pattern.behind? closing (char :: rest)).isSome then some []
    else (before? closing rest).map (char :: ·)

/-- What is enclosed by marks, from the first opening to the last. -/
def enclosed (marks : Marks) : List Char → List (List Char)
  | [] => []
  | char :: rest =>
    ((Pattern.behind? marks.opening (char :: rest)).bind (before? marks.closing)).toList ++
      marks.enclosed rest

/-- What inner marks enclose in each part that outer marks enclose. -/
def inside (outer inner : Marks) (text : List Char) : List (List (List Char)) :=
  (outer.enclosed text).map inner.enclosed

def around (marks : Marks) (text : List Char) : List Char := marks.opening ++ text ++ marks.closing

variable {marks outer inner : Marks} {text : List Char}

theorem before?_append {closing behind : List Char} (open_ : NotBegun closing behind text) :
    before? closing (text ++ behind) = (before? closing behind).map (text ++ ·) := by
  induction text with
  | nil => simp
  | cons char rest ih =>
      obtain ⟨here, later⟩ := open_
      rw [List.cons_append, before?, Pattern.behind?_eq_none here, ih later, Option.map_map]
      rfl

theorem enclosed_append {behind : List Char} (closed : NotBegun marks.opening behind text) :
    marks.enclosed (text ++ behind) = marks.enclosed behind := by
  induction text with
  | nil => rfl
  | cons char rest ih =>
      obtain ⟨here, later⟩ := closed
      rw [List.cons_append, enclosed, Pattern.behind?_eq_none here, ih later]
      rfl

theorem says_enclosed_nil (absent : IsAbsent marks.opening text) : Says marks.enclosed text [] :=
  fun below => enclosed_append (absent below)

theorem says_inside_nil (absent : IsAbsent outer.opening text) : Says (outer.inside inner) text [] :=
  fun below => congrArg (List.map inner.enclosed) (enclosed_append (absent below))

end Marks

/-! ### Outlines -/

namespace Outline

variable {Hole : Type} {kinds : Hole → HoleKind} {values : Hole → List Char}
  {clear : List Char → Hole → Bool} {outline rest : Outline Hole} {start : List Char}

theorem notBegun_of_passes (fits : Fits kinds values) {hole : Hole}
    (passed : passes kinds hole rest start = true) (below : List Char) :
    NotBegun start (fill values rest ++ below) (values hole) := by
  unfold passes at passed
  split at passed
  · next admits mark others kind =>
    have admitted := fits hole admits kind
    generalize values hole = text at admitted
    induction text with
    | nil => trivial
    | cons char more ih =>
        obtain ⟨here, later⟩ := List.forall_mem_cons.mp admitted
        refine ⟨fun begins => ?_, ih later⟩
        rw [List.cons_prefix_cons] at begins
        obtain ⟨rfl, begins⟩ := begins
        rw [here, Bool.not_true, Bool.false_or] at passed
        exact not_prefix_of_through (fun start failed => not_prefix_of_fails fits failed below)
          passed later begins
  · cases passed

/-- Some text begins nowhere within an outline, whatever fills it. -/
def lacks (kinds : Hole → HoleKind) (start : List Char) : Outline Hole → Bool
  | [] => true
  | .char char :: rest => fails kinds (.char char :: rest) start && lacks kinds start rest
  | .hole hole :: rest => passes kinds hole rest start && lacks kinds start rest

theorem isAbsent_fill (fits : Fits kinds values) (lacking : lacks kinds start outline = true) :
    IsAbsent start (fill values outline) := by
  intro below
  induction outline with
  | nil => trivial
  | cons symbol rest ih =>
      cases symbol with
      | char char =>
          obtain ⟨failed, later⟩ := Bool.and_eq_true_iff.mp lacking
          exact ⟨not_prefix_of_fails fits failed below, ih later⟩
      | hole hole =>
          obtain ⟨passed, later⟩ := Bool.and_eq_true_iff.mp lacking
          rw [fill, notBegun_append]
          exact ⟨notBegun_of_passes fits passed below, ih later⟩

/-- What stands in front of the next closing text, unless a hole decides about it; `clear` tells in which
holes nothing is closed. -/
def before? (kinds : Hole → HoleKind) (clear : List Char → Hole → Bool) (closing : List Char) :
    Outline Hole → Option (Outline Hole)
  | [] => none
  | .char char :: rest =>
    if fails kinds (.char char :: rest) closing then
      (before? kinds clear closing rest).map (.char char :: ·)
    else (behind? closing (.char char :: rest)).map fun _ => []
  | .hole hole :: rest =>
    if clear closing hole || passes kinds hole rest closing then
      (before? kinds clear closing rest).map (.hole hole :: ·)
    else none

theorem before?_fill (fits : Fits kinds values)
    (cleared : ∀ hole, clear start hole = true → IsAbsent start (values hole)) {gap : Outline Hole}
    (read : before? kinds clear start outline = some gap) (below : List Char) :
    Marks.before? start (fill values outline ++ below) = some (fill values gap) := by
  induction outline generalizing gap with
  | nil => cases read
  | cons symbol rest ih =>
      cases symbol with
      | char char =>
          rw [before?] at read
          split at read
          · next failed =>
            obtain ⟨later, found, rfl⟩ := Option.map_eq_some_iff.mp read
            have absent := not_prefix_of_fails fits failed below
            rw [fill, List.cons_append] at absent
            rw [fill, List.cons_append, Marks.before?, Pattern.behind?_eq_none absent, ih found]
            rfl
          · obtain ⟨behind, found, rfl⟩ := Option.map_eq_some_iff.mp read
            have whole : fill values (.char char :: rest) = _ := fill_of_behind? found
            have closes : Pattern.behind? start (fill values (.char char :: rest) ++ below) =
                some (fill values behind ++ below) := by
              rw [whole, List.append_assoc, Pattern.behind?_append]
            rw [fill, List.cons_append] at closes ⊢
            rw [Marks.before?, closes]
            rfl
      | hole hole =>
          rw [before?] at read
          split at read
          · next stays =>
            obtain ⟨later, found, rfl⟩ := Option.map_eq_some_iff.mp read
            have open_ : NotBegun start (fill values rest ++ below) (values hole) := by
              rcases Bool.or_eq_true_iff.mp stays with isClear | passed
              · exact cleared hole isClear _
              · exact notBegun_of_passes fits passed below
            rw [fill, List.append_assoc, Marks.before?_append open_, ih found]
            rfl
          · cases read

/-- What is read off an outline: a part that marks enclose, or all that a block of lines says. -/
inductive Passage (Part Hole : Type) where
  | part (part : Part)
  | block (hole : Hole)
  deriving DecidableEq

instance {Part Hole : Type} [DecidableEq Part] [DecidableEq Hole] :
    DecidableEq (List (Passage Part Hole)) := inferInstance

/-- The parts that are enclosed by marks in an outline, and the blocks between them, unless a hole decides
about them. -/
def parts? {Part : Type} (kinds : Hole → HoleKind) (clear : List Char → Hole → Bool) (marks : Marks)
    (part? : Outline Hole → Option Part) : Outline Hole → Option (List (Passage Part Hole))
  | [] => some []
  | .char char :: rest =>
    if fails kinds (.char char :: rest) marks.opening then parts? kinds clear marks part? rest
    else (behind? marks.opening (.char char :: rest)).bind fun opened =>
      ((before? kinds clear marks.closing opened).bind part?).bind fun part =>
        (parts? kinds clear marks part? rest).map (.part part :: ·)
  | .hole hole :: rest =>
    match kinds hole with
    | .lines => (parts? kinds clear marks part? rest).map (.block hole :: ·)
    | .within _ =>
      if passes kinds hole rest marks.opening then parts? kinds clear marks part? rest else none

def encloses? (kinds : Hole → HoleKind) (clear : List Char → Hole → Bool) (marks : Marks) :
    Outline Hole → Option (List (Passage (Outline Hole) Hole)) := parts? kinds clear marks some

/-- What inner marks enclose in the parts that outer marks enclose. -/
def inside? (kinds : Hole → HoleKind) (clear : List Char → Hole → Bool) (outer inner : Marks) :
    Outline Hole → Option (List (Passage (List (Passage (Outline Hole) Hole)) Hole)) :=
  parts? kinds clear outer (encloses? kinds clear inner)

def told {Part Said : Type} (ofPart : Part → Said) (inBlock : Hole → List Said)
    (found : List (Passage Part Hole)) : List Said :=
  found.flatMap fun
    | .part part => [ofPart part]
    | .block hole => inBlock hole

section Told

variable {Part Said : Type} (ofPart : Part → Said) (inBlock : Hole → List Said)
  (more : List (Passage Part Hole))

@[simp] theorem told_nil : told ofPart inBlock [] = [] := rfl

@[simp] theorem told_part (part : Part) :
    told ofPart inBlock (.part part :: more) = ofPart part :: told ofPart inBlock more := rfl

@[simp] theorem told_block (hole : Hole) :
    told ofPart inBlock (.block hole :: more) = inBlock hole ++ told ofPart inBlock more := rfl

end Told

/-- Holes in which nothing is closed. -/
def IsClear (clear : List Char → Hole → Bool) (values : Hole → List Char) (closing : List Char) :
    Prop := ∀ hole, clear closing hole = true → IsAbsent closing (values hole)

variable {marks outer inner : Marks}

theorem says_of_parts? {Part Said : Type} (fits : Fits kinds values)
    (cleared : IsClear clear values marks.closing) {part? : Outline Hole → Option Part}
    {read : List Char → Said} {ofPart : Part → Said}
    {inBlock : Hole → List Said} {found : List (Passage Part Hole)}
    (reads : ∀ gap part, .part part ∈ found → part? gap = some part →
      read (fill values gap) = ofPart part)
    (blocks : ∀ hole, kinds hole = .lines → .block hole ∈ found →
      Says (fun text => (marks.enclosed text).map read) (values hole) (inBlock hole))
    (parts : parts? kinds clear marks part? outline = some found) :
    Says (fun text => (marks.enclosed text).map read) (fill values outline)
      (told ofPart inBlock found) := by
  induction outline generalizing found with
  | nil =>
      cases parts
      exact Says.nil _
  | cons symbol rest ih =>
      cases symbol with
      | char char =>
          rw [parts?] at parts
          split at parts
          · next failed =>
            intro below
            have absent := not_prefix_of_fails fits failed below
            rw [fill, List.cons_append] at absent ⊢
            dsimp only
            rw [Marks.enclosed, Pattern.behind?_eq_none absent]
            exact ih reads blocks parts below
          · obtain ⟨opened, opens, parts⟩ := Option.bind_eq_some_iff.mp parts
            obtain ⟨part, isPart, parts⟩ := Option.bind_eq_some_iff.mp parts
            obtain ⟨gap, closes, isPart⟩ := Option.bind_eq_some_iff.mp isPart
            obtain ⟨later, others, rfl⟩ := Option.map_eq_some_iff.mp parts
            -- the search goes on behind the first character of the opening, not behind the closing
            intro below
            have whole : fill values (.char char :: rest) = _ := fill_of_behind? opens
            have behind : Pattern.behind? marks.opening (fill values (.char char :: rest) ++ below) =
                some (fill values opened ++ below) := by
              rw [whole, List.append_assoc, Pattern.behind?_append]
            have enclosed : (some (fill values opened ++ below)).bind (Marks.before? marks.closing) =
                some (fill values gap) := before?_fill fits cleared closes below
            rw [fill, List.cons_append] at behind ⊢
            dsimp only
            rw [Marks.enclosed, behind, enclosed, List.map_append]
            change [read (fill values gap)] ++ _ = _
            rw [reads gap part List.mem_cons_self isPart]
            refine congrArg (ofPart part :: ·) (ih (fun gap part listed => ?_)
              (fun hole kind listed => ?_) others below)
            · exact reads gap part (List.mem_cons_of_mem _ listed)
            · exact blocks hole kind (List.mem_cons_of_mem _ listed)
      | hole hole =>
          rw [parts?] at parts
          cases kind : kinds hole with
          | lines =>
              rw [kind] at parts
              obtain ⟨later, others, rfl⟩ := Option.map_eq_some_iff.mp parts
              refine (blocks hole kind List.mem_cons_self).append
                (ih (fun gap part listed => ?_) (fun hole kind listed => ?_) others)
              · exact reads gap part (List.mem_cons_of_mem _ listed)
              · exact blocks hole kind (List.mem_cons_of_mem _ listed)
          | within admits =>
              rw [kind] at parts
              dsimp only at parts
              split at parts
              · next passed =>
                intro below
                dsimp only
                rw [fill, List.append_assoc,
                  Marks.enclosed_append (notBegun_of_passes fits passed below)]
                exact ih reads blocks parts below
              · cases parts

theorem says_of_encloses? (fits : Fits kinds values)
    (cleared : IsClear clear values marks.closing) {inBlock : Hole → List (List Char)}
    {found : List (Passage (Outline Hole) Hole)}
    (blocks : ∀ hole, kinds hole = .lines → .block hole ∈ found →
      Says marks.enclosed (values hole) (inBlock hole))
    (read : encloses? kinds clear marks outline = some found) :
    Says marks.enclosed (fill values outline) (told (fill values) inBlock found) := by
  have asRead : (fun text => (marks.enclosed text).map id) = marks.enclosed := by
    funext text
    rw [List.map_id]
  have parts := @says_of_parts? Hole kinds values clear outline marks (Outline Hole) (List Char) fits
    cleared some id (fill values) inBlock found
    (fun gap part _ same => congrArg (fill values) (Option.some.inj same))
  rw [asRead] at parts
  exact parts blocks read

theorem says_of_inside? (fits : Fits kinds values) (outerCleared : IsClear clear values outer.closing)
    (innerCleared : IsClear clear values inner.closing) {inInner : Hole → List (List Char)}
    {inBlock : Hole → List (List (List Char))}
    {found : List (Passage (List (Passage (Outline Hole) Hole)) Hole)}
    (innerBlocks : ∀ hole, kinds hole = .lines → ∀ part, .part part ∈ found → .block hole ∈ part →
      Says inner.enclosed (values hole) (inInner hole))
    (blocks : ∀ hole, kinds hole = .lines → .block hole ∈ found →
      Says (outer.inside inner) (values hole) (inBlock hole))
    (read : inside? kinds clear outer inner outline = some found) :
    Says (outer.inside inner) (fill values outline)
      (told (told (fill values) inInner) inBlock found) := by
  refine says_of_parts? fits outerCleared (fun gap part listed enclosed => ?_) blocks read
  have inPart (hole : Hole) (kind : kinds hole = .lines) := innerBlocks hole kind part listed
  exact (says_of_encloses? fits innerCleared inPart enclosed).read_eq rfl

end Outline

end EntityScaffold.Text
