import EntityScaffold.Proofs.CommandLine.Configuration
import EntityScaffold.Proofs.Console.Verbatim
import EntityScaffold.Proofs.Generation.Success

/-
Reports on success. The list of files is escaped, but the entity and the route prefix stand in the
table as markup: the table shows what is left of them, and when one of them cannot be printed the
command breaks off, though all files have been written.
-/

namespace EntityScaffold

theorem mapM_eq_ok_map {ε α β : Type} {attempt : α → Except ε β} {result : α → β} {items : List α}
    (each : ∀ item ∈ items, attempt item = .ok (result item)) :
    items.mapM attempt = .ok (items.map result) := by
  induction items with
  | nil => rfl
  | cons item items ih =>
      obtain ⟨first, others⟩ := List.forall_mem_cons.1 each
      rw [List.mapM_cons, first, ih others]
      rfl

namespace Console

open Markup

/-- What is shown of an escaped text. -/
def shownEscaped (text : CodeText) : CodeText := (plainText (escape text)).toOption.getD []

/-- The line for a written file. -/
def createdLine (path : CodeText) : CodeText := paragraph (created ++ shownEscaped path)

theorem plainText_escape_eq (text : CodeText) :
    plainText (escape text) = .ok (shownEscaped text) := by
  obtain ⟨shown, printed⟩ := exists_plainText_eq (renders_escape_end [] text)
  rw [shownEscaped, printed]
  rfl

theorem writtenFiles_eq (paths : List String) (root : String) :
    writtenFiles paths root = .ok (paths.flatMap fun path =>
      createdLine (CodeText.ofString (Path.relativeText path root))) := by
  have each : ∀ path ∈ paths, printMarkup (CodeText.ofString "  " ++
      styled "green" (CodeText.ofString "created") ++ CodeText.ofString " " ++
        escape (CodeText.ofString (Path.relativeText path root))) =
      .ok (createdLine (CodeText.ofString (Path.relativeText path root))) := by
    intro path _
    rw [printMarkup, plainText_created (plainText_escape_eq _)]
    rfl
  unfold writtenFiles
  dsimp only
  rw [mapM_eq_ok_map each, List.flatMap_def]
  rfl

/-- A printable path without backslashes and colons is listed on one line as it is. -/
theorem createdLine_of_isPrintable {path : CodeText} (printable : IsPrintable path)
    (noBackslash : backslash ∉ path) (noColon : Text.colon ∉ path)
    (short : created.length + path.length ≤ lineWidth) :
    createdLine path = created ++ path ++ [lineFeed] := by
  have shown : shownEscaped path = path := by
    rw [shownEscaped, plainText_escape printable noBackslash noColon]
    rfl
  have whole : IsPrintable (created ++ path) :=
    List.forall_mem_append.2 ⟨by decide, printable⟩
  rw [createdLine, shown, paragraph_of_short whole (by rw [List.length_append]; exact short)]

theorem textTable_eq {texts rows : List (CodeText × CodeText)} {title shownTitle : CodeText}
    (named : texts.mapM (fun entry => plainText entry.1) = .ok (rows.map Prod.fst))
    (valued : texts.mapM (fun entry => plainText entry.2) = .ok (rows.map Prod.snd))
    (someTitle : title ≠ []) (titled : plainText title = .ok shownTitle) :
    summaryTable.textTable texts title = .ok (tableOf shownTitle rows) := by
  have zipped : (rows.map Prod.fst).zip (rows.map Prod.snd) = rows := by
    rw [List.zip_map']
    exact List.map_id rows
  unfold summaryTable.textTable
  rw [named, valued]
  simp only [bind, Except.bind, if_neg someTitle, titled, Except.map, zipped]
  rfl

theorem textTable_eq_error {texts : List (CodeText × CodeText)} {names : List CodeText}
    {title : CodeText} {error : MarkupError}
    (named : texts.mapM (fun entry => plainText entry.1) = .ok names)
    (failed : texts.mapM (fun entry => plainText entry.2) = .error error) :
    summaryTable.textTable texts title = .error error := by
  unfold summaryTable.textTable
  rw [named, failed]
  rfl

end Console

namespace CommandLine.Command

open FileTree (perform)
open Console Markup

variable {engine : Engine} {given : Given} {config : Config} {arguments : List String}
  {environment : List (String × String)} {before after : FileTree} {result : GenerationResult}

def start (given : Given) : String := if routePrefix given = "" then "/" else routePrefix given

def format (given : Given) (config : Config) : RoutingFormat :=
  RoutingFormat.negotiate (requestedFormat given config)

def actions (given : Given) : String :=
  ", ".intercalate ((ActionPlan.make given.withWrite).actions.map Action.text)

def entityText (given : Given) : CodeText := CodeText.ofString (entity given)

def startText (given : Given) : CodeText := CodeText.ofString (start given)

def pathText (given : Given) (path : Path) : CodeText :=
  CodeText.ofString (Path.relativeText path.toString (bundle given).path.toString)

/-- Generating is a run on the request, if there is metadata for it. -/
theorem perform_generate (engine : Engine) (given : Given) (config : Config) (tree : FileTree) :
    perform (generate engine given config) tree =
      match (EntityMetadata.load tree (metadataSource given)).mapError Failure.ofLoadError with
      | .ok metadata =>
        perform ((generator engine given config).run (request given config metadata)) tree
      | .error failure => (.error failure, tree) := by
  rw [generate, Work.perform_get_bind, Work.perform_ofExcept_bind]
  cases (EntityMetadata.load tree (metadataSource given)).mapError Failure.ofLoadError <;> rfl

theorem exists_run_of_generate_eq_ok
    (generated : perform (generate engine given config) before = (.ok result, after)) :
    ∃ metadata, perform ((generator engine given config).run (request given config metadata)) before =
      (.ok result, after) := by
  rw [perform_generate] at generated
  split at generated
  · next metadata _ => exact ⟨metadata, generated⟩
  · cases generated

theorem plan_of_generate_eq_ok
    (generated : perform (generate engine given config) before = (.ok result, after)) :
    result.plan.request.entity = entity given ∧ result.plan.format = format given config ∧
      result.plan.actions = ActionPlan.make given.withWrite := by
  obtain ⟨metadata, ran⟩ := exists_run_of_generate_eq_ok generated
  obtain ⟨planned, _⟩ := Generator.took_of_run_eq_ok ran
  obtain ⟨requested, planActions, planFormat, _⟩ := Generator.eq_of_plan planned
  exact ⟨by rw [requested]; rfl, planFormat, planActions⟩

/-! ### The rows of the table -/

/-- The rows of the report, with what is shown of the entity and of the route prefix. -/
def reportRows (given : Given) (config : Config) (entity start : CodeText) (written : Nat) :
    List (CodeText × CodeText) := [
  (CodeText.ofString "Entity", entity),
  (CodeText.ofString "Format", CodeText.ofString (format given config).text),
  (CodeText.ofString "Actions", CodeText.ofString (actions given)),
  (CodeText.ofString "Route prefix", start),
  (CodeText.ofString "Files written", CodeText.ofString (toString written))]

theorem plainText_of_isNeutral {text : CodeText} (neutral : IsNeutral text)
    (printable : IsPrintable text) : plainText text = .ok text :=
  plainText_of_isUnmarked printable (isUnmarked_of_isNeutral neutral)

theorem neutral_names (entity start : CodeText) (written : Nat) :
    ∀ name ∈ (reportRows given config entity start written).map Prod.fst,
      IsNeutral name ∧ IsPrintable name := by
  simp only [reportRows, List.map_cons, List.map_nil]
  decide

theorem neutral_format (format : RoutingFormat) :
    IsNeutral (CodeText.ofString format.text) ∧ IsPrintable (CodeText.ofString format.text) := by
  cases format <;> decide

theorem neutral_actions (given : Given) :
    IsNeutral (CodeText.ofString (actions given)) ∧
      IsPrintable (CodeText.ofString (actions given)) := by
  unfold actions
  cases given.withWrite <;> decide

theorem neutral_number (number : Nat) :
    IsNeutral (CodeText.ofString (toString number)) ∧
      IsPrintable (CodeText.ofString (toString number)) := by
  have digits : ∀ point ∈ CodeText.ofString (toString number),
      0x30 ≤ point.value ∧ point.value ≤ 0x39 := by
    intro point member
    obtain ⟨char, inside, rfl⟩ := List.mem_map.1 member
    rw [Nat.toString_eq_ofList_toDigits, String.toList_ofList] at inside
    have digit := Nat.isDigit_of_mem_toDigits (by decide) (by decide) inside
    simp only [Char.isDigit, Bool.and_eq_true, decide_eq_true_eq] at digit
    exact digit
  constructor
  · intro point member
    obtain ⟨least, most⟩ := digits point member
    refine ⟨?_, ?_, ?_⟩
    all_goals
      rintro rfl
      revert least most
      decide
  · intro point member
    obtain ⟨least, most⟩ := digits point member
    exact ⟨by omega, by omega⟩

theorem values_eq (given : Given) (config : Config) (entity start : CodeText) (written : Nat) :
    ((reportRows given config entity start written).mapM fun entry => plainText entry.2) = (do
      let shownEntity ← plainText entity
      let shownStart ← plainText start
      return (reportRows given config shownEntity shownStart written).map Prod.snd) := by
  have fixed {text : CodeText} (neutral : IsNeutral text ∧ IsPrintable text) :
      plainText text = .ok text := plainText_of_isNeutral neutral.1 neutral.2
  simp only [reportRows, List.mapM_cons, List.mapM_nil, fixed (neutral_format _),
    fixed (neutral_actions given), fixed (neutral_number written)]
  cases plainText entity with
  | error error => rfl
  | ok shownEntity =>
      cases plainText start with
      | error error => rfl
      | ok shownStart => rfl

theorem summaryTable_eq (given : Given) (config : Config) (written : Nat) :
    Console.summaryTable [
      (.string "Entity", .string (entity given)),
      (.string "Format", .string (format given config).text),
      (.string "Actions", .string (actions given)),
      (.string "Route prefix", .string (start given)),
      (.string "Files written", .string (toString written))]
      (CodeText.ofString "CRUD scaffold") = Except.mapError .unprintable (do
        let shownEntity ← plainText (entityText given)
        let shownStart ← plainText (startText given)
        return tableOf (CodeText.ofString "CRUD scaffold")
          (reportRows given config shownEntity shownStart written)) := by
  have title : plainText (CodeText.ofString "CRUD scaffold") =
      .ok (CodeText.ofString "CRUD scaffold") :=
    plainText_of_isNeutral (by decide) (by decide)
  let texts := reportRows given config (entityText given) (startText given) written
  have named : texts.mapM (fun entry => plainText entry.1) = .ok (texts.map Prod.fst) := by
    refine mapM_eq_ok_map fun entry listed => ?_
    obtain ⟨neutral, printable⟩ :=
      neutral_names _ _ _ _ (List.mem_map_of_mem (f := Prod.fst) listed)
    exact plainText_of_isNeutral neutral printable
  have valued := values_eq given config (entityText given) (startText given) written
  change (summaryTable.textTable texts _).mapError TableFault.unprintable = _
  cases entityShown : plainText (entityText given) with
  | error error =>
      rw [entityShown] at valued
      rw [textTable_eq_error named valued]
      rfl
  | ok shownEntity =>
      rw [entityShown] at valued
      cases startShown : plainText (startText given) with
      | error error =>
          rw [startShown] at valued
          rw [textTable_eq_error named valued]
          rfl
      | ok shownStart =>
          rw [startShown] at valued
          rw [@textTable_eq _ (reportRows given config shownEntity shownStart written) _ _ named
            valued (by decide) title]
          rfl

/-! ### Reports -/

def createdLines (given : Given) (written : List Path) : CodeText :=
  written.flatMap fun path => createdLine (pathText given path)

def farewell : CodeText := CodeText.ofString "CRUD generation completed successfully!\n"

theorem perform_reportSuccess (planned : result.plan.request.entity = entity given ∧
      result.plan.format = format given config ∧
        result.plan.actions = ActionPlan.make given.withWrite) (tree : FileTree) :
    perform (reportSuccess given result) tree =
      (Except.mapError Failure.unprintable (do
        let shownEntity ← plainText (entityText given)
        let shownStart ← plainText (startText given)
        return createdLines given result.written ++ tableOf (CodeText.ofString "CRUD scaffold")
          (reportRows given config shownEntity shownStart result.written.length) ++ farewell),
        tree) := by
  obtain ⟨isEntity, isFormat, isActions⟩ := planned
  have listed := writtenFiles_eq (result.written.map Path.toString) (bundle given).path.toString
  have summary := summaryTable_eq given config result.written.length
  have ends : Console.success (CodeText.ofString "CRUD generation completed successfully!") =
      .ok farewell :=
    message_of_isNeutral (Style.isPlain_of_mem (by decide)) (by decide) (by decide) (by decide)
  unfold reportSuccess
  rw [listWritten, perform_printed_bind listed]
  dsimp only
  rw [isEntity, isFormat, isActions]
  change perform (Work.ofExcept ((Console.summaryTable [
      (.string "Entity", .string (entity given)),
      (.string "Format", .string (format given config).text),
      (.string "Actions", .string (actions given)),
      (.string "Route prefix", .string (start given)),
      (.string "Files written", .string (toString result.written.length))]
      (CodeText.ofString "CRUD scaffold")).mapError .ofTableFault) >>= _) tree = _
  rw [summary, Work.perform_ofExcept_bind]
  cases plainText (entityText given) with
  | error error => rfl
  | ok shownEntity =>
      cases plainText (startText given) with
      | error error => rfl
      | ok shownStart =>
          change perform (printed _ >>= _) tree = _
          rw [perform_printed_bind ends, createdLines, List.flatMap_map]
          rfl

/-- A run that has ended well is reported with code 0 if its entity and its route prefix can be
printed as markup, and else the command breaks off behind it. There is a line for each written file,
and the table shows what the markup leaves. -/
theorem perform_run_of_generated (read : Reading.ofTexts arguments = .ok (.complete given))
    (configured : configure given environment before = .ok config)
    (generated : perform (generate engine given config) before = (.ok result, after)) :
    ∃ announced, perform (run engine arguments environment) before =
      (Except.mapError Failure.unprintable (do
        let shownEntity ← plainText (entityText given)
        let shownStart ← plainText (startText given)
        return { exitCode := 0, output := announced ++ (createdLines given result.written ++
          tableOf (CodeText.ofString "CRUD scaffold")
            (reportRows given config shownEntity shownStart result.written.length) ++
          farewell) }), after) := by
  obtain ⟨announced, executed⟩ := exists_announced engine given config before
  refine ⟨announced, ?_⟩
  rw [perform_run read, configured]
  dsimp only
  rw [executed, generated]
  dsimp only
  rw [FileTree.perform_bind, perform_reportSuccess (plan_of_generate_eq_ok generated)]
  cases plainText (entityText given) with
  | error error => rfl
  | ok shownEntity => cases plainText (startText given) <;> rfl

/-- Does a report fit? Its texts are printable ASCII, and no line has to be broken. -/
structure Fits (given : Given) (config : Config) (written : List Path) : Prop where
  entity : IsPrintable (entityText given)
  start : IsPrintable (startText given)
  paths : ∀ path ∈ written, IsPrintable (pathText given path) ∧
    created.length + (pathText given path).length ≤ lineWidth
  rows : ∀ row ∈ reportRows given config (entityText given) (startText given) written.length,
    row.2.length + 20 ≤ lineWidth

/-- The rows of a report on a run with this many files. -/
def markedRows (given : Given) (config : Config) (written : Nat) : List (CodeText × CodeText) :=
  reportRows given config (entityText given) (startText given) written

theorem Fits.tableOf_eq {written : List Path} (fits : Fits given config written) :
    tableOf (CodeText.ofString "CRUD scaffold") (markedRows given config written.length) =
      unlines (tableLines (CodeText.ofString "CRUD scaffold") 13
        (longest (heading.2 :: (markedRows given config written.length).map Prod.snd))
        (markedRows given config written.length)) ++ [lineFeed] := by
  have printable : ∀ row ∈ markedRows given config written.length,
      IsPrintable row.1 ∧ IsPrintable row.2 := by
    intro row listed
    refine ⟨(neutral_names _ _ _ _ (List.mem_map_of_mem (f := Prod.fst) listed)).2, ?_⟩
    simp only [markedRows, reportRows, List.mem_cons, List.not_mem_nil, or_false] at listed
    rcases listed with rfl | rfl | rfl | rfl | rfl
    · exact fits.entity
    · exact (neutral_format _).2
    · exact (neutral_actions given).2
    · exact fits.start
    · exact (neutral_number _).2
  have names :
      longest (heading.1 :: (markedRows given config written.length).map Prod.fst) = 13 := by
    simp only [markedRows, reportRows, List.map_cons, List.map_nil]
    decide
  have values : longest (heading.2 :: (markedRows given config written.length).map Prod.snd) ≤
      180 := by
    refine longest_le (List.forall_mem_cons.2 ⟨by decide, fun text listed => ?_⟩)
    obtain ⟨row, inRows, rfl⟩ := List.mem_map.1 listed
    have short := fits.rows row inRows
    unfold lineWidth at short
    omega
  refine tableOf_of_short printable (by decide) names rfl ?_ ?_
  · unfold lineWidth
    omega
  · have title : (CodeText.ofString "CRUD scaffold").length = 13 := by decide
    omega

/-- The report on a run that has ended well, when its texts are printable and short. The entity and
the route prefix are shown as they are if they are unmarked, and without colons only then; the
command ends with code 0 if both can be printed as markup, and breaks off otherwise, behind the
run. -/
theorem report_on_generated (read : Reading.ofTexts arguments = .ok (.complete given))
    (configured : configure given environment before = .ok config)
    (generated : perform (generate engine given config) before = (.ok result, after))
    (fits : Fits given config result.written) :
    ∃ announced,
      (IsUnmarked (entityText given) → IsUnmarked (startText given) →
        perform (run engine arguments environment) before =
          (.ok { exitCode := 0, output := announced ++ (createdLines given result.written ++
            (unlines (tableLines (CodeText.ofString "CRUD scaffold") 13
              (longest (heading.2 :: (markedRows given config result.written.length).map Prod.snd))
              (markedRows given config result.written.length)) ++ [lineFeed]) ++ farewell) },
            after)) ∧
      (∀ shownEntity shownStart, plainText (entityText given) = .ok shownEntity →
        plainText (startText given) = .ok shownStart →
        perform (run engine arguments environment) before =
          (.ok { exitCode := 0, output := announced ++ (createdLines given result.written ++
            tableOf (CodeText.ofString "CRUD scaffold")
              (reportRows given config shownEntity shownStart result.written.length) ++
            farewell) }, after)) ∧
      (∀ error, (plainText (entityText given) = .error error ∨
          ∃ shownEntity, plainText (entityText given) = .ok shownEntity ∧
            plainText (startText given) = .error error) →
        perform (run engine arguments environment) before = (.error (.unprintable error), after)) ∧
      (∀ text ∈ [entityText given, startText given], Text.colon ∉ text →
        (plainText text = .ok text ↔ IsUnmarked text)) ∧
      ∀ path ∈ result.written, backslash ∉ pathText given path → Text.colon ∉ pathText given path →
        createdLine (pathText given path) = created ++ pathText given path ++ [lineFeed] := by
  obtain ⟨announced, reported⟩ := perform_run_of_generated read configured generated
  have shown {shownEntity shownStart : CodeText}
      (entityShown : plainText (entityText given) = .ok shownEntity)
      (startShown : plainText (startText given) = .ok shownStart) :
      perform (run engine arguments environment) before =
        (.ok { exitCode := 0, output := announced ++ (createdLines given result.written ++
          tableOf (CodeText.ofString "CRUD scaffold")
            (reportRows given config shownEntity shownStart result.written.length) ++
          farewell) }, after) := by
    rw [reported, entityShown, startShown]
    rfl
  refine ⟨announced, ?_, fun _ _ => shown, ?_, ?_, ?_⟩
  · intro entityUnmarked startUnmarked
    have table := fits.tableOf_eq
    rw [← table]
    exact shown (plainText_of_isUnmarked fits.entity entityUnmarked)
      (plainText_of_isUnmarked fits.start startUnmarked)
  · rintro error (failed | ⟨shownEntity, entityShown, failed⟩)
    · rw [reported, failed]
      rfl
    · rw [reported, entityShown, failed]
      rfl
  · intro text listed noColon
    have printable : IsPrintable text := by
      rcases List.mem_cons.1 listed with rfl | other
      · exact fits.entity
      · exact List.mem_singleton.1 other ▸ fits.start
    exact plainText_eq_self_iff printable noColon
  · intro path listed noBackslash noColon
    obtain ⟨printable, short⟩ := fits.paths path listed
    exact createdLine_of_isPrintable printable noBackslash noColon short

instance (given : Given) (config : Config) (written : List Path) :
    Decidable (Fits given config written) :=
  decidable_of_iff
    (IsPrintable (entityText given) ∧ IsPrintable (startText given) ∧
      (∀ path ∈ written, IsPrintable (pathText given path) ∧
        created.length + (pathText given path).length ≤ lineWidth) ∧
      ∀ row ∈ reportRows given config (entityText given) (startText given) written.length,
        row.2.length + 20 ≤ lineWidth)
    ⟨fun ⟨entity, start, paths, rows⟩ => ⟨entity, start, paths, rows⟩,
      fun fits => ⟨fits.entity, fits.start, fits.paths, fits.rows⟩⟩

/-- Arguments with a route prefix that closes a tag, though none is open. -/
def closingGiven : Given where
  entity := some "Post"
  values := [(.skeletonDirectory, "s"), (.routePrefix, "[/]"), (.format, "annotation"),
    (.metadata, "m.json"), (.bundleNameSpace, "Acme"), (.bundlePath, "b")]

def closingArguments : List String :=
  ["Post", "--bundle-path", "b", "--bundle-namespace", "Acme", "--metadata", "m.json", "--format",
    "annotation", "--route-prefix", "[/]", "--skeleton-dir", "s"]

/-- The skeletons of a small controller, its views and its test, with metadata beside them. -/
def describedTree : FileTree :=
  ⟨(["m.json"], .file (.text "\x7b\x22identifier\x22: [\x22id\x22]\x7d")) ::
    Generator.skeletonTree.entries⟩

def endsFitting : Except Failure GenerationResult → Bool
  | .ok result => decide (Fits closingGiven {} result.written)
  | .error _ => false

theorem broken_off_at_closing_tag :
    ∃ result after error,
      perform (generate .simple closingGiven {}) describedTree = (.ok result, after) ∧
        perform (run .simple closingArguments []) describedTree =
          (.error (.unprintable error), after) := by
  have accepted : (Reading.ofTexts closingArguments).toOption = some (.complete closingGiven) := by
    decide +kernel
  have usual : (configure closingGiven [] describedTree).toOption = some {} := by decide +kernel
  have fitting : endsFitting (perform (generate .simple closingGiven {}) describedTree).1 = true := by
    decide +kernel
  have shown : (plainText (entityText closingGiven)).toOption = some (entityText closingGiven) := by
    decide +kernel
  have unshown : (plainText (startText closingGiven)).toOption.isNone = true := by decide +kernel
  cases generated : perform (generate .simple closingGiven {}) describedTree with
  | mk outcome after =>
      rw [generated] at fitting
      cases outcome with
      | error failure => cases fitting
      | ok result =>
          obtain ⟨announced, _, _, breaks, _⟩ := report_on_generated
            (eq_ok_of_toOption_eq_some accepted) (eq_ok_of_toOption_eq_some usual) generated
            (of_decide_eq_true fitting)
          cases failed : plainText (startText closingGiven) with
          | ok shownStart =>
              rw [failed] at unshown
              cases unshown
          | error error =>
              exact ⟨result, after, error, rfl,
                breaks error (Or.inr ⟨_, eq_ok_of_toOption_eq_some shown, failed⟩)⟩

end CommandLine.Command

end EntityScaffold
