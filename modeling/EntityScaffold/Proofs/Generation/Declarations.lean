import EntityScaffold.Proofs.Generation.References
import EntityScaffold.Proofs.Generation.Refusal

/-
Classes and their places. A class file declares a name space that is made of dotted texts, and stands
in directories that are made of the same texts, read as paths. Both come down to the words between the
dots, so every class is where its name asks for it: its directories are the words of its name space
behind that of the bundle, and its file has its name.
-/

namespace EntityScaffold

open Text (joinWith replaceChar splitWhere)
open FileTree (perform)

/-! ### Words -/

namespace EntityName

def words (dotted : String) : List (List Char) :=
  (splitWhere (· == '.') dotted.toList).filter fun piece => piece ≠ []

/-- Is there something between any two dots, and at both ends, unless there is nothing at all? -/
def HasFullWords (dotted : String) : Prop :=
  dotted.toList = [] ∨ [] ∉ splitWhere (· == '.') dotted.toList

instance (dotted : String) : Decidable (HasFullWords dotted) :=
  inferInstanceAs (Decidable (_ ∨ _))

variable {dotted : String} {name : EntityName}

theorem map_toList_folders (plain : '/' ∉ dotted.toList) :
    (folders dotted).map String.toList = words dotted := by
  have same : String.toList ∘ String.ofList = id := funext fun _ => String.toList_ofList
  rw [folders_eq plain, List.map_map, same, List.map_id]
  rfl

theorem words_of_full (full : [] ∉ splitWhere (· == '.') dotted.toList) :
    words dotted = splitWhere (· == '.') dotted.toList := by
  refine List.filter_eq_self.mpr fun piece member => decide_eq_true fun nothing => ?_
  exact full (nothing ▸ member)

theorem replaceChar_eq_joinWith_words (full : HasFullWords dotted) (new : Char) :
    replaceChar '.' new dotted.toList = joinWith [new] (words dotted) := by
  rcases full with nothing | full
  · rw [words, nothing]
    rfl
  · rw [Text.replaceChar_eq_joinWith, words_of_full full]

theorem words_ne_nil (filled : dotted.toList ≠ []) (full : HasFullWords dotted) :
    words dotted ≠ [] := by
  rw [words_of_full (full.resolve_left filled)]
  exact Text.splitWhere_ne_nil _ _

theorem IsRegular.hasFullWords_nameSpace (regular : IsRegular dotted)
    (split : split? dotted = some name) : HasFullWords name.nameSpace := by
  rw [HasFullWords, (nameSpace_eq_of_split? split).1]
  obtain ⟨front, pieces, origin⟩ := splitWhere_eq_append_classChars dotted.toList
  rcases origin with same | ⟨_, nothing⟩
  · right
    rw [← same]
    intro member
    exact regular.nil_not_mem_splitWhere (pieces ▸ List.mem_append_left _ member)
  · exact Or.inl nothing

end EntityName

namespace ControllerDir

variable (written : String)

theorem splitWhere_nameSpaceOf :
    splitWhere (· == '.') (nameSpaceOf (normalize written)).toList = folders written := by
  rw [nameSpaceOf, String.toList_ofList, Text.splitWhere_replaceChar (dot_not_mem_normalize written)]
  exact splitWhere_normalize written

theorem hasFullWords_nameSpaceOf : EntityName.HasFullWords (nameSpaceOf (normalize written)) := by
  right
  rw [splitWhere_nameSpaceOf]
  exact fun member => (folders_inside member).1 rfl

/-- The name space of a controller directory and its directories have the same words. -/
theorem words_nameSpaceOf : EntityName.words (nameSpaceOf (normalize written)) = folders written := by
  rw [EntityName.words, splitWhere_nameSpaceOf]
  exact List.filter_eq_self.mpr fun folder listed => decide_eq_true (folders_inside listed).1

end ControllerDir

namespace Skeleton

theorem nameSpaceChars_cons_of_empty {first : String} (nothing : first.toList = [])
    (rest : List String) : nameSpaceChars (first :: rest) = nameSpaceChars rest := by
  rw [nameSpaceChars, nameSpaceChars, List.map_cons, nothing]
  rfl

/-- A name space is its first text and the words of the others. -/
theorem nameSpaceChars_cons {first : String} {rest : List String} (filled : first.toList ≠ [])
    (full : ∀ text ∈ rest, EntityName.HasFullWords text) :
    nameSpaceChars (first :: rest) =
      joinWith ['\x5c'] (replaceChar '.' '\x5c' first.toList :: rest.flatMap EntityName.words) := by
  have counts : (!first.toList.isEmpty) = true := by simpa using filled
  have others : replaceChar '.' '\x5c' (((rest.map String.toList).filter fun chars =>
      !chars.isEmpty).flatMap fun other => ['.'] ++ other) =
        (rest.flatMap EntityName.words).flatMap fun other => ['\x5c'] ++ other := by
    induction rest with
    | nil => rfl
    | cons text others ih =>
        obtain ⟨ofText, ofOthers⟩ := List.forall_mem_cons.mp full
        rw [List.map_cons, List.flatMap_cons, List.flatMap_append, ← ih ofOthers]
        by_cases nothing : text.toList = []
        · rw [EntityName.words, nothing]
          rfl
        · have kept : (!text.toList.isEmpty) = true := by simpa using nothing
          obtain ⟨word, more, same⟩ :=
            List.exists_cons_of_ne_nil (EntityName.words_ne_nil nothing ofText)
          have chars := EntityName.replaceChar_eq_joinWith_words ofText '\x5c'
          rw [same, Text.joinWith_cons] at chars
          rw [List.filter_cons, if_pos kept, List.flatMap_cons, same, List.flatMap_cons,
            List.append_assoc ['\x5c'], ← chars]
          simp only [replaceChar, List.map_append, List.map_cons, List.map_nil, if_true]
  rw [nameSpaceChars, List.map_cons, List.filter_cons, if_pos counts, Text.joinWith_cons,
    Text.joinWith_cons, ← others]
  simp only [replaceChar, List.map_append]

end Skeleton

/-! ### Requests whose names are within their lines -/

/-- No name that a request puts into class files holds a line break. -/
structure GenerationRequest.HasOneLineNames (request : GenerationRequest) : Prop where
  bundle : '\n' ∉ request.bundle.name.toList
  nameSpace : '\n' ∉ request.bundle.nameSpace.toList
  entity : '\n' ∉ request.entity.toList
  controllerDir : '\n' ∉ request.controllerDir.toList
  routePrefix : '\n' ∉ request.routePrefix.toList

namespace Generator

variable {generator : Generator} {request : GenerationRequest} {plan : GenerationPlan}

theorem lacks_newline_of_plan (planned : generator.plan request = .ok plan)
    (oneLine : request.HasOneLineNames) : plan.Lacks '\n' := by
  obtain ⟨requested, _, _, resolved⟩ := eq_of_plan planned
  obtain ⟨nameSpace, className⟩ :=
    EntityName.nameSpace_eq_of_split? (OutputPaths.eq_of_resolve? resolved).1
  subst requested
  have inClass : '\n' ∉ plan.paths.entity.className.toList := by
    rw [className]
    exact fun member => oneLine.entity (EntityName.mem_of_mem_classChars member)
  have inNameSpace : '\n' ∉ plan.paths.entity.nameSpace.toList := by
    rw [nameSpace]
    exact fun member => oneLine.entity (EntityName.mem_of_mem_nameSpaceChars member)
  exact
    { names := ⟨oneLine.bundle, oneLine.entity, inClass, oneLine.routePrefix⟩
      nameSpace := oneLine.nameSpace
      controllerNameSpace := fun member => oneLine.controllerDir
        (OutputPaths.mem_of_mem_controllerNameSpace resolved member (by decide) (by decide))
      entityNameSpace := inNameSpace }

end Generator

/-! ### Classes in their places -/

/-- A class file declares the class that it is loaded for: the name space is that of the bundle and
the directories from the root of the bundle to the file, and the class with the extension of sources
is the name of the file. -/
structure GenerationRequest.IsDeclaredInPlace (request : GenerationRequest) (extensions : Extensions)
    (file : PlannedFile) (parent : String) (declaration : Declaration) : Prop where
  declared : declaration.IsIn parent.toList file.text
  read : request.HasOneLineNames →
    Declaration.ofText? parent.toList file.text = some declaration
  nameSpace : ∃ folders, file.path.parent.relativeTo? request.bundle.path = some ⟨.relative, folders⟩ ∧
    declaration.nameSpace = joinWith ['\x5c']
      (replaceChar '.' '\x5c' request.bundle.nameSpace.toList :: folders.map String.toList)
  name : declaration.name ++ extensions.source.toList = file.path.name.toList

/-- What is read off a class file follows from its place. -/
theorem GenerationRequest.IsDeclaredInPlace.ofText?_eq {request : GenerationRequest}
    {extensions : Extensions} {file : PlannedFile} {parent : String}
    {declaration expected : Declaration} {folders : List String}
    (inPlace : request.IsDeclaredInPlace extensions file parent declaration)
    (oneLine : request.HasOneLineNames)
    (below : file.path.parent.relativeTo? request.bundle.path = some ⟨.relative, folders⟩)
    (nameSpace : expected.nameSpace = joinWith ['\x5c']
      (replaceChar '.' '\x5c' request.bundle.nameSpace.toList :: folders.map String.toList))
    (name : expected.name ++ extensions.source.toList = file.path.name.toList) :
    Declaration.ofText? parent.toList file.text = some expected := by
  obtain ⟨found, same, declared⟩ := inPlace.nameSpace
  rw [below, Option.some.injEq, Path.mk.injEq] at same
  rw [← same.2, ← nameSpace] at declared
  have sameName : declaration.name = expected.name :=
    List.append_cancel_right (inPlace.name.trans name.symm)
  rw [inPlace.read oneLine, Option.some.injEq]
  cases declaration
  cases expected
  rw [Declaration.mk.injEq]
  exact ⟨declared, sameName⟩

namespace OutputPaths

variable {root : Path} {entity controllerDir : String} {format : RoutingFormat}
  {extensions : Extensions} {paths : OutputPaths}

/-- The dotted texts behind the name space of the bundle, in a declaration and as directories. -/
theorem words_of_resolve?
    (resolved : resolve? root entity controllerDir format extensions = some paths)
    (regular : EntityName.IsRegular entity) :
    (∀ text ∈ [paths.controllerNameSpace, paths.entity.nameSpace], EntityName.HasFullWords text) ∧
      [paths.controllerNameSpace, paths.entity.nameSpace].flatMap EntityName.words =
        (ControllerDir.folderNames controllerDir ++
          EntityName.folders paths.entity.nameSpace).map String.toList := by
  obtain ⟨split, same⟩ := eq_of_resolve? resolved
  have plain := EntityName.slash_not_mem_nameSpace split regular.slash_not_mem
  have identity : String.toList ∘ String.ofList = id := funext fun _ => String.toList_ofList
  rw [congrArg OutputPaths.controllerNameSpace same]
  constructor
  · intro text listed
    rcases List.mem_cons.mp listed with isController | isEntity
    · rw [isController]
      exact ControllerDir.hasFullWords_nameSpaceOf controllerDir
    · rw [List.mem_singleton.mp isEntity]
      exact regular.hasFullWords_nameSpace split
  · rw [List.flatMap_cons, List.flatMap_singleton, ControllerDir.words_nameSpaceOf, List.map_append,
      EntityName.map_toList_folders plain, ControllerDir.folderNames, List.map_map, identity,
      List.map_id]

end OutputPaths

namespace Generator

variable {generator : Generator} {request : GenerationRequest} {plan : GenerationPlan}

theorem isDeclaredInPlace_of_names {extensions : Extensions} {file : PlannedFile} {parent : String}
    {declaration : Declaration} {folders texts : List String} {fileName : String}
    (text : ∃ text, Library.packaged.renderText .empty file.skeleton file.bindings =
        .ok (CodeText.ofChars text) ∧ declaration.IsIn parent.toList text ∧
      (plan.Lacks '\n' → Declaration.ofText? parent.toList text = some declaration))
    (planned : generator.plan request = .ok plan)
    (stands : file.path = request.bundle.path.descend (folders ++ [fileName]))
    (filled : request.bundle.nameSpace ≠ "")
    (full : ∀ text ∈ texts, EntityName.HasFullWords text)
    (words : texts.flatMap EntityName.words = folders.map String.toList)
    (nameSpace : declaration.nameSpace =
      Skeleton.nameSpaceChars (request.bundle.nameSpace :: texts))
    (name : declaration.name ++ extensions.source.toList = fileName.toList) :
    request.IsDeclaredInPlace extensions file parent declaration := by
  obtain ⟨text, rendered, declared, read⟩ := text
  have isText : file.text = text := PlannedFile.text_eq rendered
  have counts : request.bundle.nameSpace.toList ≠ [] := fun nothing =>
    filled (String.toList_eq_nil_iff.mp nothing)
  refine
    { declared := isText ▸ declared
      read := fun oneLine => isText ▸ read (lacks_newline_of_plan planned oneLine)
      nameSpace := ⟨folders, ?_, ?_⟩
      name := ?_ }
  · rw [stands, Path.parent_descend_concat, Path.relativeTo?_descend]
  · rw [nameSpace, Skeleton.nameSpaceChars_cons counts full, words]
  · rw [stands, Path.name_descend_concat, name]

theorem isDeclaredInPlace_of_plan (planned : generator.plan request = .ok plan)
    (filled : request.bundle.nameSpace ≠ "") (regular : EntityName.IsRegular request.entity)
    (extension : '/' ∉ generator.extensions.source.toList) :
    request.IsDeclaredInPlace generator.extensions plan.controllerFile "Controller"
        (Generated.controllerDeclaration plan) ∧
      request.IsDeclaredInPlace generator.extensions plan.testFile "WebTestCase"
        (Generated.testDeclaration plan) := by
  obtain ⟨requested, made, _, resolved⟩ := eq_of_plan planned
  have actions : plan.actions = ActionPlan.make plan.request.withWrite := requested ▸ made
  obtain ⟨full, words⟩ := OutputPaths.words_of_resolve? resolved regular
  obtain ⟨controllerStands, testStands⟩ := OutputPaths.classFiles_eq_descend resolved
    regular.slash_not_mem regular.head?_ne_dot extension
  constructor
  · refine isDeclaredInPlace_of_names (Generated.exists_controller_declaration actions .empty)
      planned controllerStands filled full words ?_ ?_
    · rw [← requested]
      rfl
    · rw [OutputPaths.controllerFile, String.toList_append, String.toList_append]
      rfl
  · have fullOfTest : ∀ text ∈ ["Tests", plan.paths.controllerNameSpace,
        plan.paths.entity.nameSpace], EntityName.HasFullWords text :=
      List.forall_mem_cons.mpr ⟨by decide, full⟩
    have stands : plan.testFile.path = request.bundle.path.descend
        (("Tests" :: (ControllerDir.folderNames request.controllerDir ++
          EntityName.folders plan.paths.entity.nameSpace)) ++
            [OutputPaths.testFile plan.paths.entity.className generator.extensions]) := testStands
    refine isDeclaredInPlace_of_names (Generated.exists_test_declaration actions .empty) planned
      stands filled fullOfTest (congrArg ("Tests".toList :: ·) words) ?_ ?_
    · rw [← requested]
      rfl
    · rw [OutputPaths.testFile, String.toList_append, String.toList_append]
      rfl

theorem renderText_classFile (packaged : generator.library = .packaged)
    (actions : plan.actions = ActionPlan.make plan.request.withWrite) {file : PlannedFile}
    (listed : file ∈ [plan.controllerFile, plan.testFile]) (tree : FileTree) :
    generator.library.renderText tree file.skeleton file.bindings =
      .ok (CodeText.ofChars file.text) := by
  have found {text : List Char} (rendered : Library.packaged.renderText tree file.skeleton
      file.bindings = .ok (CodeText.ofChars text)) :
      generator.library.renderText tree file.skeleton file.bindings =
        .ok (CodeText.ofChars file.text) := by
    rw [packaged, rendered, PlannedFile.text_eq rendered]
  rcases List.mem_cons.mp listed with isController | isTest
  · subst isController
    obtain ⟨_, rendered, _⟩ := Generated.exists_controller_declaration actions tree
    exact found rendered
  · cases List.mem_singleton.mp isTest
    obtain ⟨_, rendered, _⟩ := Generated.exists_test_declaration actions tree
    exact found rendered

/-- With the packaged skeletons, the controller and the functional test of every request for a regular
entity in a bundle with a name space declare the classes that their places ask for. -/
theorem classes_declared_in_place (packaged : generator.library = .packaged)
    (identifier : request.metadata.identifier = [CodeText.ofString "id"])
    (filled : request.bundle.nameSpace ≠ "") (regular : EntityName.IsRegular request.entity)
    (extension : '/' ∉ generator.extensions.source.toList) :
    ∃ plan, generator.plan request = .ok plan ∧
      (∃ controller, request.IsDeclaredInPlace generator.extensions plan.controllerFile
        "Controller" controller) ∧
      (∃ test, request.IsDeclaredInPlace generator.extensions plan.testFile "WebTestCase" test) ∧
      ∀ file ∈ [plan.controllerFile, plan.testFile],
        (∀ tree, generator.library.renderText tree file.skeleton file.bindings =
          .ok (CodeText.ofChars file.text)) ∧
        ∀ before after result, perform (generator.run request) before = (.ok result, after) →
          result.plan = plan ∧ file.path ∈ result.written ∧
            (request.IsPlain generator.extensions →
              after.readContent file.path = .ok (.text (String.ofList file.text))) := by
  have named : ¬(request.entity = "" ∨ request.entity.toList.getLast? = some '.') := by
    rw [← EntityName.split?_eq_none_iff,
      EntityName.split?_eq_some_iff.mpr ⟨regular.classChars_ne_nil, rfl⟩]
    exact Option.some_ne_none _
  obtain ⟨plan, planned⟩ := exists_plan_iff.mpr ⟨identifier, named⟩
  obtain ⟨requested, made, _⟩ := eq_of_plan planned
  obtain ⟨controller, test⟩ := isDeclaredInPlace_of_plan planned filled regular extension
  refine ⟨plan, planned, ⟨_, controller⟩, ⟨_, test⟩, fun file listed =>
    ⟨renderText_classFile packaged (requested ▸ made) listed, fun before after result ran => ?_⟩⟩
  have same : result.plan = plan := by
    have taken := (took_of_run_eq_ok ran).1
    rw [planned] at taken
    exact (Except.ok.inj taken).symm
  have member : file ∈ result.plan.files := by
    rw [same]
    rcases List.mem_cons.mp listed with isController | isTest
    · rw [isController]
      exact plan.controllerFile_mem
    · rw [List.mem_singleton.mp isTest]
      exact plan.testFile_mem
  refine ⟨same, ?_, fun plain => held_text_of_run_eq_ok packaged plain ran member⟩
  rw [written_of_run_eq_ok ran]
  exact List.mem_map_of_mem member

/-- A request with dots in all its names, and stray marks around its controller directory. -/
def dottedRequest : GenerationRequest where
  bundle := ⟨"Blog", "Acme.Blog", .ofString "b"⟩
  entity := "Admin.Post"
  metadata := ⟨[], [CodeText.ofString "id"]⟩
  controllerDir := "/Api.v1\x5c"

theorem dotted_class_declared_in_place :
    ∃ plan, Generator.plan {} dottedRequest = .ok plan ∧
      Declaration.ofText? "Controller".toList plan.controllerFile.text =
        some ⟨"Acme\x5cBlog\x5cApi\x5cv1\x5cAdmin".toList, "PostController".toList⟩ ∧
      Declaration.ofText? "WebTestCase".toList plan.testFile.text =
        some ⟨"Acme\x5cBlog\x5cTests\x5cApi\x5cv1\x5cAdmin".toList,
          "PostControllerTest".toList⟩ := by
  have oneLine : dottedRequest.HasOneLineNames := by
    constructor <;> decide
  have places : ∀ plan ∈ (Generator.plan {} dottedRequest).toOption,
      (plan.controllerFile.path.parent.relativeTo? dottedRequest.bundle.path =
          some ⟨.relative, ["Api", "v1", "Admin"]⟩ ∧
        plan.controllerFile.path.name = "PostController.php") ∧
      plan.testFile.path.parent.relativeTo? dottedRequest.bundle.path =
          some ⟨.relative, ["Tests", "Api", "v1", "Admin"]⟩ ∧
        plan.testFile.path.name = "PostControllerTest.php" := by
    decide +kernel
  obtain ⟨plan, planned, ⟨_, controller⟩, ⟨_, test⟩, _⟩ :=
    @classes_declared_in_place {} dottedRequest rfl rfl (by decide) (by decide) (by decide)
  obtain ⟨⟨controllerPlace, controllerName⟩, testPlace, testName⟩ := places plan (planned ▸ rfl)
  refine ⟨plan, planned, controller.ofText?_eq oneLine controllerPlace ?_ ?_,
    test.ofText?_eq oneLine testPlace ?_ ?_⟩
  · decide +kernel
  · rw [controllerName]
    decide +kernel
  · decide +kernel
  · rw [testName]
    decide +kernel

end Generator

end EntityScaffold
