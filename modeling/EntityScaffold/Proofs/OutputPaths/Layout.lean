import EntityScaffold.OutputPaths
import EntityScaffold.Proofs.ControllerDir.Folders
import EntityScaffold.Proofs.EntityName.Segments
import EntityScaffold.Proofs.Path.Descent
import EntityScaffold.Proofs.Text.LowerCase

/-
The layout of the outputs of a run. Each output is reached from the root of the bundle by names: the
folders of the controller directory, the folders of the namespace, and a file. The one exception is
an entity name that begins with a dot, for then a joined text begins with a separator; what is said
here about joining covers that case too.
-/

namespace EntityScaffold

open Text

namespace EntityName

def folders (dotted : String) : List String := Path.partsOf (asPath dotted).toList

theorem asPath_toList (dotted : String) :
    (asPath dotted).toList = replaceChar '.' '/' dotted.toList := String.toList_ofList

theorem folders_eq {dotted : String} (plain : '/' ∉ dotted.toList) :
    folders dotted =
      ((splitWhere (· == '.') dotted.toList).filter fun piece => piece ≠ []).map String.ofList := by
  have pieces : splitWhere Path.isSeparator (replaceChar '.' '/' dotted.toList) =
      splitWhere (· == '.') dotted.toList := splitWhere_replaceChar plain
  unfold folders Path.partsOf
  rw [asPath_toList, pieces]
  refine congrArg (List.map String.ofList) (List.filter_congr fun piece member => ?_)
  -- a piece that is a dot would hold a separator
  have noDot : piece ≠ ['.'] := by
    intro same
    subst same
    have inside := (mem_of_mem_splitWhere member (List.mem_singleton.mpr rfl)).2
    cases inside
  simp [noDot]

theorem inside_of_mem_folders {dotted name : String} (plain : '/' ∉ dotted.toList)
    (member : name ∈ folders dotted) :
    name.toList ≠ [] ∧ '.' ∉ name.toList ∧ ∀ char ∈ name.toList, char ∈ dotted.toList := by
  rw [folders_eq plain] at member
  obtain ⟨piece, listed, same⟩ := List.mem_map.mp member
  obtain ⟨present, filled⟩ := List.mem_filter.mp listed
  subst same
  rw [String.toList_ofList]
  refine ⟨of_decide_eq_true filled, ?_, fun char within => (mem_of_mem_splitWhere present within).1⟩
  intro within
  have inside := (mem_of_mem_splitWhere present within).2
  cases inside

theorem asPath_head?_eq_slash_iff {dotted : String} (plain : '/' ∉ dotted.toList) :
    (asPath dotted).toList.head? = some '/' ↔ dotted.toList.head? = some '.' := by
  rw [asPath_toList]
  cases hText : dotted.toList with
  | nil => simp [replaceChar]
  | cons first rest =>
      have different : first ≠ '/' := fun same => plain (by rw [hText, same]; exact List.mem_cons_self)
      by_cases dot : first = '.'
      · simp [replaceChar, dot]
      · simp [replaceChar, dot, different]

/-- Joining a dotted text that begins with no dot leads down its folders. -/
theorem join_asPath {dotted : String} (plain : '/' ∉ dotted.toList)
    (noDot : dotted.toList.head? ≠ some '.') (base : Path) :
    base.join (asPath dotted) = base.descend (folders dotted) :=
  Path.join_of_relative (fun slash => noDot ((asPath_head?_eq_slash_iff plain).mp slash)) base

/-! ### The two parts of a name -/

variable {dotted : String} {name : EntityName}

theorem nameSpace_eq_of_split? (split : split? dotted = some name) :
    name.nameSpace.toList = nameSpaceChars dotted.toList ∧
      name.className.toList = classChars dotted.toList := by
  obtain ⟨_, same⟩ := split?_eq_some_iff.mp split
  subst same
  exact ⟨String.toList_ofList, String.toList_ofList⟩

theorem slash_not_mem_nameSpace (split : split? dotted = some name) (plain : '/' ∉ dotted.toList) :
    '/' ∉ name.nameSpace.toList := by
  rw [(nameSpace_eq_of_split? split).1]
  exact fun member => plain (mem_of_mem_nameSpaceChars member)

theorem slash_not_mem_className (split : split? dotted = some name) (plain : '/' ∉ dotted.toList) :
    '/' ∉ name.className.toList := by
  rw [(nameSpace_eq_of_split? split).2]
  exact fun member => plain (mem_of_mem_classChars member)

theorem dot_not_mem_className (split : split? dotted = some name) :
    '.' ∉ name.className.toList := by
  rw [(nameSpace_eq_of_split? split).2]
  exact dot_not_mem_classChars dotted.toList

theorem isName_className (split : split? dotted = some name) (plain : '/' ∉ dotted.toList) :
    Path.IsName name.className.toList := by
  have filled : name.className.toList ≠ [] := by
    rw [(nameSpace_eq_of_split? split).2]
    exact (split?_eq_some_iff.mp split).1
  exact Path.isName_of_dot_not_mem filled (dot_not_mem_className split)
    (slash_not_mem_className split plain)

theorem fileStem_ne_nil (split : split? dotted = some name) : (fileStem dotted).toList ≠ [] := by
  have someClass := (split?_eq_some_iff.mp split).1
  have someChars : replaceChar '.' '_' dotted.toList ≠ [] := by
    intro nothing
    rw [List.map_eq_nil_iff.mp nothing] at someClass
    exact someClass rfl
  rw [fileStem, String.toList_ofList]
  exact lower_ne_nil someChars

/-- The folders of a whole name are those of its namespace and one for its class. -/
theorem folders_of_split? (split : split? dotted = some name) (plain : '/' ∉ dotted.toList) :
    folders dotted = folders name.nameSpace ++ [name.className] := by
  obtain ⟨hNameSpace, hClass⟩ := nameSpace_eq_of_split? split
  have filled : classChars dotted.toList ≠ [] := (split?_eq_some_iff.mp split).1
  have lastPiece : ([classChars dotted.toList].filter fun piece => piece ≠ []).map String.ofList =
      [name.className] := by
    have kept : decide (classChars dotted.toList ≠ []) = true := decide_eq_true filled
    simp only [List.filter_cons, kept, if_true, List.filter_nil, List.map_cons, List.map_nil]
    rw [← hClass, String.ofList_toList]
  obtain ⟨front, pieces, origin⟩ := splitWhere_eq_append_classChars dotted.toList
  rw [folders_eq plain, folders_eq (slash_not_mem_nameSpace split plain), hNameSpace, pieces,
    List.filter_append, List.map_append, lastPiece]
  rcases origin with same | ⟨none, nothing⟩
  · rw [same]
  · rw [none, nothing]
    rfl

theorem head?_nameSpace_ne_dot (split : split? dotted = some name)
    (noDot : dotted.toList.head? ≠ some '.') : name.nameSpace.toList.head? ≠ some '.' := by
  rw [(nameSpace_eq_of_split? split).1]
  rcases eq_classChars_or_append dotted.toList with ⟨nothing, _⟩ | whole
  · rw [nothing]
    intro impossible
    cases impossible
  · intro dot
    apply noDot
    obtain ⟨rest, hRest⟩ := List.head?_eq_some_iff.mp dot
    rw [whole, hRest]
    rfl

end EntityName

namespace ControllerDir

def folderNames (written : String) : List String := (folders written).map String.ofList

def viewFolderNames (written : String) : List String := (viewFolders written).map String.ofList

theorem isName_of_mem_folders {written : String} {folder : List Char}
    (member : folder ∈ folders written) : Path.IsName folder := by
  obtain ⟨filled, inside⟩ := folders_inside member
  refine Path.isName_of_dot_not_mem filled ?_ ?_
  · intro dot
    have marked := inside '.' dot
    cases marked
  · intro slash
    have marked := inside '/' slash
    cases marked

theorem dot_not_mem_of_mem_folderNames {written name : String}
    (member : name ∈ folderNames written) : '.' ∉ name.toList := by
  obtain ⟨folder, listed, same⟩ := List.mem_map.mp member
  subst same
  rw [String.toList_ofList]
  intro within
  have marked := (folders_inside listed).2 '.' within
  cases marked

theorem mem_folderNames_of_mem_viewFolderNames {written name : String}
    (member : name ∈ viewFolderNames written) : name ∈ folderNames written := by
  obtain ⟨folder, listed, same⟩ := List.mem_map.mp member
  exact List.mem_map.mpr ⟨folder, mem_folders_of_mem_viewFolders listed, same⟩

theorem folderNames_eq_viewFolderNames (written : String) :
    folderNames written = viewFolderNames written ∨
      folderNames written = topLevel :: viewFolderNames written := by
  rcases folders_eq_viewFolders written with same | headed
  · exact Or.inl (congrArg (List.map String.ofList) same)
  · right
    have mapped := congrArg (List.map String.ofList) headed
    rw [List.map_cons, String.ofList_toList] at mapped
    exact mapped

theorem head?_normalize_ne_slash (written : String) :
    (normalize written).toList.head? ≠ some '/' := by
  obtain ⟨first, rest, hFolders⟩ := List.exists_cons_of_ne_nil (folders_ne_nil written)
  have component : Path.IsComponent first :=
    (isName_of_mem_folders (hFolders ▸ List.mem_cons_self)).1
  have different := Path.head?_ne_slash_of_isComponent component
  rw [normalize_toList, hFolders, joinWith_cons]
  cases first with
  | nil => exact absurd rfl component.1
  | cons char others => exact different

/-- Joining a normal directory leads down its folders. -/
theorem join_normalize (written : String) (base : Path) :
    base.join (normalize written) = base.descend (folderNames written) := by
  rw [Path.join_of_relative (head?_normalize_ne_slash written), normalize_toList,
    Path.partsOf_joinWith fun piece member => (isName_of_mem_folders member).1]
  rfl

/-- Joining the sub-directory of views and a text behind it leads down its folders, and on by the
components of the text. -/
theorem join_viewSubDir_append {written behind : String}
    (relative : viewFolders written = [] → behind.toList.head? ≠ some '/') (base : Path) :
    base.join (viewSubDir (normalize written) ++ behind) =
      base.descend (viewFolderNames written ++ Path.partsOf behind.toList) := by
  have hText : (viewSubDir (normalize written) ++ behind).toList =
      (viewFolders written).flatMap (· ++ ['/']) ++ behind.toList := by
    rw [String.toList_append, viewSubDir_normalize_toList]
  have noSlash : (viewSubDir (normalize written) ++ behind).toList.head? ≠ some '/' := by
    rw [hText]
    cases hViews : viewFolders written with
    | nil => exact relative hViews
    | cons first rest =>
        have listed : first ∈ viewFolders written := hViews ▸ List.mem_cons_self
        have component := (isName_of_mem_folders (mem_folders_of_mem_viewFolders listed)).1
        have different := Path.head?_ne_slash_of_isComponent component
        cases first with
        | nil => exact absurd rfl component.1
        | cons char others => exact different
  rw [Path.join_of_relative noSlash, hText, Path.partsOf_flatMap_append fun piece member =>
    (isName_of_mem_folders (mem_folders_of_mem_viewFolders member)).1]
  rfl

end ControllerDir

namespace OutputPaths

variable {root : Path} {entity controllerDir : String} {format : RoutingFormat}
  {extensions : Extensions} {paths : OutputPaths}

/-! ### Names of files -/

def controllerFile (className : String) (extensions : Extensions) : String :=
  className ++ "Controller" ++ extensions.source

def testFile (className : String) (extensions : Extensions) : String :=
  className ++ "ControllerTest" ++ extensions.source

def routingFile (entity : String) (format : RoutingFormat) : String :=
  EntityName.fileStem entity ++ "." ++ format.text

theorem capital_mem_controllerFile (className : String) (extensions : Extensions) :
    'C' ∈ (controllerFile className extensions).toList := by
  have capital : 'C' ∈ "Controller".toList := by decide
  simp only [controllerFile, String.toList_append, List.mem_append]
  exact Or.inl (Or.inr capital)

theorem isName_controllerFile {className : String} {extensions : Extensions}
    (plain : '/' ∉ className.toList) (extension : '/' ∉ extensions.source.toList) :
    Path.IsName (controllerFile className extensions).toList := by
  refine Path.isName_of_mem 'C' (capital_mem_controllerFile className extensions) (by decide) ?_
  have middle : '/' ∉ "Controller".toList := by decide
  simp only [controllerFile, String.toList_append, List.mem_append, not_or]
  exact ⟨⟨plain, middle⟩, extension⟩

theorem isName_testFile {className : String} {extensions : Extensions}
    (plain : '/' ∉ className.toList) (extension : '/' ∉ extensions.source.toList) :
    Path.IsName (testFile className extensions).toList := by
  have capital : 'C' ∈ "ControllerTest".toList := by decide
  have middle : '/' ∉ "ControllerTest".toList := by decide
  refine Path.isName_of_mem 'C' ?_ (by decide) ?_
  · simp only [testFile, String.toList_append, List.mem_append]
    exact Or.inl (Or.inr capital)
  · simp only [testFile, String.toList_append, List.mem_append, not_or]
    exact ⟨⟨plain, middle⟩, extension⟩

theorem isName_viewFile (view : View) {extensions : Extensions}
    (extension : '/' ∉ extensions.view.toList) :
    Path.IsName (view.text ++ extensions.view).toList := by
  have plain : '/' ∉ view.text.toList := by cases view <;> decide
  have apart : '/' ∉ (view.text ++ extensions.view).toList := by
    rw [String.toList_append, List.mem_append, not_or]
    exact ⟨plain, extension⟩
  have lettered : (view.text.toList.any fun letter => letter != '.') = true := by
    cases view <;> decide
  obtain ⟨letter, member, different⟩ := List.any_eq_true.mp lettered
  refine Path.isName_of_mem letter ?_ (bne_iff_ne.mp different) apart
  rw [String.toList_append]
  exact List.mem_append_left _ member

theorem slash_not_mem_fileStem (plain : '/' ∉ entity.toList) :
    '/' ∉ (EntityName.fileStem entity).toList := by
  rw [EntityName.fileStem, String.toList_ofList]
  intro member
  have origin := (mem_of_mem_lower member (by decide)).1
  exact plain ((mem_replaceChar origin).resolve_left (by decide))

theorem routingFile_toList (entity : String) (format : RoutingFormat) :
    (routingFile entity format).toList =
      (EntityName.fileStem entity).toList ++ '.' :: format.text.toList := by
  rw [routingFile, String.toList_append, String.toList_append, List.append_assoc]
  rfl

theorem isName_routingFile (format : RoutingFormat) (plain : '/' ∉ entity.toList) :
    Path.IsName (routingFile entity format).toList := by
  have stem := slash_not_mem_fileStem plain
  have ending : '/' ∉ format.text.toList := by cases format <;> decide
  have apart : '/' ∉ (routingFile entity format).toList := by
    simp only [routingFile, String.toList_append, List.mem_append, not_or]
    exact ⟨⟨stem, by decide⟩, ending⟩
  have lettered : (format.text.toList.any fun letter => letter != '.') = true := by
    cases format <;> decide
  obtain ⟨letter, member, different⟩ := List.any_eq_true.mp lettered
  refine Path.isName_of_mem letter ?_ (bne_iff_ne.mp different) apart
  simp only [routingFile, String.toList_append, List.mem_append]
  exact Or.inr member

/-! ### Resolved paths -/

/-- The paths that are resolved, part by part, as they are joined. -/
theorem eq_of_resolve?
    (resolved : resolve? root entity controllerDir format extensions = some paths) :
    EntityName.split? entity = some paths.entity ∧
      paths = {
        entity := paths.entity
        controllerNameSpace := ControllerDir.nameSpaceOf (ControllerDir.normalize controllerDir)
        subDir := ControllerDir.viewSubDir (ControllerDir.normalize controllerDir)
        controller := ((root.join (ControllerDir.normalize controllerDir)).join
          (EntityName.asPath paths.entity.nameSpace)).join
            (controllerFile paths.entity.className extensions)
        test := (((root.join "Tests").join (ControllerDir.normalize controllerDir)).join
          (EntityName.asPath paths.entity.nameSpace)).join
            (testFile paths.entity.className extensions)
        viewDir := ((root.join "Resources").join "views").join
          (ControllerDir.viewSubDir (ControllerDir.normalize controllerDir) ++
            EntityName.asPath entity)
        viewExtension := extensions.view
        routing := if format.hasFile then
            some ((((root.join "Resources").join "config").join "routing").join
              (routingFile entity format))
          else none
        formDir := ControllerDir.viewSubDir (ControllerDir.normalize controllerDir) ++
          paths.viewDir.name } := by
  unfold resolve? at resolved
  cases split : EntityName.split? entity with
  | none =>
      rw [split] at resolved
      cases resolved
  | some name =>
      rw [split] at resolved
      cases resolved
      exact ⟨rfl, rfl⟩

theorem isSome_resolve? (root : Path) (controllerDir : String) (format : RoutingFormat)
    (extensions : Extensions) {name : EntityName} (split : EntityName.split? entity = some name) :
    (resolve? root entity controllerDir format extensions).isSome = true := by
  unfold resolve?
  rw [split]
  rfl

/-- The stem of the routing file is that of the entity. -/
theorem exists_routing_of_resolve?
    (resolved : resolve? root entity controllerDir format extensions = some paths)
    (plain : '/' ∉ entity.toList) (hasFile : format.hasFile = true) :
    ∃ path, paths.routing = some path ∧ path.stem = EntityName.fileStem entity ∧
      path.suffix = "." ++ format.text := by
  obtain ⟨split, whole⟩ := eq_of_resolve? resolved
  obtain ⟨base, routing⟩ :
      ∃ base : Path, paths.routing = some (base.join (routingFile entity format)) :=
    ⟨_, (congrArg OutputPaths.routing whole).trans (if_pos hasFile)⟩
  have name : (base.join (routingFile entity format)).name = routingFile entity format := by
    rw [Path.join_of_isComponent (isName_routingFile format plain).1]
    exact Path.name_descend_concat base [] _
  have ending : format.text.toList ≠ [] ∧ '.' ∉ format.text.toList := by cases format <;> decide
  obtain ⟨stem, suffix⟩ := Path.stem_eq_of_name
    ((congrArg String.toList name).trans (routingFile_toList entity format))
    (EntityName.fileStem_ne_nil split) ending.1 ending.2
  refine ⟨_, routing, ?_, ?_⟩
  · rw [stem, String.ofList_toList]
  · rw [suffix, String.ofList_cons, String.ofList_toList]
    rfl

end OutputPaths

/-! ### Places of outputs -/

inductive Output where
  | controller
  | view (view : View)
  | test
  | routing
  deriving DecidableEq, Repr

namespace Output

def all : List Output := [.controller, .test, .routing] ++ View.all.map view

theorem mem_all (output : Output) : output ∈ all := by
  cases output with
  | view view => cases view <;> decide
  | controller | test | routing => decide

end Output

/-- What the places of the outputs depend on, below the root of the bundle. -/
structure Placement where
  entity : String
  name : EntityName
  controllerDir : String
  format : RoutingFormat
  extensions : Extensions

namespace Placement

variable (placement : Placement)

def folders : List String :=
  ControllerDir.folderNames placement.controllerDir ++
    EntityName.folders placement.name.nameSpace

def viewFolders : List String :=
  ControllerDir.viewFolderNames placement.controllerDir ++
    EntityName.folders placement.name.nameSpace

/-- The names that lead to the directory of the views of the entity. -/
def viewDirNames : List String :=
  "Resources" :: "views" :: (placement.viewFolders ++ [placement.name.className])

def names : Output → List String
  | .controller =>
    placement.folders ++ [OutputPaths.controllerFile placement.name.className placement.extensions]
  | .view view => placement.viewDirNames ++ [view.text ++ placement.extensions.view]
  | .test =>
    "Tests" :: (placement.folders ++
      [OutputPaths.testFile placement.name.className placement.extensions])
  | .routing =>
    ["Resources", "config", "routing", OutputPaths.routingFile placement.entity placement.format]

/-- The entity is the one whose name has been split, and no separator is in it or in an extension.
-/
structure IsSound : Prop where
  split : EntityName.split? placement.entity = some placement.name
  plain : '/' ∉ placement.entity.toList
  sourceExtension : '/' ∉ placement.extensions.source.toList
  viewExtension : '/' ∉ placement.extensions.view.toList

variable {placement : Placement}

theorem isName_of_mem_folders (sound : placement.IsSound) {name : String}
    (member : name ∈ placement.folders) : Path.IsName name.toList := by
  rcases List.mem_append.mp member with inDirectory | inNameSpace
  · obtain ⟨folder, listed, same⟩ := List.mem_map.mp inDirectory
    rw [← same, String.toList_ofList]
    exact ControllerDir.isName_of_mem_folders listed
  · have plain := EntityName.slash_not_mem_nameSpace sound.split sound.plain
    obtain ⟨filled, noDot, inside⟩ := EntityName.inside_of_mem_folders plain inNameSpace
    exact Path.isName_of_dot_not_mem filled noDot fun slash => plain (inside '/' slash)

theorem mem_folders_of_mem_viewFolders {name : String} (member : name ∈ placement.viewFolders) :
    name ∈ placement.folders := by
  rcases List.mem_append.mp member with inDirectory | inNameSpace
  · exact List.mem_append_left _ (ControllerDir.mem_folderNames_of_mem_viewFolderNames inDirectory)
  · exact List.mem_append_right _ inNameSpace

/-- Something holds of all that the names on the way to an output can be. -/
structure HoldsOfParts (placement : Placement) (holds : String → Prop) : Prop where
  word : ∀ word ∈ ["Resources", "views", "Tests", "config", "routing"], holds word
  folder : ∀ folder ∈ placement.folders, holds folder
  className : holds placement.name.className
  controllerFile : holds (OutputPaths.controllerFile placement.name.className placement.extensions)
  viewFile : ∀ view : View, holds (view.text ++ placement.extensions.view)
  testFile : holds (OutputPaths.testFile placement.name.className placement.extensions)
  routingFile : holds (OutputPaths.routingFile placement.entity placement.format)

namespace HoldsOfParts

variable {holds : String → Prop} {name : String}

theorem of_mem_viewDirNames (parts : placement.HoldsOfParts holds)
    (member : name ∈ placement.viewDirNames) : holds name := by
  simp only [viewDirNames, List.mem_cons, List.mem_append, List.not_mem_nil, or_false] at member
  rcases member with isResources | isViews | inFolders | isClass
  · exact parts.word name (by simp [isResources])
  · exact parts.word name (by simp [isViews])
  · exact parts.folder name (mem_folders_of_mem_viewFolders inFolders)
  · rw [isClass]
    exact parts.className

theorem of_mem_names (parts : placement.HoldsOfParts holds) {output : Output}
    (member : name ∈ placement.names output) : holds name := by
  cases output with
  | controller =>
      rcases List.mem_append.mp member with inFolders | isFile
      · exact parts.folder name inFolders
      · rw [List.mem_singleton.mp isFile]
        exact parts.controllerFile
  | view view =>
      rcases List.mem_append.mp member with inViewDir | isFile
      · exact parts.of_mem_viewDirNames inViewDir
      · rw [List.mem_singleton.mp isFile]
        exact parts.viewFile view
  | test =>
      rcases List.mem_cons.mp member with isTests | later
      · exact parts.word name (by simp [isTests])
      · rcases List.mem_append.mp later with inFolders | isFile
        · exact parts.folder name inFolders
        · rw [List.mem_singleton.mp isFile]
          exact parts.testFile
  | routing =>
      simp only [names, List.mem_cons, List.not_mem_nil, or_false] at member
      rcases member with isResources | isConfig | isRouting | isFile
      · exact parts.word name (by simp [isResources])
      · exact parts.word name (by simp [isConfig])
      · exact parts.word name (by simp [isRouting])
      · rw [isFile]
        exact parts.routingFile

end HoldsOfParts

theorem holdsOfParts_isName (sound : placement.IsSound) :
    placement.HoldsOfParts fun name => Path.IsName name.toList := by
  have classPlain := EntityName.slash_not_mem_className sound.split sound.plain
  exact {
    word := by decide
    folder := fun _ => isName_of_mem_folders sound
    className := EntityName.isName_className sound.split sound.plain
    controllerFile := OutputPaths.isName_controllerFile classPlain sound.sourceExtension
    viewFile := fun view => OutputPaths.isName_viewFile view sound.viewExtension
    testFile := OutputPaths.isName_testFile classPlain sound.sourceExtension
    routingFile := OutputPaths.isName_routingFile placement.format sound.plain }

theorem isName_of_mem_viewDirNames (sound : placement.IsSound) {name : String}
    (member : name ∈ placement.viewDirNames) : Path.IsName name.toList :=
  (holdsOfParts_isName sound).of_mem_viewDirNames member

/-- Every name on the way to an output leads down. -/
theorem isName_of_mem_names (sound : placement.IsSound) {output : Output} {name : String}
    (member : name ∈ placement.names output) : Path.IsName name.toList :=
  (holdsOfParts_isName sound).of_mem_names member

theorem up_not_mem_names (sound : placement.IsSound) (output : Output) :
    ".." ∉ placement.names output :=
  Path.up_not_mem fun _ member => isName_of_mem_names sound member

theorem up_not_mem_viewDirNames (sound : placement.IsSound) : ".." ∉ placement.viewDirNames :=
  Path.up_not_mem fun _ member => isName_of_mem_viewDirNames sound member

end Placement

namespace OutputPaths

variable {root : Path} {placement : Placement} {paths : OutputPaths}

/-- Each output is reached from the root of the bundle by its names. -/
structure IsLaidOut (paths : OutputPaths) (root : Path) (placement : Placement) : Prop where
  controller : paths.controller = root.descend (placement.names .controller)
  test : paths.test = root.descend (placement.names .test)
  viewDir : paths.viewDir = root.descend placement.viewDirNames
  view : ∀ view, paths.view view = root.descend (placement.names (.view view))
  routing : paths.routing =
    if placement.format.hasFile then some (root.descend (placement.names .routing)) else none

theorem viewDir_eq_descend {root : Path} {entity controllerDir : String} {format : RoutingFormat}
    {extensions : Extensions}
    (resolved : resolve? root entity controllerDir format extensions = some paths)
    (plain : '/' ∉ entity.toList) (noDot : entity.toList.head? ≠ some '.') :
    paths.viewDir = root.descend
      (Placement.viewDirNames ⟨entity, paths.entity, controllerDir, format, extensions⟩) := by
  obtain ⟨split, same⟩ := eq_of_resolve? resolved
  have resources : Path.IsComponent "Resources".toList := by decide
  have views : Path.IsComponent "views".toList := by decide
  have relative : (EntityName.asPath entity).toList.head? ≠ some '/' := fun slash =>
    noDot ((EntityName.asPath_head?_eq_slash_iff plain).mp slash)
  rw [congrArg OutputPaths.viewDir same]
  simp only [Path.join_of_isComponent resources, Path.join_of_isComponent views,
    ControllerDir.join_viewSubDir_append (fun _ => relative), Path.descend_descend]
  change root.descend (["Resources"] ++ ["views"] ++
    (ControllerDir.viewFolderNames controllerDir ++ EntityName.folders entity)) = _
  rw [EntityName.folders_of_split? split plain]
  simp only [Placement.viewDirNames, Placement.viewFolders, List.cons_append, List.nil_append,
    List.append_assoc]

theorem classFiles_eq_descend {root : Path} {entity controllerDir : String}
    {format : RoutingFormat} {extensions : Extensions}
    (resolved : resolve? root entity controllerDir format extensions = some paths)
    (plain : '/' ∉ entity.toList) (noDot : entity.toList.head? ≠ some '.')
    (sourceExtension : '/' ∉ extensions.source.toList) :
    let placement : Placement := ⟨entity, paths.entity, controllerDir, format, extensions⟩
    paths.controller = root.descend (placement.names .controller) ∧
      paths.test = root.descend (placement.names .test) := by
  obtain ⟨split, same⟩ := eq_of_resolve? resolved
  have nameSpacePlain := EntityName.slash_not_mem_nameSpace split plain
  have nameSpaceNoDot := EntityName.head?_nameSpace_ne_dot split noDot
  have classPlain := EntityName.slash_not_mem_className split plain
  have tests : Path.IsComponent "Tests".toList := by decide
  constructor
  · rw [congrArg OutputPaths.controller same]
    simp only [ControllerDir.join_normalize, EntityName.join_asPath nameSpacePlain nameSpaceNoDot,
      Path.join_of_isComponent (isName_controllerFile classPlain sourceExtension).1,
      Path.descend_descend]
    rfl
  · rw [congrArg OutputPaths.test same]
    simp only [Path.join_of_isComponent tests, ControllerDir.join_normalize,
      EntityName.join_asPath nameSpacePlain nameSpaceNoDot,
      Path.join_of_isComponent (isName_testFile classPlain sourceExtension).1,
      Path.descend_descend, List.cons_append, List.nil_append]
    rfl

/-- Joined texts that begin with no separator lead down from the root of the bundle. -/
theorem isLaidOut_of_resolve? {root : Path} {entity controllerDir : String}
    {format : RoutingFormat} {extensions : Extensions}
    (resolved : resolve? root entity controllerDir format extensions = some paths)
    (plain : '/' ∉ entity.toList) (noDot : entity.toList.head? ≠ some '.')
    (sourceExtension : '/' ∉ extensions.source.toList)
    (viewExtension : '/' ∉ extensions.view.toList) :
    paths.IsLaidOut root ⟨entity, paths.entity, controllerDir, format, extensions⟩ := by
  obtain ⟨_, same⟩ := eq_of_resolve? resolved
  obtain ⟨controller, test⟩ := classFiles_eq_descend resolved plain noDot sourceExtension
  have resources : Path.IsComponent "Resources".toList := by decide
  have config : Path.IsComponent "config".toList := by decide
  have routing : Path.IsComponent "routing".toList := by decide
  have viewDir := viewDir_eq_descend resolved plain noDot
  refine
    { controller := controller
      test := test
      viewDir := viewDir
      view := ?_
      routing := ?_ }
  · intro view
    have extension := congrArg OutputPaths.viewExtension same
    rw [OutputPaths.view, extension, viewDir,
      Path.join_of_isComponent (isName_viewFile view viewExtension).1, Path.descend_descend]
    rfl
  · rw [congrArg OutputPaths.routing same]
    simp only [Path.join_of_isComponent resources, Path.join_of_isComponent config,
      Path.join_of_isComponent routing,
      Path.join_of_isComponent (isName_routingFile format plain).1, Path.descend_descend,
      List.cons_append, List.nil_append]
    rfl

end OutputPaths

end EntityScaffold
