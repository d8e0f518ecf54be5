import EntityScaffold.Proofs.CommandLine.Summary
import EntityScaffold.Proofs.Generated.RoutingFile
import EntityScaffold.Proofs.Generation.References

/-
Routes under the usual prefix. The prefix of the routes and the stem of the routing file both come from
the name of the entity, each by a way of its own; without slashes in the name they are the same, so that
the routes of a run are named after the file that declares them.
-/

namespace EntityScaffold

open FileTree (perform)

/-- A routing file holds the entries of the routes of a run, and each is named after the file: the index
route by its stem, and the others by its stem and the word of their action. -/
structure GenerationResult.DeclaresRoutes (result : GenerationResult) (tree : FileTree)
    (path : Path) : Prop where
  routing : result.plan.paths.routing = some path
  written : path ∈ result.written
  held : tree.readContent path =
    .ok (.text (String.ofList (DeclaredRoute.fileText result.plan.format result.plan.routes)))
  names : result.plan.routes.map (fun route => route.1.name) =
    result.plan.actions.actions.map fun action => path.stem.toList ++ action.nameEnd

theorem GenerationPlan.text_of_mem_routingFiles {plan : GenerationPlan} {file : PlannedFile}
    (someActions : plan.actions.actions ≠ []) (hasFile : plan.format.hasFile = true)
    (member : file ∈ plan.routingFiles) :
    file.text = DeclaredRoute.fileText plan.format plan.routes := by
  obtain ⟨path, _, rfl⟩ := List.mem_map.mp member
  exact PlannedFile.text_eq (renderText_routes someActions hasFile .empty)

namespace Generator

variable {generator : Generator} {request : GenerationRequest} {before after : FileTree}
  {result : GenerationResult}

theorem actions_ne_nil (ran : perform (generator.run request) before = (.ok result, after)) :
    result.plan.actions.actions ≠ [] := by
  rw [(eq_of_plan (took_of_run_eq_ok ran).1).2.1]
  cases request.withWrite <;> exact List.cons_ne_nil _ _

/-- The routing file of a run holds the entries of its routes, whatever characters their names have. -/
theorem held_routes_of_run_eq_ok (packaged : generator.library = .packaged)
    (hasFile : result.plan.format.hasFile = true)
    (ran : perform (generator.run request) before = (.ok result, after)) {path : Path}
    (given : result.plan.paths.routing = some path) :
    path ∈ result.written ∧ after.readContent path =
      .ok (.text (String.ofList (DeclaredRoute.fileText result.plan.format result.plan.routes))) := by
  have someFile : result.plan.paths.routing.isSome = true := given ▸ rfl
  obtain ⟨file, member, isPath⟩ := result.plan.exists_routingFile someFile
  have samePath : path = file.path := Option.some.inj (given.symm.trans isPath)
  rw [samePath, ← GenerationPlan.text_of_mem_routingFiles (actions_ne_nil ran) hasFile member]
  exact held_routing_of_run_eq_ok packaged ran member

theorem exists_declaresRoutes_of_run_eq_ok (packaged : generator.library = .packaged)
    (hasFile : result.plan.format.hasFile = true)
    (usual : request.routePrefix = EntityName.routePrefixOf request.entity)
    (noSlash : '/' ∉ request.entity.toList)
    (ran : perform (generator.run request) before = (.ok result, after)) :
    ∃ path, result.DeclaresRoutes after path ∧ path.stem = EntityName.fileStem request.entity ∧
      path.suffix = "." ++ result.plan.format.text := by
  obtain ⟨requested, _, _, resolved⟩ := eq_of_plan (took_of_run_eq_ok ran).1
  obtain ⟨path, given, stem, suffix⟩ :=
    OutputPaths.exists_routing_of_resolve? resolved noSlash hasFile
  obtain ⟨written, held⟩ := held_routes_of_run_eq_ok packaged hasFile ran given
  refine ⟨path, ⟨given, written, held, ?_⟩, stem, suffix⟩
  rw [GenerationPlan.names_routes, requested, stem,
    (GenerationRequest.routeNamePrefix_eq_fileStem_iff usual).mpr noSlash]

/-- Plain names are read back from the routing file. -/
theorem inFile_of_run_eq_ok (hasFile : result.plan.format.hasFile = true)
    (usual : request.routePrefix = EntityName.routePrefixOf request.entity)
    (bundle : IsPlainName request.bundle.name) (entity : IsPlainName request.entity)
    (ran : perform (generator.run request) before = (.ok result, after)) :
    DeclaredRoute.inFile result.plan.format
        (DeclaredRoute.fileText result.plan.format result.plan.routes) = result.plan.routes := by
  have names : request.HasPlainNames := ⟨bundle, entity, usual ▸ entity.routePrefixOf⟩
  have plain := (hasPlainNames_of_plan (took_of_run_eq_ok ran).1 names).1
  exact GenerationPlan.inFile_fileText plain (actions_ne_nil ran) hasFile

end Generator

namespace CommandLine.Command

variable {given : Given} {config : Config}

/-- A command without a route prefix and without skeletons of its own, whose routes get a file. -/
structure IsUsual (given : Given) (config : Config) : Prop where
  unprefixed : given.value? .routePrefix = none
  packaged : skeletonDirectory? given config = none
  hasFile : (format given config).hasFile = true

theorem IsUsual.library (usual : IsUsual given config) (engine : Engine) :
    (generator engine given config).library = .packaged := by
  rw [generator, usual.packaged]
  rfl

theorem IsUsual.routePrefix_request (usual : IsUsual given config) (metadata : EntityMetadata) :
    (request given config metadata).routePrefix =
      EntityName.routePrefixOf (request given config metadata).entity := by
  change routePrefix given = EntityName.routePrefixOf (entity given)
  rw [routePrefix, usual.unprefixed]
  rfl

/-- Names of routes begin with the stem of the routing file when the prefix is the usual one, whatever
letters the name of the entity has, just when it has no slash. So all routes of a command without a
prefix are named after the file that declares them. -/
theorem default_routes_named_after_file :
    (∀ (request : GenerationRequest) (entity : String),
      request.routePrefix = EntityName.routePrefixOf entity →
        (request.routeNamePrefix = EntityName.fileStem entity ↔ '/' ∉ entity.toList)) ∧
    ∀ (engine : Engine) (arguments : List String) (environment : List (String × String))
        (given : Given) (config : Config) (before after : FileTree) (result : GenerationResult),
      Reading.ofTexts arguments = .ok (.complete given) →
      configure given environment before = .ok config →
      perform (generate engine given config) before = (.ok result, after) →
      IsUsual given config → '/' ∉ (entity given).toList →
      ∃ path,
        result.DeclaresRoutes (perform (run engine arguments environment) before).2 path ∧
        path.stem = EntityName.fileStem (entity given) ∧
        path.suffix = "." ++ (format given config).text ∧
        result.plan.format = format given config ∧
        result.plan.actions = ActionPlan.make given.withWrite ∧
        (IsPlainName (bundle given).name → IsPlainName (entity given) →
          DeclaredRoute.inFile result.plan.format
            (DeclaredRoute.fileText result.plan.format result.plan.routes) = result.plan.routes) := by
  constructor
  · intro request entity usual
    exact GenerationRequest.routeNamePrefix_eq_fileStem_iff usual
  · intro engine arguments environment given config before after result read configured generated
      usual noSlash
    obtain ⟨metadata, ran⟩ := exists_run_of_generate_eq_ok generated
    obtain ⟨_, isFormat, isActions⟩ := plan_of_generate_eq_ok generated
    obtain ⟨announced, ended⟩ := perform_run_of_generated read configured generated
    have hasFile : result.plan.format.hasFile = true := isFormat ▸ usual.hasFile
    have isPrefix := usual.routePrefix_request metadata
    obtain ⟨path, declares, stem, suffix⟩ :=
      Generator.exists_declaresRoutes_of_run_eq_ok (usual.library engine) hasFile isPrefix noSlash
        ran
    rw [isFormat] at suffix
    rw [ended]
    refine ⟨path, declares, stem, suffix, isFormat, isActions, fun bundle entity => ?_⟩
    exact Generator.inFile_of_run_eq_ok hasFile isPrefix bundle entity ran

/-- Arguments for an entity with a sigma at the end of each of its words, and with a letter that is two
characters long in lower case. -/
def sigmaArguments : List String :=
  ["ΣΟΦΟΣ.İΣ", "--bundle-path", "b", "--bundle-namespace", "Acme", "--metadata", "m.json"]

def sigmaGiven : Given where
  entity := some "ΣΟΦΟΣ.İΣ"
  values := [(.metadata, "m.json"), (.bundleNameSpace, "Acme"), (.bundlePath, "b")]

/-- A tree with metadata and nothing else. -/
def metadataTree : FileTree :=
  FileTree.empty.put ["m.json"] (.file (.text "\x7b\x22identifier\x22: [\x22id\x22]\x7d"))

theorem sigma_routes_named_after_file :
    ∃ result after path, perform (generate .simple sigmaGiven {}) metadataTree = (.ok result, after) ∧
      result.DeclaresRoutes (perform (run .simple sigmaArguments []) metadataTree).2 path ∧
      path.stem = "σοφος_i\u0307ς" ∧ path.suffix = ".yaml" ∧
      (DeclaredRoute.inFile .yaml (DeclaredRoute.fileText .yaml result.plan.routes)).map
          (fun route => route.1.name) =
        ["σοφος_i\u0307ς".toList, "σοφος_i\u0307ς_show".toList] := by
  have accepted : (Reading.ofTexts sigmaArguments).toOption = some (.complete sigmaGiven) := by
    decide +kernel
  have configured : (configure sigmaGiven [] metadataTree).toOption = some {} := by decide +kernel
  have loaded : (EntityMetadata.load metadataTree (metadataSource sigmaGiven)).toOption =
      some ⟨[], [CodeText.ofString "id"]⟩ := by decide +kernel
  have vacant : metadataTree.IsVacant (.ofString "b") :=
    (FileTree.isVacant_empty _).put (by decide) (by decide) (by decide) _
  have prepared : Generator.IsPrepared {} (request sigmaGiven {} ⟨[], [CodeText.ofString "id"]⟩)
      metadataTree :=
    Generator.isPrepared_of_isVacant vacant ⟨by decide, by decide, by decide, by decide⟩ rfl
      (by decide) (by decide +kernel)
  obtain ⟨result, after, ran⟩ := prepared.exists_run_eq_ok (by decide)
  have generated : perform (generate .simple sigmaGiven {}) metadataTree = (.ok result, after) := by
    rw [perform_generate, eq_ok_of_toOption_eq_some loaded]
    exact ran
  have usual : IsUsual sigmaGiven {} := ⟨by decide, rfl, by decide⟩
  obtain ⟨path, declares, stem, suffix, isFormat, isActions, readBack⟩ :=
    default_routes_named_after_file.2 _ _ _ _ _ _ _ _ (eq_ok_of_toOption_eq_some accepted)
      (eq_ok_of_toOption_eq_some configured) generated usual (by decide)
  have isStem : EntityName.fileStem (entity sigmaGiven) = "σοφος_i\u0307ς" := by decide +kernel
  have isYaml : format sigmaGiven {} = .yaml := by decide
  rw [isStem] at stem
  rw [isYaml] at isFormat suffix
  refine ⟨result, after, path, generated, declares, stem, suffix, ?_⟩
  have routes := readBack (by decide) (by decide)
  rw [isFormat] at routes
  rw [routes, declares.names, isActions, stem]
  decide

end CommandLine.Command

end EntityScaffold
