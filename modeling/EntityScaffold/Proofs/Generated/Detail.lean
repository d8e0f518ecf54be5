import EntityScaffold.Generation.Step
import EntityScaffold.Proofs.EntityName.Segments
import EntityScaffold.Proofs.Route.Spelling
import EntityScaffold.Proofs.Skeleton.Execution

/-
What stands in generated texts. The details of a plan are put into texts as they are, or with other
marks between the words of the entity; their characters are known when the names of the plan are
plain. Free texts come from elsewhere, and little or nothing is known about them.
-/

namespace EntityScaffold

open Text (Outline HoleKind Pattern replaceChar)
open Text.Outline (Finding Fits fill read? reads_of_read?)

/-- The characters of plain names: letters, digits, four marks, and all that lies beyond ASCII. -/
def isNameChar (char : Char) : Bool :=
  Text.isAsciiUpper char || Text.isAsciiLower char || Text.isAsciiDigit char || char == '_' ||
    char == '-' || char == '.' || char == '/' || 128 ≤ char.toNat

def IsPlainName (name : String) : Prop := ∀ char ∈ name.toList, isNameChar char = true

instance (name : String) : Decidable (IsPlainName name) :=
  decidable_of_iff (name.toList.all isNameChar = true) List.all_eq_true

theorem IsPlainName.not_mem {name : String} (plain : IsPlainName name) {char : Char}
    (mark : isNameChar char = false) : char ∉ name.toList := fun member =>
  Bool.false_ne_true (mark.symm.trans (plain char member))

/-- The usual prefix of a plain entity is plain, for what comes from other letters is no mark. -/
theorem IsPlainName.routePrefixOf {entity : String} (plain : IsPlainName entity) :
    IsPlainName (EntityName.routePrefixOf entity) := by
  intro char member
  rw [EntityName.routePrefixOf, String.toList_ofList] at member
  by_cases present : char ∈ replaceChar '.' '/' entity.toList
  · rcases Text.mem_replaceChar present with rfl | inEntity
    · rfl
    · exact plain char inEntity
  · unfold isNameChar
    rcases Text.isAsciiLower_of_mem_lower member present with letter | large
    · rw [letter]
      simp only [Bool.or_true, Bool.true_or]
    · rw [decide_eq_true large, Bool.or_true]

/-- The names that a plan puts into texts are plain, and the words of the entity are its own. -/
structure GenerationPlan.HasPlainNames (plan : GenerationPlan) : Prop where
  bundle : IsPlainName plan.request.bundle.name
  entity : IsPlainName plan.request.entity
  routePrefix : IsPlainName plan.request.routePrefix
  words : plan.paths.entity =
    ⟨String.ofList (EntityName.nameSpaceChars plan.request.entity.toList),
      String.ofList (EntityName.classChars plan.request.entity.toList)⟩

namespace GenerationPlan.HasPlainNames

variable {plan : GenerationPlan}

theorem className (plain : plan.HasPlainNames) : IsPlainName plan.paths.entity.className := by
  intro char member
  rw [plain.words, String.toList_ofList] at member
  exact plain.entity char (EntityName.mem_of_mem_classChars member)

theorem nameSpace (plain : plan.HasPlainNames) : IsPlainName plan.paths.entity.nameSpace := by
  intro char member
  rw [plain.words, String.toList_ofList] at member
  exact plain.entity char (EntityName.mem_of_mem_nameSpaceChars member)

end GenerationPlan.HasPlainNames

/-- No name that a plan puts into texts holds some character. -/
structure GenerationPlan.NamesLack (plan : GenerationPlan) (char : Char) : Prop where
  bundle : char ∉ plan.request.bundle.name.toList
  entity : char ∉ plan.request.entity.toList
  className : char ∉ plan.paths.entity.className.toList
  routePrefix : char ∉ plan.request.routePrefix.toList

/-- Neither the names nor the name spaces of a plan hold some character. -/
structure GenerationPlan.Lacks (plan : GenerationPlan) (char : Char) : Prop where
  names : plan.NamesLack char
  nameSpace : char ∉ plan.request.bundle.nameSpace.toList
  controllerNameSpace : char ∉ plan.paths.controllerNameSpace.toList
  entityNameSpace : char ∉ plan.paths.entity.nameSpace.toList

theorem GenerationPlan.HasPlainNames.lacks {plan : GenerationPlan} (plain : plan.HasPlainNames)
    {char : Char} (mark : isNameChar char = false)
    (nameSpace : char ∉ plan.request.bundle.nameSpace.toList)
    (controllerNameSpace : char ∉ plan.paths.controllerNameSpace.toList) : plan.Lacks char where
  names := ⟨plain.bundle.not_mem mark, plain.entity.not_mem mark, plain.className.not_mem mark,
    plain.routePrefix.not_mem mark⟩
  nameSpace := nameSpace
  controllerNameSpace := controllerNameSpace
  entityNameSpace := plain.nameSpace.not_mem mark

namespace Generated

inductive Detail where
  | className
  | bundle
  | entityClass
  | entityPath
  | entityWords
  | routeStart
  | pathStart
  deriving DecidableEq

inductive FreeText where
  | nameSpace
  | variableStart
  | field
  | heading
  | formPlace
  deriving DecidableEq

inductive Hole (Block : Type) where
  | detail (detail : Detail)
  | free (text : FreeText)
  | block (block : Block)
  deriving DecidableEq

namespace Detail

def ofPlan (plan : GenerationPlan) : Detail → List Char
  | .className => plan.paths.entity.className.toList
  | .bundle => plan.request.bundle.name.toList
  | .entityClass => replaceChar '.' '\x5c' plan.request.entity.toList
  | .entityPath => replaceChar '.' '/' plan.request.entity.toList
  | .entityWords => replaceChar '.' ' ' plan.request.entity.toList
  | .routeStart => plan.request.routeNamePrefix.toList
  | .pathStart => (Route.base plan.request.routePrefix).toList

def admits : Detail → Char → Bool
  | .entityClass, char => isNameChar char || char == '\x5c'
  | .entityWords, char => isNameChar char || char == ' '
  | _, char => isNameChar char

theorem admits_of_isNameChar {char : Char} (plain : isNameChar char = true) (detail : Detail) :
    detail.admits char = true := by
  cases detail <;> simp [admits, plain]

theorem admits_replaceChar {detail : Detail} {old new : Char} {name : String}
    (plain : IsPlainName name) (known : detail.admits new = true) :
    ∀ char ∈ replaceChar old new name.toList, detail.admits char = true := by
  intro char member
  rcases Text.mem_replaceChar member with same | origin
  · rwa [same]
  · exact admits_of_isNameChar (plain char origin) detail

theorem mem_of_mem_base {written : String} {char : Char} (member : char ∈ (Route.base written).toList) :
    char = '/' ∨ char ∈ written.toList := by
  unfold Route.base at member
  dsimp only at member
  split at member
  · cases member
  · rw [String.toList_ofList] at member
    exact (List.mem_cons.mp member).imp_right Text.mem_of_mem_trim

theorem isNameChar_of_mem_base {written : String} (plain : IsPlainName written) :
    IsPlainName (Route.base written) := by
  intro char member
  rcases mem_of_mem_base member with slash | inside
  · rw [slash]
    rfl
  · exact plain char inside

theorem admits_ofPlan {plan : GenerationPlan} (plain : plan.HasPlainNames) (detail : Detail) :
    ∀ char ∈ ofPlan plan detail, detail.admits char = true := by
  cases detail with
  | className => exact fun char member => plain.className char member
  | bundle => exact fun char member => plain.bundle char member
  | entityClass => exact admits_replaceChar plain.entity rfl
  | entityPath => exact admits_replaceChar plain.entity rfl
  | entityWords => exact admits_replaceChar plain.entity rfl
  | routeStart =>
      intro char member
      change char ∈ (Route.namePrefix plan.request.routePrefix).toList at member
      rw [Route.namePrefix, String.toList_ofList] at member
      exact @admits_replaceChar .routeStart _ _ _ plain.routePrefix rfl char member
  | pathStart => exact fun char member => isNameChar_of_mem_base plain.routePrefix char member

/-- Beside the characters of names, details hold only the marks that are put between words. -/
theorem not_mem_ofPlan {plan : GenerationPlan} {char : Char} (lacks : plan.NamesLack char)
    (noMark : char ∉ ['\x5c', '/', ' ', '_']) (detail : Detail) : char ∉ ofPlan plan detail := by
  have differs {mark : Char} (listed : mark ∈ ['\x5c', '/', ' ', '_']) : char ≠ mark :=
    fun same => noMark (same ▸ listed)
  have replaced {old mark : Char} {name : String} (listed : mark ∈ ['\x5c', '/', ' ', '_'])
      (absent : char ∉ name.toList) : char ∉ replaceChar old mark name.toList := fun member =>
    (Text.mem_replaceChar member).elim (differs listed) absent
  cases detail with
  | className => exact lacks.className
  | bundle => exact lacks.bundle
  | entityClass => exact replaced (by decide) lacks.entity
  | entityPath => exact replaced (by decide) lacks.entity
  | entityWords => exact replaced (by decide) lacks.entity
  | routeStart =>
      change char ∉ (Route.namePrefix plan.request.routePrefix).toList
      rw [Route.namePrefix, String.toList_ofList]
      exact replaced (by decide) lacks.routePrefix
  | pathStart => exact fun member =>
      (mem_of_mem_base member).elim (differs (by decide)) lacks.routePrefix

end Detail

/-! ### Fillings -/

variable {Block : Type}

def fillings (plan : GenerationPlan) (free : FreeText → List Char) (blocks : Block → List Char) :
    Hole Block → List Char
  | .detail detail => detail.ofPlan plan
  | .free text => free text
  | .block block => blocks block

/-- What is known of the fillings, when `admits` tells what is known of free texts. -/
def kinds (admits : FreeText → Char → Bool) : Hole Block → HoleKind
  | .detail detail => .within detail.admits
  | .free text => .within (admits text)
  | .block _ => .lines

theorem fits_fillings {plan : GenerationPlan} (plain : plan.HasPlainNames)
    {admits : FreeText → Char → Bool} {free : FreeText → List Char}
    (admitted : ∀ text, ∀ char ∈ free text, admits text char = true) (blocks : Block → List Char) :
    Fits (kinds admits) (fillings plan free blocks) := by
  intro hole charOf known
  cases hole with
  | detail detail =>
      cases known
      exact Detail.admits_ofPlan plain detail
  | free text =>
      cases known
      exact admitted text
  | block block => cases known

/-- What is known of the fillings when no name and no free text holds any of some characters. -/
def lacking (chars : List Char) : Hole Block → HoleKind
  | .block _ => .lines
  | _ => .within fun char => !chars.contains char

theorem fits_lacking {plan : GenerationPlan} {chars : List Char}
    (lacks : ∀ char ∈ chars, plan.NamesLack char ∧ char ∉ ['\x5c', '/', ' ', '_'])
    {free : FreeText → List Char} (inNoText : ∀ text, ∀ char ∈ chars, char ∉ free text)
    (blocks : Block → List Char) : Fits (lacking chars) (fillings plan free blocks) := by
  have admitted {text : List Char} (absent : ∀ char ∈ chars, char ∉ text) :
      ∀ char ∈ text, (!chars.contains char) = true := by
    intro char member
    rw [Bool.not_eq_true', Bool.eq_false_iff, ne_eq, List.contains_iff_mem]
    exact fun listed => absent char listed member
  intro hole charOf known
  cases hole with
  | detail detail =>
      cases known
      exact admitted fun char listed =>
        Detail.not_mem_ofPlan (lacks char listed).1 (lacks char listed).2 detail
  | free text =>
      cases known
      exact admitted (inNoText text)
  | block block => cases known

/-- What holes say that are filled with blocks of lines. -/
def saidInBlocks (said : Block → List (List (List Char))) : Hole Block → List (List (List Char))
  | .block block => said block
  | _ => []

/-- What is read off an outline is said by the generated text. -/
theorem reads_of_outline {plan : GenerationPlan} (plain : plan.HasPlainNames)
    {admits : FreeText → Char → Bool} {free : FreeText → List Char}
    (admitted : ∀ text, ∀ char ∈ free text, admits text char = true) {blocks : Block → List Char}
    {pattern : Pattern} {said : Block → List (List (List Char))}
    (inBlocks : ∀ block, pattern.Reads (blocks block) (said block)) {outline : Outline (Hole Block)}
    {findings : List (Finding (Hole Block))}
    (read : read? (kinds admits) pattern outline = some findings) :
    pattern.Reads (fill (fillings plan free blocks) outline)
      (findings.flatMap (Finding.filled (fillings plan free blocks) (saidInBlocks said))) := by
  refine reads_of_read? (fits_fillings plain admitted blocks) (fun hole known _ => ?_) read
  cases hole with
  | detail detail => cases known
  | free text => cases known
  | block block => exact inBlocks block

/-! ### Texts of details alone -/

def nothingKnown (_ : FreeText) (_ : Char) : Bool := true

def noText (_ : FreeText) : List Char := []

def details (plan : GenerationPlan) : Hole Empty → List Char := fillings plan noText Empty.elim

def withBlock (plan : GenerationPlan) (lines : List Char) : Hole Unit → List Char :=
  fillings plan noText fun _ => lines

theorem reads_details {plan : GenerationPlan} (plain : plan.HasPlainNames) {pattern : Pattern}
    {outline : Outline (Hole Empty)} {findings : List (Finding (Hole Empty))}
    (read : read? (kinds nothingKnown) pattern outline = some findings) :
    pattern.Reads (fill (details plan) outline)
      (findings.flatMap (Finding.filled (details plan) (saidInBlocks Empty.elim))) :=
  reads_of_outline plain (fun _ _ _ => rfl) (fun block => block.elim) read

theorem reads_withBlock {plan : GenerationPlan} (plain : plan.HasPlainNames) {pattern : Pattern}
    {lines : List Char} {said : List (List (List Char))} (inBlock : pattern.Reads lines said)
    {outline : Outline (Hole Unit)} {findings : List (Finding (Hole Unit))}
    (read : read? (kinds nothingKnown) pattern outline = some findings) :
    pattern.Reads (fill (withBlock plan lines) outline)
      (findings.flatMap (Finding.filled (withBlock plan lines) (saidInBlocks fun _ => said))) :=
  reads_of_outline plain (fun _ _ _ => rfl) (fun _ => inBlock) read

end Generated

end EntityScaffold
