import EntityScaffold.Action
import EntityScaffold.EntityName
import EntityScaffold.Proofs.Text.PlainText
import EntityScaffold.Proofs.Text.WordEnds
import EntityScaffold.Request

/-
How routes are spelt. The words of an action, what it adds to the name and to the path of a route, and
its methods are given letter by letter; that is what is compared with generated texts. The prefix of the
names is the stem of the routing file where the prefix of the paths is the usual one.
-/

namespace EntityScaffold

open Text

namespace Action

def letters : Action → List Char
  | .index => ['i', 'n', 'd', 'e', 'x']
  | .show => ['s', 'h', 'o', 'w']
  | .new => ['n', 'e', 'w']
  | .edit => ['e', 'd', 'i', 't']
  | .delete => ['d', 'e', 'l', 'e', 't', 'e']

def nameEnd : Action → List Char
  | .index => []
  | action => '_' :: action.letters

def pathEnd : Action → List Char
  | .index => ['/']
  | .new => '/' :: Action.new.letters
  | action => ['/', '{', 'i', 'd', '}', '/'] ++ action.letters

theorem text_toList (action : Action) : action.text.toList = action.letters := by
  cases action <;> exact String.toList_ofList

end Action

namespace Route

theorem name_toList (written : String) (action : Action) :
    (name written action.text).toList = written.toList ++ action.nameEnd := by
  by_cases index : action = .index
  · rw [index, Action.nameEnd, List.append_nil]
    rfl
  · have apart : action.text ≠ "index" := by
      revert index
      cases action <;> decide
    have nameEnd : action.nameEnd = '_' :: action.letters := by
      revert index
      cases action <;> decide
    rw [name, if_neg apart, String.toList_append, String.toList_append, Action.text_toList,
      nameEnd, List.append_assoc]
    rfl

/-- Without surrogates a prefix is the start of a path as strings have it. -/
theorem baseText_ofString (written : String) :
    baseText (CodeText.ofString written) = CodeText.ofString (base written) := by
  have isSlash : (· == CodePoint.ofChar '/') ∘ CodePoint.ofChar = (· == '/') := by
    funext char
    rw [Bool.eq_iff_iff]
    simp only [Function.comp_apply, beq_iff_eq]
    exact ⟨CodePoint.ofChar_injective, congrArg CodePoint.ofChar⟩
  have bare : trim (· == CodePoint.ofChar '/') (CodeText.ofString written) =
      CodeText.ofChars (trim (· == '/') written.toList) := by
    simp only [trim, trimEnd, CodeText.ofString, CodeText.ofChars, List.dropWhile_map,
      ← List.map_reverse, isSlash]
  rw [baseText, base, bare]
  cases trim (· == '/') written.toList with
  | nil => rfl
  | cons first rest =>
      change _ = CodeText.ofString (String.ofList _)
      rw [CodeText.ofString, String.toList_ofList]
      rfl

theorem nameText_ofString (written action : String) :
    nameText (CodeText.ofString written) (CodeText.ofString action) =
      CodeText.ofString (name written action) := by
  unfold nameText name
  by_cases index : action = "index"
  · rw [if_pos index, if_pos (congrArg CodeText.ofString index)]
  · rw [if_neg index, if_neg fun same => index (CodeText.ofString_injective same),
      CodeText.ofString_append, CodeText.ofString_append]

theorem isPlain_baseText {written : CodeText} (plain : written.IsPlain) :
    CodeText.IsPlain (baseText written) := by
  rw [← CodeText.ofString_toStringReplacing plain, baseText_ofString]
  exact CodeText.isPlain_ofString _

theorem isPlain_nameText {written action : CodeText} (plain : written.IsPlain)
    (alsoPlain : action.IsPlain) : CodeText.IsPlain (nameText written action) := by
  rw [← CodeText.ofString_toStringReplacing plain, ← CodeText.ofString_toStringReplacing alsoPlain,
    nameText_ofString]
  exact CodeText.isPlain_ofString _

theorem tail?_text (action : Action) :
    tail? action.text = some (String.ofList action.pathEnd) := by
  cases action <;> decide

/-- The usual prefix is lowered before its slashes are replaced, and the stem is made the other way
round; both are the same text unless the entity has a slash, which stays in the stem. -/
theorem namePrefix_routePrefixOf_eq_iff {entity : String} :
    namePrefix (EntityName.routePrefixOf entity) = EntityName.fileStem entity ↔
      '/' ∉ entity.toList := by
  rw [namePrefix, EntityName.routePrefixOf, EntityName.fileStem, String.toList_ofList,
    String.ofList_inj, ← lower_replaceChar isWordEnd_slash isWordEnd_underscore]
  constructor
  · intro same member
    have inStem : '/' ∈ lower (replaceChar '.' '_' entity.toList) :=
      isWordEnd_slash.mem_lower_iff.mpr (mem_replaceChar_of_ne member (by decide))
    rw [← same, isWordEnd_slash.mem_lower_iff] at inStem
    exact not_mem_replaceChar (by decide) _ inStem
  · intro absent
    rw [replaceChar_replaceChar absent]

end Route

/-- A request with the usual prefix of an entity names its routes after the stem of the routing file of
that entity, whatever letters the name of the entity has, just when it has no slash. -/
theorem GenerationRequest.routeNamePrefix_eq_fileStem_iff {request : GenerationRequest}
    {entity : String} (usual : request.routePrefix = EntityName.routePrefixOf entity) :
    request.routeNamePrefix = EntityName.fileStem entity ↔ '/' ∉ entity.toList := by
  rw [routeNamePrefix, usual]
  exact Route.namePrefix_routePrefixOf_eq_iff

end EntityScaffold
