import EntityScaffold.Proofs.Text.PlainText
import EntityScaffold.Rendering

/-
The packaged skeletons by name. A name leads to the skeleton in the catalog, no packaged skeleton asks
what it is, and so its text is that of its pieces, whatever the file tree is.
-/

namespace EntityScaffold

open Skeleton

namespace Library

/-- The names that skeletons are asked for by, each with the skeleton that it means. -/
def packagedNames : List (String × Skeleton) := [
  ("controller", Packaged.controller),
  ("actions/index", Packaged.indexAction),
  ("actions/show", Packaged.showAction),
  ("actions/new", Packaged.newAction),
  ("actions/edit", Packaged.editAction),
  ("actions/delete", Packaged.deleteAction),
  ("config/routing.yaml", Packaged.yamlRouting),
  ("config/routing.xml", Packaged.xmlRouting),
  ("config/routing.php", Packaged.phpRouting),
  ("tests/test", Packaged.functionalTest),
  ("views/index", Packaged.indexView),
  ("views/show", Packaged.showView),
  ("views/new", Packaged.newView),
  ("views/edit", Packaged.editView),
  ("views/form", Packaged.formView)]

theorem file_packagedNames : ∀ entry ∈ packagedNames,
    (fileParts? entry.1).map ("/".intercalate ·) = some (entry.1 ++ ".j2") ∧
      firstUse? selfName entry.2 ≠ some true := by
  decide +kernel

theorem find?_packagedNames : ∀ entry ∈ packagedNames,
    Packaged.find? (entry.1 ++ ".j2") = some entry.2 := by
  simp [packagedNames, Packaged.find?, Packaged.catalog, List.lookup_cons]

theorem source_packaged {name : String} {skeleton : Skeleton}
    (named : (name, skeleton) ∈ packagedNames) : Packaged.source name = .ok skeleton := by
  have listed : Packaged.find? (name ++ ".j2") = some skeleton := find?_packagedNames _ named
  obtain ⟨parts, split, joined⟩ := Option.map_eq_some_iff.mp (file_packagedNames _ named).1
  dsimp only at split joined
  unfold Packaged.source
  rw [split]
  dsimp only
  rw [joined, listed]

/-- What a packaged skeleton includes by a name. -/
def included (name : CodeText) (scope : Scope) : Except RenderFault CodeText :=
  renderWith (fun _ _ => .error .notFound) Packaged.source name.toStringReplacing
    ⟨scope.bindings, false, false⟩

theorem renderWith_packaged {included : CodeText → Scope → Except RenderFault CodeText}
    {name : String} {skeleton : Skeleton} (named : (name, skeleton) ∈ packagedNames)
    (scope : Scope) :
    renderWith included Packaged.source name scope =
      (renderPieces included scope skeleton).map Prod.fst := by
  have asks := (file_packagedNames _ named).2
  unfold renderWith
  rw [source_packaged named]
  change (renderPieces included (if firstUse? selfName skeleton = some true then
    scope.assign selfName (identity name) else scope) skeleton >>= fun result => _) = _
  rw [if_neg asks]
  cases renderPieces included scope skeleton <;> rfl

theorem included_packaged {name : String} {skeleton : Skeleton}
    (named : (name, skeleton) ∈ packagedNames) (scope : Scope) :
    included (CodeText.ofString name) scope =
      (renderPieces (fun _ _ => .error .notFound) ⟨scope.bindings, false, false⟩ skeleton).map
        Prod.fst := by
  rw [included, CodeText.toStringReplacing_ofString, renderWith_packaged named]

theorem renderText_packaged {name : String} {skeleton : Skeleton}
    (named : (name, skeleton) ∈ packagedNames) {bindings : Bindings}
    (noSelf : bindings.lookup selfName = none) {tree : FileTree} {text : CodeText}
    (rendered : (renderPieces included ⟨bindings, false, false⟩ skeleton).map Prod.fst =
      .ok text) :
    Library.packaged.renderText tree name bindings = .ok text := by
  have whole : (Library.packaged.render tree name bindings).1 =
      renderWith included Packaged.source name ⟨bindings, false, false⟩ := by
    unfold render renderNamed
    rw [noSelf]
    rfl
  rw [renderText, whole, renderWith_packaged named, rendered]
  rfl

end Library

end EntityScaffold
