import EntityScaffold.FileTree.Access
import EntityScaffold.Proofs.OutputPaths.Layout

/-
Names without NUL. When what a run is asked for holds no NUL, no name on the way to an output holds
one, for the names are made of parts of the entity, of the controller directory and of the extensions,
and of fixed words.
-/

namespace EntityScaffold

open Text

def NulFree (text : String) : Prop := '\x00' ∉ text.toList

instance (text : String) : Decidable (NulFree text) := inferInstanceAs (Decidable (¬_))

theorem NulFree.append {first second : String} (free : NulFree first) (alsoFree : NulFree second) :
    NulFree (first ++ second) := by
  unfold NulFree
  rw [String.toList_append, List.mem_append, not_or]
  exact ⟨free, alsoFree⟩

theorem NulFree.of_chars {part whole : String} (free : NulFree whole)
    (within : ∀ char ∈ part.toList, char ∈ whole.toList) : NulFree part :=
  fun member => free (within _ member)

theorem hasNul_eq_false_iff {path : Path} :
    FileTree.hasNul path = false ↔ ∀ part ∈ path.parts, NulFree part := by
  unfold FileTree.hasNul NulFree
  rw [List.any_eq_false]
  simp only [List.contains_iff_mem]

theorem hasNul_descend_eq_false_iff {base : Path} {names : List String}
    (free : ∀ name ∈ names, NulFree name) :
    FileTree.hasNul (base.descend names) = false ↔ FileTree.hasNul base = false := by
  rw [hasNul_eq_false_iff, hasNul_eq_false_iff, Path.descend_parts]
  constructor
  · exact fun whole part member => whole part (List.mem_append_left names member)
  · intro above part member
    rcases List.mem_append.mp member with inBase | inNames
    · exact above part inBase
    · exact free part inNames

namespace Placement

/-- What a run is asked for holds no NUL. -/
structure IsNulFree (placement : Placement) : Prop where
  entity : NulFree placement.entity
  controllerDir : NulFree placement.controllerDir
  sourceExtension : NulFree placement.extensions.source
  viewExtension : NulFree placement.extensions.view

variable {placement : Placement}

theorem nulFree_folderNames {written name : String} (free : NulFree written)
    (member : name ∈ ControllerDir.folderNames written) : NulFree name := by
  obtain ⟨folder, listed, same⟩ := List.mem_map.mp member
  subst same
  rcases ControllerDir.mem_written_of_mem_folders listed with isTop | within
  · rw [isTop]
    decide
  · refine free.of_chars fun char inside => ?_
    rw [String.toList_ofList] at inside
    exact within char inside

theorem nulFree_className (sound : placement.IsSound) (free : placement.IsNulFree) :
    NulFree placement.name.className := by
  refine free.entity.of_chars fun char inside => ?_
  rw [(EntityName.nameSpace_eq_of_split? sound.split).2] at inside
  exact EntityName.mem_of_mem_classChars inside

theorem nulFree_nameSpace (sound : placement.IsSound) (free : placement.IsNulFree) :
    NulFree placement.name.nameSpace := by
  refine free.entity.of_chars fun char inside => ?_
  rw [(EntityName.nameSpace_eq_of_split? sound.split).1] at inside
  exact EntityName.mem_of_mem_nameSpaceChars inside

theorem nulFree_folders (sound : placement.IsSound) (free : placement.IsNulFree) {name : String}
    (member : name ∈ placement.folders) : NulFree name := by
  rcases List.mem_append.mp member with inDirectory | inNameSpace
  · exact nulFree_folderNames free.controllerDir inDirectory
  · have plain := EntityName.slash_not_mem_nameSpace sound.split sound.plain
    have inside := (EntityName.inside_of_mem_folders plain inNameSpace).2.2
    exact (nulFree_nameSpace sound free).of_chars inside

theorem nulFree_fileStem {entity : String} (free : NulFree entity) :
    NulFree (EntityName.fileStem entity) := by
  unfold NulFree
  rw [EntityName.fileStem, String.toList_ofList]
  intro member
  have origin := (mem_of_mem_lower member (by decide)).1
  obtain ⟨char, present, same⟩ := List.mem_map.mp origin
  split at same
  · cases same
  · subst same
    exact free present

theorem holdsOfParts_nulFree (sound : placement.IsSound) (free : placement.IsNulFree) :
    placement.HoldsOfParts NulFree := by
  have hClass := nulFree_className sound free
  have word (view : View) : NulFree view.text := by cases view <;> decide
  have format : NulFree placement.format.text := by cases placement.format <;> decide
  exact {
    word := by decide
    folder := fun _ => nulFree_folders sound free
    className := hClass
    controllerFile := (hClass.append (by decide)).append free.sourceExtension
    viewFile := fun view => (word view).append free.viewExtension
    testFile := (hClass.append (by decide)).append free.sourceExtension
    routingFile := ((nulFree_fileStem free.entity).append (by decide)).append format }

theorem nulFree_names (sound : placement.IsSound) (free : placement.IsNulFree) {output : Output}
    {name : String} (member : name ∈ placement.names output) : NulFree name :=
  (holdsOfParts_nulFree sound free).of_mem_names member

end Placement

end EntityScaffold
