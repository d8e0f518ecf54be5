import EntityScaffold.Proofs.Text.Outline

/-
Declared classes. A class file opens with the line of its name space; behind the lines of what it uses
stands the line of its class, with the class that it extends. When the names are within their lines,
both lines are the first of their kinds, and the declaration can be read off the file.
-/

namespace EntityScaffold

/-- A class by its name space and its own name. -/
structure Declaration where
  nameSpace : List Char
  name : List Char
  deriving DecidableEq

namespace Declaration

open Text (Pattern Outline)
open Text.Outline (fill ofChars spell)

variable {declaration : Declaration} {parent text : List Char}

def qualified (declaration : Declaration) : List Char :=
  declaration.nameSpace ++ '\x5c' :: declaration.name

def start : String := "<?php\n\nnamespace "

def extending : String := " extends "

/-- A text declares a class that extends another one. -/
def IsIn (parent text : List Char) (declaration : Declaration) : Prop :=
  ∃ uses body, text = start.toList ++ declaration.nameSpace ++ ";\n".toList ++ uses ++
    "\nclass ".toList ++ declaration.name ++ extending.toList ++ parent ++ "\n\x7b\n".toList ++ body

/-! ### Reading -/

def nameSpaceLine : Pattern := .ofTexts "\nnamespace " ["\n"]

def classLine : Pattern := .ofTexts "\nclass " ["\n"]

/-- What a text holds in front of its ending. -/
def before? (ending text : List Char) : Option (List Char) :=
  (Pattern.behind? ending.reverse text.reverse).map List.reverse

/-- The declaration in the first lines of a name space and of a class. -/
def ofText? (parent text : List Char) : Option Declaration :=
  match nameSpaceLine.gapsIn text, classLine.gapsIn text with
  | [nameSpace] :: _, [name] :: _ => do
      let nameSpace ← before? [';'] nameSpace
      let name ← before? (extending.toList ++ parent) name
      return ⟨nameSpace, name⟩
  | _, _ => none

theorem before?_append (text ending : List Char) : before? ending (text ++ ending) = some text := by
  rw [before?, List.reverse_append, Pattern.behind?_append, Option.map_some, List.reverse_reverse]

theorem ofText?_eq_some {others more : List (List (List Char))}
    (nameSpace : nameSpaceLine.gapsIn text = [declaration.nameSpace ++ [';']] :: others)
    (name : classLine.gapsIn text =
      [declaration.name ++ (extending.toList ++ parent)] :: more) :
    ofText? parent text = some declaration := by
  unfold ofText?
  rw [nameSpace, name]
  dsimp only
  rw [before?_append, before?_append]
  rfl

/-! ### Outlines -/

variable {Hole : Type}

/-- The outline of the first lines of a file. -/
def opening (nameSpace : Hole) : Outline Hole := spell start ++ .hole nameSpace :: spell ";\n"

/-- The outline of the line of a class from the name on, and the next one. -/
def classStart (entity : Hole) (ending parent : String) : Outline Hole :=
  .hole entity :: (spell ending ++ spell extending ++ spell parent ++ spell "\n\x7b\n")

/-- The lines of the name space and of the class, as they are read off an outline. -/
def nameSpaceGap (nameSpace : Hole) : List (Outline Hole) := [[.hole nameSpace, .char ';']]

def classGap (entity : Hole) (ending parent : String) : List (Outline Hole) :=
  [.hole entity :: (spell ending ++ spell extending ++ spell parent)]

variable (values : Hole → List Char)

theorem fill_opening (nameSpace : Hole) :
    fill values (opening nameSpace) = start.toList ++ (values nameSpace ++ ";\n".toList) := by
  rw [opening, spell, Text.Outline.fill_append, Text.Outline.fill_ofChars, fill, spell,
    Text.Outline.fill_ofChars]

theorem fill_classStart (entity : Hole) (ending parent : String) :
    fill values (classStart entity ending parent) = values entity ++ ending.toList ++
      extending.toList ++ parent.toList ++ "\n\x7b\n".toList := by
  simp only [classStart, fill, spell, Text.Outline.fill_append, Text.Outline.fill_ofChars,
    List.append_assoc]

theorem fill_classGap (entity : Hole) (ending parent : String) :
    (classGap entity ending parent).map (fill values) =
      [(values entity ++ ending.toList) ++ (extending.toList ++ parent.toList)] := by
  simp only [classGap, List.map_cons, List.map_nil, fill, spell, Text.Outline.fill_append,
    Text.Outline.fill_ofChars, List.append_assoc]

end Declaration

end EntityScaffold
