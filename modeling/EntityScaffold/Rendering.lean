import EntityScaffold.Failure
import EntityScaffold.RenderContext

/-
Rendering of skeletons to text and to files. A file is written only when the whole text is there;
the directories above it are made, and a file that stands in its place is overwritten.
-/

namespace EntityScaffold

/-- A part of a run: it may change the tree, and what it changed stays when it fails. -/
abbrev Work (α : Type) := ExceptT Failure (StateM FileTree) α

namespace Work

/-- Does something to the tree; `explain` says what an error means here. -/
def onTree {α : Type} (explain : AccessError → Failure) (action : TreeAction α) : Work α :=
  ExceptT.adapt explain action

def ofExcept {α : Type} (result : Except Failure α) : Work α := ExceptT.mk (pure result)

end Work

namespace Library

def renderText (library : Library) (tree : FileTree) (skeleton : String) (bindings : Bindings) :
    Except Failure CodeText :=
  (library.render tree skeleton bindings).1.mapError (Failure.ofRenderFault library skeleton)

/-- The tree that rendering leaves behind. -/
def treeAfter (library : Library) (tree : FileTree) (skeleton : String) (bindings : Bindings) :
    FileTree :=
  (library.render tree skeleton bindings).2

/-- An error of the file system while an output is made at a path. -/
def outputFailure (skeleton : String) (path : Path) : AccessError → Failure
  | .nulByte => .access .nulByte
  | .system error _ => .ofError (.render skeleton (some path) (.ofString error.reason))

/-- A failure to render that names the path of the output as well. -/
def failureAt (path : Path) : Failure → Failure
  | .scaffold (.render skeleton _ reason) written =>
    .scaffold (.render skeleton (some path) reason) written
  | failure => failure

/-- Renders a skeleton into a file, and gives its path. A text that no file can hold leaves an empty
one. -/
def renderFile (library : Library) (skeleton : String) (path : Path) (bindings : Bindings) :
    Work Path := do
  let tree ← get
  set (library.treeAfter tree skeleton bindings)
  let rendered := library.renderText tree skeleton bindings
  let text ← Work.ofExcept (rendered.mapError (failureAt path))
  match text.surrogates? with
  | none => do
    writeAt path text.replacing
    return path
  | some (position, surrogates) => do
    writeAt path []
    throw (.unencodable position surrogates)
where
  writeAt (path : Path) (chars : List Char) : Work Unit :=
    Work.onTree (outputFailure skeleton path)
      (FileTree.writeFile path (.text (String.ofList chars)))

end Library

end EntityScaffold
