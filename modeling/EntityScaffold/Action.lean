/-
Actions of a controller, and the plan of a run: which actions it generates, and which of them become
links in the rows of the index view.
-/

namespace EntityScaffold

inductive Action where
  | index
  | show
  | new
  | edit
  | delete
  deriving DecidableEq, Repr

namespace Action

def text : Action → String
  | .index => "index"
  | .show => "show"
  | .new => "new"
  | .edit => "edit"
  | .delete => "delete"

def all : List Action := [.index, .show, .new, .edit, .delete]

def ofText? (text : String) : Option Action := all.find? (·.text == text)

/-- Is an action about one record that exists? Such actions are linked from each row. -/
def isRowLink : Action → Bool
  | .show | .edit => true
  | _ => false

end Action

structure ActionPlan where
  actions : List Action
  rowLinks : List Action
  deriving DecidableEq, Repr

namespace ActionPlan

def readActions : List Action := [.index, .show]

def writeActions : List Action := [.new, .edit, .delete]

def make (withWrite : Bool) : ActionPlan :=
  let actions := if withWrite then readActions ++ writeActions else readActions
  ⟨actions, actions.filter Action.isRowLink⟩

end ActionPlan

end EntityScaffold
