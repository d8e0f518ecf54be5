import EntityScaffold.Text.Blank
import EntityScaffold.Text.PrintableTable

/-
Characters with a printed form: letters, marks, numbers, punctuation, symbols and the space.
-/

namespace EntityScaffold.Text

def isPrintablePoint (point : Nat) : Bool :=
  point == 0x20 || !inRanges unprintableRanges point

end EntityScaffold.Text
