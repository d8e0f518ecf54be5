import EntityScaffold.Text.CodePoint

/-
The tokens of a YAML text, and the ways in which a text fails to be one. Indentation has become
explicit: the start of a block collection and the end of any block are tokens of their own. A text
with a fault still has the tokens in front of it, and a reader that stops earlier never meets it.
-/

namespace EntityScaffold.Yaml

/-- A text that breaks the rules of YAML, a numeric escape that names no code point, a version number
of too many digits, or collections inside each other to too great a depth. -/
inductive Fault where
  | malformed
  | escapeRange
  | escapeOverflow
  | versionTooLong (digits : Nat)
  | tooDeep
  deriving DecidableEq, Repr

inductive Token where
  | versionDirective (major : Nat)
  | tagDirective (handle start : List Char)
  | otherDirective
  | documentStart
  | documentEnd
  | blockSequenceStart
  | blockMappingStart
  | blockEnd
  | flowSequenceStart
  | flowSequenceEnd
  | flowMappingStart
  | flowMappingEnd
  | blockEntry
  | flowEntry
  | key
  | value
  | alias (name : List Char)
  | anchor (name : List Char)
  /-- The handle is absent when the tag is written in full. -/
  | tag (handle : Option (List Char)) (suffix : List Char)
  | scalar (content : CodeText) (isPlain : Bool)
  deriving DecidableEq

/-- The tokens of a text up to its end, or up to a fault. -/
structure TokenStream where
  tokens : List Token
  fault : Option Fault := none
  deriving DecidableEq

end EntityScaffold.Yaml
