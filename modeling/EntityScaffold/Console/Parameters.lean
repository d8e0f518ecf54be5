import EntityScaffold.Console.ParameterValue

/-
The parameters of a handler: a value in round brackets behind the name of the handler, or a value
alone.
-/

namespace EntityScaffold.Console

namespace Parameters

def isHandlerChar (point : CodePoint) : Bool :=
  match point.toChar? with
  | some char => char == '.' || Text.isWordChar char
  | none => false

/-- The part of parameters that is a value: what stands in brackets behind the name of a handler, or
all of them. A name alone has no value. -/
def valuePart (parameters : CodeText) : CodeText :=
  let rest := parameters.dropWhile isHandlerChar
  if rest.isEmpty then CodeText.ofString "()"
  else if rest.head? = some (CodePoint.ofChar '(') && 2 ≤ rest.length &&
      rest.getLast? = some (CodePoint.ofChar ')') && !rest.contains (CodePoint.ofChar '\n') then rest
  else parameters

/-- The part of parameters that is no value, and what is wrong with it. -/
def fault? (parameters : CodeText) : Option (CodeText × ParameterFault) :=
  let part := valuePart (Text.trim CodePoint.isBlank parameters)
  (valueFault? part.replacing).map fun fault => (part, fault)

end Parameters

end EntityScaffold.Console
