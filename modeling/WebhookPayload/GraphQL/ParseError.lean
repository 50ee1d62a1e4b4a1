import WebhookPayload.GraphQL.Document

/-! Why a text is no document or no schema. -/

namespace WebhookPayload.GraphQL

inductive ParseError where
  /-- The text does not fit the grammar, or a number in it is too large. -/
  | malformed
  /-- Selection sets are nested too deeply. -/
  | tooDeep
  /-- An operation without a name is not the only operation. -/
  | multipleOperations (anonymous other : Position)
  | duplicateOperation (name : String) (first second : Position)
  | duplicateFragment (name : String) (first second : Position)
  | missingOperation
  /-- A schema definition names a root twice. -/
  | multipleRoots (root : OperationKind) (second schema : Position)
  | missingQueryRoot (schema : Position)
  deriving DecidableEq

namespace ParseError

def message : ParseError → String
  | malformed => "Syntax error"
  | tooDeep => "recursion limit exceeded."
  | multipleOperations _ _ => "Multiple operations"
  | duplicateOperation name _ _ => "Operation " ++ name ++ " duplicated"
  | duplicateFragment name _ _ => "Fragment " ++ name ++ " duplicated"
  | missingOperation => "Missing operation"
  | multipleRoots root _ _ => "multiple " ++ root.keyword ++ " roots in schema definition"
  | missingQueryRoot _ => "schema definition is missing query root"

/-- The places that the error is about; where there is none in the text, the default one. -/
def positions : ParseError → List Position
  | malformed => []
  | tooDeep | missingOperation => [default]
  | multipleOperations anonymous other => [anonymous, other]
  | duplicateOperation _ first second | duplicateFragment _ first second => [first, second]
  | multipleRoots _ second schema => [second, schema]
  | missingQueryRoot schema => [schema]

end ParseError

end WebhookPayload.GraphQL
