import WebhookPayload.GraphQL.Position
import WebhookPayload.GraphQL.TypeRef
import WebhookPayload.GraphQL.Value

/-! Query documents: operations and the fragments they spread. Directives have
no influence on payloads and are not kept. -/

namespace WebhookPayload.GraphQL

inductive OperationKind where
  | query
  | mutation
  | subscription
  deriving DecidableEq

def OperationKind.keyword : OperationKind → String
  | query => "query"
  | mutation => "mutation"
  | subscription => "subscription"

/-- An argument, with the place of its value. -/
structure Argument where
  name : String
  value : Value String
  position : Position

/-- A selected field without its own selections. -/
structure FieldHead where
  position : Position
  alias? : Option String
  name : String
  arguments : List Argument

structure TypeCondition where
  typeName : String
  position : Position
  deriving DecidableEq

inductive Selection where
  | field (head : FieldHead) (selections : List Selection)
  | spread (position : Position) (fragment : String)
  | inlineFragment (condition? : Option TypeCondition) (selections : List Selection)

structure VariableDefinition where
  position : Position
  name : String
  type : TypeRef
  default? : Option Literal

structure OperationDefinition where
  kind : OperationKind
  position : Position
  variableDefinitions : List VariableDefinition
  selections : List Selection

structure FragmentDefinition where
  position : Position
  condition : TypeCondition
  selections : List Selection

/-- A document has either one operation without a name or operations by name. -/
inductive Operations where
  | anonymous (operation : OperationDefinition)
  | named (operations : List (String × OperationDefinition))

structure Document where
  operations : Operations
  fragments : List (String × FragmentDefinition)

/-- The operations in the order of writing, with their names. -/
def Operations.entries : Operations → List (Option String × OperationDefinition)
  | anonymous operation => [(none, operation)]
  | named operations => operations.map fun (name, operation) => (some name, operation)

def Document.fragment? (document : Document) (name : String) : Option FragmentDefinition :=
  document.fragments.lookup name

end WebhookPayload.GraphQL
