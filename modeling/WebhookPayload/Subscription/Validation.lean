import WebhookPayload.Subscription.Inlining
import WebhookPayload.Subscription.Shape
import WebhookPayload.GraphQL.Reader.Document

/-! Documents that describe a payload: a single subscription whose selection,
with fragments inlined, is a single field that can produce an event. -/

namespace WebhookPayload

open GraphQL

namespace Schema

/-- Whether events can come from a field of the subscription root. Names of the
type system cannot be subscribed to, nor can fields of fragments that never
apply to the root. -/
def isSubscribable (schema : Schema) (root : TypeDefinition) (field : SelectedField) : Bool :=
  !field.isIntrospection && (root.field? field.name).isSome &&
    field.conditions.all (schema.isPossible · root.name)

/-- The selections of an operation must come down to one field. -/
def singleField : List SelectedField → Except QueryError SelectedField
  | [field] => .ok field
  | _ => .error .notSingleSubscription

/-- Validates a document whose variables have the values that `valuesOf` gives them. -/
def validateWith (schema : Schema)
    (valuesOf : List VariableDefinition → Except QueryError Variables) (document : Document) :
    Except QueryError Subscription :=
  match document.singleSubscription? with
  | none => .error .notSingleSubscription
  | some (name?, operation) =>
    match schema.subscriptionType? with
    | none => .error .subscriptionsNotSupported
    | some root => do
      let variableValues ← valuesOf operation.variableDefinitions
      let scope : Scope := { schema, variableValues, fragments := document.fragments }
      let field ← singleField (← inlineSelections scope root [] [] operation.selections)
      if schema.isSubscribable root field then return { name?, field }
      else .error (.invalidSubscriptionField field.name field.position)

def validate (schema : Schema) (document : Document) : Except QueryError Subscription :=
  schema.validateWith defaultVariables document

/-- Reads a query and validates it as `validate` says. -/
def prepareWith (validate : Document → Except QueryError Subscription) (query : String) :
    Except QueryError Subscription :=
  match Document.parse query with
  | .error cause => .error (.unparsable cause)
  | .ok document => validate document

def prepare (schema : Schema) (query : String) : Except QueryError Subscription :=
  prepareWith schema.validate query

end Schema

end WebhookPayload
