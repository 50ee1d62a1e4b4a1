import WebhookPayload.GraphQL.Definition

/-! Schemas: the types that subscription queries are checked against and that
payloads are built by. -/

namespace WebhookPayload

open GraphQL

structure Schema where
  types : List TypeDefinition
  queryRoot : String
  subscriptionRoot? : Option String

namespace Schema

def defaultQueryRoot : String := "Query"

def defaultSubscriptionRoot : String := "Subscription"

def builtinScalars : List String := ["Int", "Float", "String", "Boolean", "ID"]

def type? (schema : Schema) (name : String) : Option TypeDefinition :=
  schema.types.find? (·.name = name)

/-- The root type of subscriptions, if the schema supports them. -/
def subscriptionType? (schema : Schema) : Option TypeDefinition :=
  schema.subscriptionRoot?.bind schema.type?

/-- Whether an object of type `concrete` may stand where `expected` is expected:
as that type itself, as a member of that union, or as an implementation of that
interface. -/
def isPossible (schema : Schema) (expected concrete : String) : Bool :=
  expected = concrete ||
    match (schema.type? expected).map TypeDefinition.kind with
    | some (.union members) => concrete ∈ members
    | some (.interface _ _) =>
      match (schema.type? concrete).map TypeDefinition.kind with
      | some (.object implements _) => expected ∈ implements
      | _ => false
    | _ => false

theorem name_of_type? {schema : Schema} {name : String} {definition : TypeDefinition}
    (h : schema.type? name = some definition) : definition.name = name := by
  simpa using List.find?_some h

theorem mem_of_type? {schema : Schema} {name : String} {definition : TypeDefinition}
    (h : schema.type? name = some definition) : definition ∈ schema.types :=
  List.mem_of_find?_eq_some h

@[simp] theorem isPossible_self (schema : Schema) (name : String) :
    schema.isPossible name name = true := by
  simp [isPossible]

end Schema

end WebhookPayload
