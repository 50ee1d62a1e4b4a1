import WebhookPayload.Execution.Exec
import WebhookPayload.Execution.Collection
import WebhookPayload.Resolver.Registry

/-! Resolved values completed by their types: leaves stay as they are, lists are
completed item by item, and of objects the selected fields are answered. A
failure leaves a position without a value, and the nearest position around it
that may be null becomes null. -/

namespace WebhookPayload

open GraphQL

/-- The failure of a field at a position of the response. -/
def SelectedField.errorAt (field : SelectedField) (path : Path) (cause : ErrorCause) :
    ExecutionError :=
  { cause, path, locations := [field.position] }

namespace Completion

/-- Answers the fields selected on an object of the given type. -/
abbrev ObjectAnswer := TypeDefinition → Json → Path → Exec Members

/-- Waits for a resolved value and records its failure. -/
def await (field : SelectedField) (path : Path) : Resolved → Exec SettledValue
  | .error error => .fail (field.errorAt path (.raised error))
  | .ok value => do
    Exec.note (value.pendingTags.map (TraceEntry.deferredComputed path))
    match value.settle with
    | .ok settled => return settled
    | .error error => Exec.fail (field.errorAt path (.raised error))

/-- The object type that a value of an interface or a union is of. -/
def objectType? (schema : Schema) (expected : String) (value : SettledValue) :
    Option TypeDefinition :=
  (value.typeName?.filter (schema.isPossible expected)).bind schema.type? |>.filter
    fun type => type.kind matches .object _ _

/-- A value other than null, of a type that is given by name. -/
def completeNamed (schema : Schema) (answer : ObjectAnswer) (field : SelectedField)
    (typeName : String) (path : Path) (value : SettledValue) : Exec Json :=
  match schema.type? typeName with
  | none => .fail (field.errorAt path (.unknownType field.name))
  | some type =>
    match type.kind, value.data? with
    | .scalar, some data => return data
    | .enum _, some data => return data
    | .object _ _, some data => .object <$> answer type data path
    | .interface _ _, data? | .union _, data? =>
      match objectType? schema typeName value with
      | some concrete => .object <$> answer concrete (data?.getD .null) path
      | none => .fail (field.errorAt path (.unknownObjectType field.name typeName))
    | _, _ => .fail (field.errorAt path (.unsuitableValue field.name))

def complete (schema : Schema) (answer : ObjectAnswer) (field : SelectedField) (path : Path) :
    TypeRef → Resolved → Exec Json
  | .named typeName nullable, resolved =>
    .atPosition nullable (field.errorAt path (.nullNotAllowed field.name)) do
      let value ← await field path resolved
      if value.isNull then return .null
      completeNamed schema answer field typeName path value
  | .list itemType nullable, resolved =>
    .atPosition nullable (field.errorAt path (.nullNotAllowed field.name)) do
      let value ← await field path resolved
      if value.isNull then return .null
      match value.items? with
      | none => Exec.fail (field.errorAt path (.listExpected field.name))
      | some items =>
        .array <$> Exec.traverse
          (fun (item, i) => complete schema answer field (path ++ [.index i]) itemType (.ok item))
          items.zipIdx

end Completion

end WebhookPayload
