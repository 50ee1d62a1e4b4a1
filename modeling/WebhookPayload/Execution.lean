import WebhookPayload.Execution.Completion

/-! The execution of a subscription for an event. A subscription gives a stream;
only the first item of it is taken, and completed to the response. -/

namespace WebhookPayload

open GraphQL

/-- What subscriptions are executed with. -/
structure Engine where
  schema : Schema
  resolvers : Registry

/-- The first result of a subscription. -/
structure Response where
  /-- Nothing when a null reached the root field and that excludes null. -/
  data? : Option Members
  errors : List ExecutionError

/-- How an execution ends, what happened, and the context afterwards. A failure
to subscribe is the error of the whole; a stream without items has no response. -/
structure Execution where
  result : Except ExecutionError (Option Response)
  trace : Trace
  context : Context

namespace Engine

/-- Resolves a field of an object. -/
def resolve (engine : Engine) (object : TypeDefinition) (parent : Json) (path : Path)
    (field : SelectedField) : Exec Resolved := do
  Exec.note [.fieldResolved path object.name field.name]
  Exec.ofProgram (engine.resolvers.fieldResolver object.name field.name parent field)

/-- The value of one field of an object, at the position `path`. A field that the
type does not declare is null, with an error. -/
def fieldValue (engine : Engine) (answer : Completion.ObjectAnswer) (object : TypeDefinition)
    (parent : Json) (path : Path) (field : SelectedField) : Exec Json :=
  if field.name = typenameField then return .string object.name
  else
    match object.field? field.name with
    | some definition => do
      let resolved ← engine.resolve object parent path field
      Completion.complete engine.schema answer field path definition.type resolved
    | none => do
      Exec.record (field.errorAt path (.undeclaredField field.name object.name))
      return .null

/-- The members of an object: one for each output name that applies to its type,
in the order of first selection. -/
def answerFields (engine : Engine) (fields : List SelectedField) (object : TypeDefinition)
    (parent : Json) (path : Path) : Exec Members :=
  Exec.traverse
    (fun field : { field // field ∈ collectFields engine.schema object.name fields } => do
      let value ← engine.fieldValue (answerFields engine field.val.subfields) object parent
        (path ++ [.field field.val.outputName]) field.val
      return (field.val.outputName, value))
    (collectFields engine.schema object.name fields).attach
termination_by SelectedField.heights fields
decreasing_by exact SelectedField.heights_subfields_lt field.property

/-- One member of an object: its key and its value. -/
def answerField (engine : Engine) (object : TypeDefinition) (parent : Json) (path : Path)
    (field : SelectedField) : Exec (String × Json) := do
  let value ← engine.fieldValue (engine.answerFields field.subfields) object parent
    (path ++ [.field field.outputName]) field
  return (field.outputName, value)

theorem answerFields_eq (engine : Engine) (fields : List SelectedField) (object : TypeDefinition)
    (parent : Json) (path : Path) :
    engine.answerFields fields object parent path =
      Exec.traverse (engine.answerField object parent path)
        (collectFields engine.schema object.name fields) := by
  rw [answerFields]
  exact Exec.traverse_attach (engine.answerField object parent path) _

def completeField (engine : Engine) (type : TypeRef) (field : SelectedField) (path : Path)
    (resolved : Resolved) : Exec Json :=
  Completion.complete engine.schema (engine.answerFields field.subfields) field path type resolved

/-- The response that an item of the stream gives. -/
def respond (engine : Engine) (type : TypeRef) (field : SelectedField) (item : Program Resolved) :
    Exec Members := do
  Exec.note [.itemTaken 0]
  let resolved ← Exec.ofProgram item
  let value ← engine.completeField type field [.field field.outputName] resolved
  return [(field.outputName, value)]

def execute (engine : Engine) (subscription : Subscription) (event : Event) (context : Context) :
    Execution :=
  let field := subscription.field
  let failed (cause : ErrorCause) : Except ExecutionError (Option Response) :=
    .error (field.errorAt [.field field.outputName] cause)
  match engine.schema.subscriptionType?.bind (·.field? field.name) with
  | none =>
    { result := failed (.undefinedSubscription field.name)
      trace := []
      context }
  | some definition =>
    let start := (engine.resolvers.subscriber field.name event field).run context
    let trace := .subscribed field.name :: start.trace
    match start.answer with
    | .error error => { result := failed (.raised error), trace, context := start.context }
    | .ok [] => { result := .ok none, trace, context := start.context }
    | .ok (item :: _) =>
      let outcome := engine.respond definition.type field item start.context
      { result := .ok (some { data? := outcome.value?, errors := outcome.errors })
        trace := trace ++ outcome.trace
        context := outcome.context }

end Engine

end WebhookPayload
