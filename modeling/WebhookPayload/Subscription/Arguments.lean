import WebhookPayload.GraphQL.Definition
import WebhookPayload.GraphQL.Document
import WebhookPayload.Subscription.QueryError

/-! The arguments of a field, bound to the arguments that its definition
declares. Stored subscriptions run without values for their variables, so a
variable stands for its default, or for null where its type allows it. -/

namespace WebhookPayload

open GraphQL

/-- The values of the variables of an operation. -/
abbrev Variables := List (String × Literal)

/-- A later definition of a variable replaces an earlier one. -/
def addDefaults (known : Variables) : List VariableDefinition → Except QueryError Variables
  | [] => .ok known
  | definition :: rest =>
    match definition.default? with
    | some value => addDefaults (Value.setMember definition.name value known) rest
    | none =>
      if definition.type.nullable then
        addDefaults (Value.setMember definition.name .null known) rest
      else .error (.variableNotFound definition.name definition.position)

def defaultVariables (definitions : List VariableDefinition) : Except QueryError Variables :=
  addDefaults [] definitions

/-- The value of an argument without its variables. -/
def resolveVariables (known : Variables) (argument : Argument) : Except QueryError Literal :=
  argument.value.substitute fun name =>
    match known.lookup name with
    | some value => .ok value
    | none => .error (.variableNotFound name argument.position)

/-- Adds an argument; a repeated name keeps its first place and takes the last value. -/
def setArgument (argument : Argument) : List Argument → List Argument
  | [] => [argument]
  | first :: rest =>
    if first.name = argument.name then argument :: rest else first :: setArgument argument rest

/-- The arguments that a field is given, one for each name. -/
def suppliedArguments (head : FieldHead) : List Argument :=
  head.arguments.foldl (fun known argument => setArgument argument known) []

/-- The value that a definition gets, if any: the supplied one or else its default. -/
def argumentValue? (known : Variables) (supplied : List Argument)
    (definition : ArgumentDefinition) : Except QueryError (Option Literal) :=
  match supplied.find? (·.name = definition.name) with
  | some argument => some <$> resolveVariables known argument
  | none => .ok definition.default?

def bindFrom (known : Variables) (head : FieldHead) (supplied : List Argument)
    (bound : List (String × Literal)) :
    List ArgumentDefinition → Except QueryError (List (String × Literal))
  | [] =>
    if supplied.isEmpty then .ok bound
    else .error (.strayArguments (supplied.map Argument.name) head.name head.position)
  | definition :: rest => do
    let value? ← argumentValue? known supplied definition
    let others := supplied.filter (·.name ≠ definition.name)
    if (value?.all Value.isNull) && !definition.type.nullable then
      .error (.requiredArgumentNotFound definition.name head.position)
    else
      match value? with
      | some value =>
        bindFrom known head others (Value.setMember definition.name value bound) rest
      | none => bindFrom known head others bound rest

/-- The arguments of a field in the order of their definitions. Every argument
that excludes null must have a value, and nothing else may be supplied. -/
def bindArguments (known : Variables) (head : FieldHead)
    (definitions : List ArgumentDefinition) : Except QueryError (List (String × Literal)) :=
  bindFrom known head (suppliedArguments head) [] definitions

end WebhookPayload
