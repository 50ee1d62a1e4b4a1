import WebhookPayload.Schema
import WebhookPayload.Subscription
import WebhookPayload.Subscription.Arguments

/-! Selections checked against a schema and turned into selected fields, with
every fragment put in place of its spread. Inlining ends because a fragment that
is being inlined may not be spread again, so each spread leaves fewer fragments
to use. -/

namespace WebhookPayload

open GraphQL

/-- What selections may refer to. -/
structure Scope where
  schema : Schema
  variableValues : Variables
  fragments : List (String × FragmentDefinition)

namespace Scope

def fragment? (scope : Scope) (name : String) : Option FragmentDefinition :=
  scope.fragments.lookup name

/-- The fragments that are not being inlined. -/
def unused (scope : Scope) (active : List String) : Nat :=
  scope.fragments.countP (·.1 ∉ active)

theorem unused_cons_lt {scope : Scope} {active : List String} {name : String}
    {fragment : FragmentDefinition} (hf : scope.fragment? name = some fragment)
    (ha : name ∉ active) : scope.unused (name :: active) < scope.unused active := by
  obtain ⟨before, after, hs, -⟩ := List.lookup_eq_some_iff.mp hf
  have least (entries : List (String × FragmentDefinition)) :
      entries.countP (·.1 ∉ name :: active) ≤ entries.countP (·.1 ∉ active) :=
    List.countP_mono_left fun entry _ h => by simp_all
  have hb := least before
  have ha' := least after
  rw [unused, unused, hs, List.countP_append, List.countP_append,
    List.countP_cons_of_neg (by simp), List.countP_cons_of_pos (by simpa using ha)]
  omega

/-- The type that a condition names, which must have fields. -/
def conditionType (scope : Scope) (condition : TypeCondition) :
    Except QueryError TypeDefinition :=
  match (scope.schema.type? condition.typeName).filter TypeDefinition.isComposite with
  | some type => .ok type
  | none => .error (.invalidTypeCondition condition.typeName condition.position)

/-- The definition of a field of the container. -/
def fieldDefinition (container : TypeDefinition) (head : FieldHead) :
    Except QueryError FieldDefinition :=
  match container.field? head.name with
  | some definition => .ok definition
  | none => .error (.invalidField head.name container.name head.position)

/-- The type inside a field's type; values of it must be possible. -/
def fieldType (scope : Scope) (head : FieldHead) (definition : FieldDefinition) :
    Except QueryError TypeDefinition :=
  let name := definition.type.underlying
  match (scope.schema.type? name).filter fun type => type.isLeaf || type.isComposite with
  | some type => .ok type
  | none => .error (.invalidFieldType name head.position)

end Scope

/-- Conditions for what is inside a fragment. A condition on the container's own
type always holds there, so it is not recorded. -/
def narrow (container : TypeDefinition) (conditions : List String) (condition : TypeCondition) :
    List String :=
  if condition.typeName = container.name then conditions else conditions ++ [condition.typeName]

/-- The name of an object's type takes neither arguments nor selections. -/
def selectTypename (conditions : List String) (head : FieldHead) (selections : List Selection) :
    Except QueryError SelectedField :=
  if !head.arguments.isEmpty then
    .error (.strayArguments (head.arguments.map Argument.name) head.name head.position)
  else if !selections.isEmpty then .error (.scalarWithFields head.name head.position)
  else .ok {
    alias? := head.alias?, name := head.name, arguments := [], conditions,
    position := head.position, subfields := [] }

mutual

/-- The fields selected on a container by a selection set, under the conditions
of the fragments around it. The names of those fragments are `active`. -/
def inlineSelections (scope : Scope) (container : TypeDefinition) (conditions active : List String)
    (selections : List Selection) : Except QueryError (List SelectedField) :=
  match selections with
  | [] => .ok []
  | selection :: rest => do
    let fields ← inlineSelection scope container conditions active selection
    let others ← inlineSelections scope container conditions active rest
    return fields ++ others
termination_by (scope.unused active, sizeOf selections)

def inlineSelection (scope : Scope) (container : TypeDefinition) (conditions active : List String)
    (selection : Selection) : Except QueryError (List SelectedField) :=
  match selection with
  | .field head selections => do
    if head.name = typenameField then
      return [← selectTypename conditions head selections]
    let definition ← Scope.fieldDefinition container head
    let type ← scope.fieldType head definition
    let subfields ←
      if type.isLeaf then
        if selections.isEmpty then .ok [] else .error (.scalarWithFields head.name head.position)
      else if selections.isEmpty then .error (.objectWithoutFields head.name head.position)
      else inlineSelections scope type [] active selections
    let arguments ← bindArguments scope.variableValues head definition.arguments
    return [{
      alias? := head.alias?, name := head.name, arguments, conditions,
      position := head.position, subfields }]
  | .spread position name =>
    if cycle : name ∈ active then .error (.fragmentCycle name position)
    else
      match found : scope.fragment? name with
      | none => .error (.fragmentNotFound name position)
      | some fragment => do
        let type ← scope.conditionType fragment.condition
        have := Scope.unused_cons_lt found cycle
        inlineSelections scope type (narrow container conditions fragment.condition)
          (name :: active) fragment.selections
  | .inlineFragment none selections =>
    inlineSelections scope container conditions active selections
  | .inlineFragment (some condition) selections => do
    let type ← scope.conditionType condition
    inlineSelections scope type (narrow container conditions condition) active selections
termination_by (scope.unused active, sizeOf selection)

end

end WebhookPayload
