import WebhookPayload.Proofs.Completion
import WebhookPayload.Proofs.Inlining

/-! # Fields that objects can answer

Validation looks a field up on the container around it, which may be an
interface or the type of a condition; execution looks it up on the type of the
object at hand. `Schema.Answerable` is what the one leaves for the other: every
object to which the field applies declares it, with a type that is defined, and
can answer what is selected below. Inlined fields are answerable
(`Inlines.answerable`) if objects declare the fields of their interfaces. -/

namespace WebhookPayload

open GraphQL

def GraphQL.TypeDefinition.IsInterface (definition : TypeDefinition) : Prop :=
  ∃ interfaces fields, definition.kind = .interface interfaces fields

namespace Schema

/-- Every object type declares the fields of the interfaces that it lists, with their types. -/
def Consistent (schema : Schema) : Prop :=
  ∀ object interface : TypeDefinition, schema.type? object.name = some object →
    object.IsObject → schema.type? interface.name = some interface → interface.IsInterface →
    interface.name ∈ object.kind.implements →
    ∀ name declared, interface.field? name = some declared →
      ∃ own, object.field? name = some own ∧ own.type = declared.type

variable {schema : Schema} {expected concrete : TypeDefinition}

theorem type?_self {name : String} (h : schema.type? name = some expected) :
    schema.type? expected.name = some expected := by
  rw [name_of_type? h]
  exact h

theorem isPossible_iff (defined : schema.type? expected.name = some expected)
    (known : schema.type? concrete.name = some concrete) :
    schema.isPossible expected.name concrete.name = true ↔
      expected = concrete ∨
      (∃ members, expected.kind = .union members ∧ concrete.name ∈ members) ∨
      expected.IsInterface ∧ concrete.IsObject ∧
        expected.name ∈ concrete.kind.implements := by
  have same : expected.name = concrete.name ↔ expected = concrete := by
    constructor
    · intro h
      rw [h, known] at defined
      exact (Option.some.inj defined).symm
    · intro h
      rw [h]
  unfold isPossible
  rw [defined, known, Bool.or_eq_true, decide_eq_true_iff, same, Option.map_some, Option.map_some]
  refine or_congr_right ?_
  unfold TypeDefinition.IsInterface TypeDefinition.IsObject
  cases expected.kind <;> cases concrete.kind <;> simp [TypeKind.implements]

/-- What is declared for a type is declared, with the same type, for every object
that may stand for it. A union declares nothing. -/
theorem Consistent.field? (consistent : schema.Consistent)
    (defined : schema.type? expected.name = some expected)
    (known : schema.type? concrete.name = some concrete)
    (possible : schema.isPossible expected.name concrete.name = true) {name : String}
    {declared : FieldDefinition} (found : expected.field? name = some declared) :
    ∃ own, concrete.field? name = some own ∧ own.type = declared.type := by
  rcases (isPossible_iff defined known).mp possible with
    rfl | ⟨members, union, -⟩ | ⟨interface, object, listed⟩
  · exact ⟨declared, found, rfl⟩
  · rw [TypeDefinition.field?, union] at found
    cases found
  · exact consistent concrete expected known object defined interface listed name declared found

/-- An object type that may stand where a type is expected, and to which a field applies. -/
structure Meets (schema : Schema) (typeName : String) (field : SelectedField)
    (object : TypeDefinition) : Prop where
  defined : schema.type? object.name = some object
  possible : schema.isPossible typeName object.name = true
  applies : field.applies schema object.name = true

/-- A field, selected where a type is expected, that can be answered on every
object that it applies to. -/
inductive Answerable (schema : Schema) : String → SelectedField → Prop
  | typename {typeName field} (named : field.name = typenameField) :
      Answerable schema typeName field
  | declared {typeName field} (named : field.name ≠ typenameField)
      (found : ∀ object, schema.Meets typeName field object →
        ∃ definition, object.field? field.name = some definition)
      (defined : ∀ object definition, schema.Meets typeName field object →
        object.field? field.name = some definition →
          ∃ type, schema.type? definition.type.underlying = some type)
      (below : ∀ object definition, schema.Meets typeName field object →
        object.field? field.name = some definition →
          ∀ sub ∈ field.subfields, Answerable schema definition.type.underlying sub) :
      Answerable schema typeName field

end Schema

/-! ## What inlining leaves -/

/-- Whatever may stand for the expected type and meets the conditions may stand
for the container. -/
def Scope.Implies (scope : Scope) (typeName : String) (conditions : List String)
    (container : TypeDefinition) : Prop :=
  ∀ concrete, scope.schema.isPossible typeName concrete = true →
    conditions.all (scope.schema.isPossible · concrete) = true →
      scope.schema.isPossible container.name concrete = true

/-- Where nothing is recorded yet, the expected type is the container. -/
theorem Scope.implies_of_type? {scope : Scope} {typeName : String} {type : TypeDefinition}
    (h : scope.schema.type? typeName = some type) : scope.Implies typeName [] type := by
  intro concrete possible _
  rw [Schema.name_of_type? h]
  exact possible

/-- Inside a fragment the type of its condition is implied, also where the
condition is not recorded: then it is the container's own. -/
theorem Scope.Implies.narrow {scope : Scope} {typeName : String} {conditions : List String}
    {container type : TypeDefinition} {condition : TypeCondition}
    (implied : scope.Implies typeName conditions container)
    (defined : scope.schema.type? condition.typeName = some type) :
    scope.Implies typeName (narrow container conditions condition) type := by
  intro concrete possible all
  have named : type.name = condition.typeName := Schema.name_of_type? defined
  unfold WebhookPayload.narrow at all
  split at all
  · rename_i same
    rw [named, same]
    exact implied concrete possible all
  · rw [List.all_append, Bool.and_eq_true] at all
    rw [named]
    simpa using all.2

/-- A field that its container declares is declared, with the same type, by the
objects that it applies to. -/
theorem Schema.Consistent.field?_of_meets {scope : Scope} (consistent : scope.schema.Consistent)
    {typeName : String} {container : TypeDefinition} {definition : FieldDefinition}
    {field : SelectedField} (implied : scope.Implies typeName field.conditions container)
    (known : scope.schema.type? container.name = some container)
    (declared : container.field? field.name = some definition) (object : TypeDefinition)
    (meets : scope.schema.Meets typeName field object) :
    ∃ own, object.field? field.name = some own ∧ own.type = definition.type :=
  consistent.field? known meets.defined (implied object.name meets.possible meets.applies) declared

/-- The type that an object declares for a field is the one that all objects declare for it. -/
theorem Schema.type_eq_of_own {schema : Schema} {typeName : String} {field : SelectedField}
    {definition : FieldDefinition}
    (own : ∀ object, schema.Meets typeName field object →
      ∃ own, object.field? field.name = some own ∧ own.type = definition.type)
    {object : TypeDefinition} {answer : FieldDefinition}
    (meets : schema.Meets typeName field object)
    (found : object.field? field.name = some answer) : answer.type = definition.type := by
  obtain ⟨_, found', same⟩ := own object meets
  cases found.symm.trans found'
  exact same

/-- What holds of a field's name alone, or of a field that all objects it applies
to declare with one type, given that it holds of the fields below with that type,
holds of all inlined fields. They are inlined where a type is expected that, with
the conditions recorded so far, implies the container. -/
theorem Inlines.forall_fields {scope : Scope} (consistent : scope.schema.Consistent)
    {P : String → SelectedField → Prop}
    (typename : ∀ typeName field, field.name = typenameField → P typeName field)
    (declared : ∀ typeName field (definition : FieldDefinition) (type : TypeDefinition),
      field.name ≠ typenameField →
      (∀ object, scope.schema.Meets typeName field object →
        ∃ own, object.field? field.name = some own ∧ own.type = definition.type) →
      scope.schema.type? definition.type.underlying = some type →
      (type.isLeaf = true → field.subfields = []) →
      (∀ sub ∈ field.subfields, P definition.type.underlying sub) → P typeName field)
    {container : TypeDefinition} {conditions active : List String} {selections : List Selection}
    {fields : List SelectedField} (h : Inlines scope container conditions active selections fields)
    (known : scope.schema.type? container.name = some container) {typeName : String}
    (implied : scope.Implies typeName conditions container) :
    ∀ field ∈ fields, P typeName field := by
  induction h generalizing typeName with
  | nil => simp
  | cons _ _ one all =>
    intro field member
    rcases List.mem_append.mp member with member | member
    · exact one known implied field member
    · exact all known implied field member
  | typename named _ =>
    intro field member
    cases List.mem_singleton.mp member
    exact typename _ _ named
  | leaf named found defined _ _ =>
    intro field member
    cases List.mem_singleton.mp member
    exact declared _ _ _ _ named (consistent.field?_of_meets implied known found) defined
      (fun _ => rfl) nofun
  | composite named found defined kind _ _ _ below =>
    intro field member
    cases List.mem_singleton.mp member
    have inner := below (Schema.type?_self defined) (Scope.implies_of_type? defined)
    have other := TypeDefinition.isLeaf_eq_false_of_isComposite kind
    exact declared _ _ _ _ named (consistent.field?_of_meets implied known found) defined
      (fun leaf => absurd leaf (by simp [other])) inner
  | unconditional _ inside => exact inside known implied
  | spread _ _ defined _ _ inside | conditional defined _ _ inside =>
    exact inside (Schema.type?_self defined) (implied.narrow defined)

/-- Inlined fields are answerable. -/
theorem Inlines.answerable {scope : Scope} (consistent : scope.schema.Consistent)
    {container : TypeDefinition} {conditions active : List String} {selections : List Selection}
    {fields : List SelectedField} (h : Inlines scope container conditions active selections fields)
    (known : scope.schema.type? container.name = some container) {typeName : String}
    (implied : scope.Implies typeName conditions container) :
    ∀ field ∈ fields, scope.schema.Answerable typeName field := by
  refine h.forall_fields consistent (fun _ _ => .typename) ?_ known implied
  intro typeName field definition type named own defined _ below
  refine .declared named ?found ?defined ?below
  case found =>
    intro object meets
    obtain ⟨answer, found, -⟩ := own object meets
    exact ⟨answer, found⟩
  case defined =>
    intro object answer meets found
    rw [Schema.type_eq_of_own own meets found]
    exact ⟨type, defined⟩
  case below =>
    intro object answer meets found
    rw [Schema.type_eq_of_own own meets found]
    exact below

end WebhookPayload
