import WebhookPayload.Execution
import WebhookPayload.Proofs.Turns

/-! # What a resolved value is taken for

Completion decides by the type of a position and by the resolved value alone
whether there is an error, a leaf, a list or an object. `Schema.shape` is this
decision and `Engine.build` what follows from it; completion is the two of them
at a position (`completeField_eq`). -/

namespace WebhookPayload

open GraphQL

/-- What waiting for a resolved value comes to. -/
def Resolved.settle (resolved : Resolved) : Except FieldError SettledValue :=
  resolved.bind FieldValue.settle

/-- The JSON value that a resolved value comes to. -/
def Resolved.data? (resolved : Resolved) : Option Json :=
  resolved.settle.toOption.bind SettledValue.data?

/-- The items of the list that a resolved value comes to. -/
def Resolved.items? (resolved : Resolved) : Option (List FieldValue) :=
  resolved.settle.toOption.bind SettledValue.items?

def Resolved.pendingTags : Resolved → List (Option String)
  | .ok value => value.pendingTags
  | .error _ => []

/-- What a value is taken for at a position of the response. -/
inductive Shape where
  | failure (cause : ErrorCause)
  /-- A null or the value of a leaf type, which is not looked into. -/
  | leaf (data : Json)
  | list (itemType : TypeRef) (items : List FieldValue)
  | object (type : TypeDefinition) (value : Json)

namespace Schema

/-- What a value other than null is taken for, where a type given by name is expected. -/
def namedShape (schema : Schema) (fieldName typeName : String) (value : SettledValue) : Shape :=
  match schema.type? typeName with
  | none => .failure (.unknownType fieldName)
  | some type =>
    match type.kind, value.data? with
    | .scalar, some data => .leaf data
    | .enum _, some data => .leaf data
    | .object _ _, some data => .object type data
    | .interface _ _, data? | .union _, data? =>
      match Completion.objectType? schema typeName value with
      | some concrete => .object concrete (data?.getD .null)
      | none => .failure (.unknownObjectType fieldName typeName)
    | _, _ => .failure (.unsuitableValue fieldName)

/-- What a settled value is taken for. -/
def settledShape (schema : Schema) (fieldName : String) (type : TypeRef) (value : SettledValue) :
    Shape :=
  if value.isNull then .leaf .null
  else
    match type with
    | .named typeName _ => schema.namedShape fieldName typeName value
    | .list itemType _ =>
      match value.items? with
      | none => .failure (.listExpected fieldName)
      | some items => .list itemType items

def shape (schema : Schema) (fieldName : String) (type : TypeRef) (resolved : Resolved) : Shape :=
  match resolved.settle with
  | .error error => .failure (.raised error)
  | .ok value => schema.settledShape fieldName type value

end Schema

namespace Engine

/-- Completes one item of a list. -/
def completeItem (engine : Engine) (field : SelectedField) (path : Path) (itemType : TypeRef)
    (item : FieldValue × Nat) : Exec Json :=
  engine.completeField itemType field (path ++ [.index item.2]) (.ok item.1)

/-- What becomes of a value that is taken for the given shape. -/
def build (engine : Engine) (field : SelectedField) (path : Path) : Shape → Exec Json
  | .failure cause => .fail (field.errorAt path cause)
  | .leaf data => Exec.pure data
  | .list itemType items =>
    .array <$> Exec.traverse (engine.completeItem field path itemType) items.zipIdx
  | .object object value => .object <$> engine.answerFields field.subfields object value path

theorem completeNamed_eq (engine : Engine) (field : SelectedField) (typeName : String)
    (path : Path) (value : SettledValue) :
    Completion.completeNamed engine.schema (engine.answerFields field.subfields) field typeName
        path value =
      engine.build field path (engine.schema.namedShape field.name typeName value) := by
  unfold Completion.completeNamed Schema.namedShape
  cases engine.schema.type? typeName with
  | none => rfl
  | some type =>
    simp only
    cases type.kind <;> cases value.data? <;> try rfl
    all_goals
      cases Completion.objectType? engine.schema typeName value <;> rfl

theorem await_eq (field : SelectedField) (path : Path) (resolved : Resolved) :
    Completion.await field path resolved =
      (Exec.note (resolved.pendingTags.map (TraceEntry.deferredComputed path))).bind fun _ =>
        match resolved.settle with
        | .ok value => Exec.pure value
        | .error error => .fail (field.errorAt path (.raised error)) := by
  cases resolved with
  | error error =>
    funext context
    rfl
  | ok value => rfl

/-- Waiting for a value and going on with it, where going on builds what the
settled value is taken for. -/
theorem await_bind (engine : Engine) (type : TypeRef) (field : SelectedField) (path : Path)
    (resolved : Resolved) {next : SettledValue → Exec Json}
    (h : ∀ value,
      next value = engine.build field path (engine.schema.settledShape field.name type value)) :
    (Completion.await field path resolved).bind next =
      (Exec.note (resolved.pendingTags.map (TraceEntry.deferredComputed path))).bind fun _ =>
        engine.build field path (engine.schema.shape field.name type resolved) := by
  rw [await_eq, Exec.bind_assoc]
  congr 1
  funext _
  unfold Schema.shape
  cases resolved.settle with
  | error error => rfl
  | ok value => exact (Exec.pure_bind value next).trans (h value)

/-- Completion of a position: what the value is taken for is built, after it is
waited for and within what the position allows. -/
theorem completeField_eq (engine : Engine) (type : TypeRef) (field : SelectedField) (path : Path)
    (resolved : Resolved) :
    engine.completeField type field path resolved =
      Exec.atPosition type.nullable (field.errorAt path (.nullNotAllowed field.name))
        ((Exec.note (resolved.pendingTags.map (TraceEntry.deferredComputed path))).bind fun _ =>
          engine.build field path (engine.schema.shape field.name type resolved)) := by
  cases type with
  | named typeName nullable =>
    rw [completeField, Completion.complete]
    refine congrArg _ (engine.await_bind _ field path resolved fun value => ?_)
    unfold Schema.settledShape
    cases value.isNull with
    | true => rfl
    | false => exact engine.completeNamed_eq field typeName path value
  | list itemType nullable =>
    rw [completeField, Completion.complete]
    refine congrArg _ (engine.await_bind _ field path resolved fun value => ?_)
    unfold Schema.settledShape
    cases value.isNull with
    | true => rfl
    | false => cases value.items? <;> rfl

/-! ## At a position -/

/-- What is built for a resolved value before the position is considered. -/
def built (engine : Engine) (type : TypeRef) (field : SelectedField) (path : Path)
    (resolved : Resolved) (context : Context) : Outcome Json :=
  engine.build field path (engine.schema.shape field.name type resolved) context

theorem value?_completeField (engine : Engine) (type : TypeRef) (field : SelectedField)
    (path : Path) (resolved : Resolved) (context : Context) :
    (engine.completeField type field path resolved context).value? =
      if type.nullable then
        some ((engine.built type field path resolved context).value?.getD .null)
      else
        (engine.built type field path resolved context).value?.filter fun json => !json.isNull := by
  rw [completeField_eq, Exec.value?_atPosition, Exec.bind_of_some rfl]
  rfl

/-- A position holds what is built for it if that may stand there, or the null
that stands for what is missing. -/
theorem value?_completeField_eq_some {engine : Engine} {type : TypeRef} {field : SelectedField}
    {path : Path} {resolved : Resolved} {context : Context} {json : Json} :
    (engine.completeField type field path resolved context).value? = some json ↔
      (engine.built type field path resolved context).value? = some json ∧
          (json = .null → type.nullable = true) ∨
        (engine.built type field path resolved context).value? = none ∧
          type.nullable = true ∧ json = .null := by
  rw [value?_completeField]
  cases type.nullable <;> cases (engine.built type field path resolved context).value? with
  | none => simp [eq_comm]
  | some found => cases found <;> cases json <;> simp [Option.filter, Json.isNull]

theorem value?_completeField_eq_none {engine : Engine} {type : TypeRef} {field : SelectedField}
    {path : Path} {resolved : Resolved} {context : Context} :
    (engine.completeField type field path resolved context).value? = none ↔
      type.nullable = false ∧
        ((engine.built type field path resolved context).value? = none ∨
          (engine.built type field path resolved context).value? = some .null) := by
  rw [value?_completeField]
  cases type.nullable <;> cases (engine.built type field path resolved context).value? with
  | none => simp
  | some found => cases found <;> simp [Option.filter, Json.isNull]

theorem errors_completeField (engine : Engine) (type : TypeRef) (field : SelectedField)
    (path : Path) (resolved : Resolved) (context : Context) :
    (engine.completeField type field path resolved context).errors =
      (engine.built type field path resolved context).errors ++
        if type.nullable = false ∧
            (engine.built type field path resolved context).value? = some .null then
          [field.errorAt path (.nullNotAllowed field.name)]
        else [] := by
  rw [completeField_eq, Exec.errors_atPosition, Exec.bind_of_some rfl]
  rfl

theorem trace_completeField (engine : Engine) (type : TypeRef) (field : SelectedField) (path : Path)
    (resolved : Resolved) (context : Context) :
    (engine.completeField type field path resolved context).trace =
      resolved.pendingTags.map (TraceEntry.deferredComputed path) ++
        (engine.built type field path resolved context).trace := by
  rw [completeField_eq, Exec.trace_atPosition, Exec.bind_of_some rfl]
  rfl

theorem context_completeField (engine : Engine) (type : TypeRef) (field : SelectedField)
    (path : Path) (resolved : Resolved) (context : Context) :
    (engine.completeField type field path resolved context).context =
      (engine.built type field path resolved context).context := by
  rw [completeField_eq, Exec.context_atPosition, Exec.bind_of_some rfl]
  rfl

end Engine

/-! ## Shapes -/

def GraphQL.TypeDefinition.IsObject (definition : TypeDefinition) : Prop :=
  ∃ interfaces fields, definition.kind = .object interfaces fields

namespace Schema

/-- A type whose values are taken as they are. -/
def HasLeaf (schema : Schema) (type : TypeRef) : Prop :=
  ∃ typeName nullable definition, type = .named typeName nullable ∧
    schema.type? typeName = some definition ∧ definition.isLeaf = true

/-- When a resolved value is taken for what. -/
inductive Takes (schema : Schema) : TypeRef → Resolved → Shape → Prop
  | failure {type : TypeRef} {resolved : Resolved} {cause : ErrorCause}
      (lacking : schema.HasLeaf type → resolved.data? = none) :
      Takes schema type resolved (.failure cause)
  | null {type : TypeRef} {resolved : Resolved} (plain : resolved.settle = .ok (.json .null)) :
      Takes schema type resolved (.leaf .null)
  | leaf {type : TypeRef} {resolved : Resolved} {data : Json} (leaf : schema.HasLeaf type)
      (kept : resolved.data? = some data) : Takes schema type resolved (.leaf data)
  | list {itemType : TypeRef} {nullable : Bool} {resolved : Resolved} {items : List FieldValue}
      (listed : resolved.items? = some items) :
      Takes schema (.list itemType nullable) resolved (.list itemType items)
  | object {typeName : String} {nullable : Bool} {resolved : Resolved} {object : TypeDefinition}
      {parent : Json} (composite : ¬ schema.HasLeaf (.named typeName nullable))
      (defined : schema.type? object.name = some object)
      (possible : schema.isPossible typeName object.name = true) (kind : object.IsObject)
      (value : resolved.data?.getD .null = parent) :
      Takes schema (.named typeName nullable) resolved (.object object parent)

variable {schema : Schema} {typeName : String} {nullable : Bool}

theorem hasLeaf_named_iff {definition : TypeDefinition}
    (found : schema.type? typeName = some definition) :
    schema.HasLeaf (.named typeName nullable) ↔ definition.isLeaf = true := by
  constructor
  · rintro ⟨_, _, other, same, found', leaf⟩
    cases same
    cases found.symm.trans found'
    exact leaf
  · exact fun leaf => ⟨_, _, _, rfl, found, leaf⟩

theorem objectType?_eq_some {value : SettledValue} {object : TypeDefinition}
    (h : Completion.objectType? schema typeName value = some object) :
    schema.type? object.name = some object ∧ schema.isPossible typeName object.name = true ∧
      object.IsObject := by
  obtain ⟨found, kind⟩ := Option.filter_eq_some_iff.mp h
  obtain ⟨name, said, found⟩ := Option.bind_eq_some_iff.mp found
  obtain ⟨-, possible⟩ := Option.filter_eq_some_iff.mp said
  rw [name_of_type? found]
  refine ⟨found, possible, ?_⟩
  split at kind
  · rename_i interfaces fields shown
    exact ⟨interfaces, fields, shown⟩
  · cases kind

theorem takes_namedShape (fieldName : String) {resolved : Resolved} {value : SettledValue}
    (settled : resolved.settle = .ok value) :
    schema.Takes (.named typeName nullable) resolved
      (schema.namedShape fieldName typeName value) := by
  have data : resolved.data? = value.data? := by
    rw [Resolved.data?, settled]
    rfl
  unfold namedShape
  rw [← data]
  cases defined : schema.type? typeName with
  | none =>
    refine .failure ?_
    rintro ⟨_, _, definition, same, found, -⟩
    cases same
    cases defined.symm.trans found
  | some definition =>
    have leaf : schema.HasLeaf (.named typeName nullable) ↔ definition.isLeaf = true :=
      hasLeaf_named_iff defined
    have named := name_of_type? defined
    -- of an interface or a union the value must say which object type it is of
    have abstract : definition.isLeaf = false → schema.Takes (.named typeName nullable) resolved
        (match Completion.objectType? schema typeName value with
          | some concrete => .object concrete (resolved.data?.getD .null)
          | none => .failure (.unknownObjectType fieldName typeName)) := by
      intro composite
      have composite : ¬ schema.HasLeaf (.named typeName nullable) := by simp [leaf, composite]
      cases concrete : Completion.objectType? schema typeName value with
      | none => exact .failure fun leaf => absurd leaf composite
      | some object =>
        obtain ⟨known, possible, kind⟩ := objectType?_eq_some concrete
        exact .object composite known possible kind rfl
    obtain ⟨name, kind⟩ := definition
    cases named
    cases kind with
    | scalar =>
      cases found : resolved.data? with
      | none => exact .failure fun _ => found
      | some data => exact .leaf (leaf.mpr rfl) found
    | enum values =>
      cases found : resolved.data? with
      | none => exact .failure fun _ => found
      | some data => exact .leaf (leaf.mpr rfl) found
    | object interfaces fields =>
      cases found : resolved.data? with
      | none => exact .failure fun _ => found
      | some data =>
        have composite : ¬ schema.HasLeaf (.named name nullable) := fun h => by cases leaf.mp h
        exact .object composite defined (schema.isPossible_self name) ⟨interfaces, fields, rfl⟩
          (by rw [found]; rfl)
    | interface interfaces fields => exact abstract rfl
    | union members => exact abstract rfl
    | input arguments => exact .failure fun h => by cases leaf.mp h

/-- The shape of a value is decided as it should be. -/
theorem takes_shape (schema : Schema) (fieldName : String) (type : TypeRef) (resolved : Resolved) :
    schema.Takes type resolved (schema.shape fieldName type resolved) := by
  unfold shape
  cases settled : resolved.settle with
  | error error =>
    refine .failure fun _ => ?_
    rw [Resolved.data?, settled]
    rfl
  | ok value =>
    simp only [settledShape]
    cases plain : value.isNull with
    | true =>
      rw [if_pos rfl]
      refine .null ?_
      cases value with
      | json data => rw [settled, Json.isNull_iff.mp plain]
      | typed typeName data => cases plain
      | list items => cases plain
    | false =>
      rw [if_neg Bool.false_ne_true]
      cases type with
      | named typeName nullable => exact takes_namedShape fieldName settled
      | list itemType nullable =>
        cases listed : value.items? with
        | none => exact .failure fun ⟨_, _, _, same, _⟩ => by cases same
        | some items =>
          refine .list ?_
          rw [Resolved.items?, settled]
          exact listed

/-- A type is expected of items only within a list type. -/
theorem eq_list_of_shape {schema : Schema} {fieldName : String} {type itemType : TypeRef}
    {resolved : Resolved} {items : List FieldValue}
    (h : schema.shape fieldName type resolved = .list itemType items) :
    ∃ nullable, type = .list itemType nullable := by
  have taken := schema.takes_shape fieldName type resolved
  rw [h] at taken
  cases taken with
  | list => exact ⟨_, rfl⟩

end Schema

end WebhookPayload
