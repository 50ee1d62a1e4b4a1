import WebhookPayload.Proofs.Positions
import WebhookPayload.Proofs.Shop

/-! # Executed data conform to the schema

`Engine.Conforms` says which JSON may stand for a field of a type whose value was
resolved: nothing in it depends on how positions are completed, on errors or on
contexts. Whatever completion gives conforms, and so does the data of a response. -/

namespace WebhookPayload

open GraphQL

namespace Engine

/-- A value that the field of an object can be resolved to. -/
def Answers (engine : Engine) (object : TypeDefinition) (parent : Json) (field : SelectedField)
    (resolved : Resolved) : Prop :=
  ∃ context, ((engine.resolvers.fieldResolver object.name field.name parent field).run
    context).answer = resolved

mutual

/-- The JSON values that may stand for a field of the given type and resolved value. -/
inductive Conforms (engine : Engine) : SelectedField → TypeRef → Resolved → Json → Prop
  | null {field : SelectedField} {type : TypeRef} {resolved : Resolved}
      (composite : ¬ engine.schema.HasLeaf type) (nullable : type.nullable = true) :
      Conforms engine field type resolved .null
  /-- The data of a leaf are unchanged; null stands for data that are missing. -/
  | leaf {field : SelectedField} {type : TypeRef} {resolved : Resolved} {json : Json}
      (leaf : engine.schema.HasLeaf type) (kept : json = resolved.data?.getD .null)
      (allowed : json = .null → type.nullable = true) : Conforms engine field type resolved json
  | list {field : SelectedField} {itemType : TypeRef} {nullable : Bool} {resolved : Resolved}
      {items : List FieldValue} {values : List Json} (listed : resolved.items? = some items)
      (length : values.length = items.length)
      (each : ∀ item value, (item, value) ∈ items.zip values →
        Conforms engine field itemType (.ok item) value) :
      Conforms engine field (.list itemType nullable) resolved (.array values)
  | object {field : SelectedField} {typeName : String} {nullable : Bool} {resolved : Resolved}
      {object : TypeDefinition} {members : Members}
      (composite : ¬ engine.schema.HasLeaf (.named typeName nullable))
      (defined : engine.schema.type? object.name = some object)
      (possible : engine.schema.isPossible typeName object.name = true) (kind : object.IsObject)
      (keys : members.keys = outputNames (applicable engine.schema object.name field.subfields))
      (each : ∀ name value sub, (name, value) ∈ members →
        mergedField? name (applicable engine.schema object.name field.subfields) = some sub →
        MemberConforms engine object (resolved.data?.getD .null) sub value) :
      Conforms engine field (.named typeName nullable) resolved (.object members)

/-- The JSON values that may stand for a field of an object. -/
inductive MemberConforms (engine : Engine) :
    TypeDefinition → Json → SelectedField → Json → Prop
  | typename {object : TypeDefinition} {parent : Json} {field : SelectedField}
      (name : field.name = typenameField) :
      MemberConforms engine object parent field (.string object.name)
  | undeclared {object : TypeDefinition} {parent : Json} {field : SelectedField}
      (name : field.name ≠ typenameField) (missing : object.field? field.name = none) :
      MemberConforms engine object parent field .null
  | declared {object : TypeDefinition} {parent : Json} {field : SelectedField}
      {definition : FieldDefinition} {resolved : Resolved} {json : Json}
      (name : field.name ≠ typenameField) (found : object.field? field.name = some definition)
      (answered : engine.Answers object parent field resolved)
      (conforms : Conforms engine field definition.type resolved json) :
      MemberConforms engine object parent field json

end

/-- Every member of an object that conforms is there for a field, so none of them escapes
the condition on members. -/
theorem Conforms.member {engine : Engine} {field : SelectedField} {type : TypeRef}
    {resolved : Resolved} {members : Members} (composite : ¬ engine.schema.HasLeaf type)
    (h : engine.Conforms field type resolved (.object members)) {name : String} {value : Json}
    (entry : (name, value) ∈ members) :
    ∃ object sub, engine.schema.type? object.name = some object ∧
      mergedField? name (applicable engine.schema object.name field.subfields) = some sub ∧
      engine.MemberConforms object (resolved.data?.getD .null) sub value := by
  cases h with
  | leaf leaf => exact absurd leaf composite
  | @object _ _ _ _ object _ _ defined _ _ keys each =>
    have key : name ∈ members.keys := List.mem_map_of_mem entry
    rw [keys] at key
    obtain ⟨sub, merged⟩ := exists_mergedField? key
    exact ⟨object, sub, defined, merged, each name value sub entry merged⟩

/-- What conforms at a position. -/
def ConformsAt (engine : Engine) (place : Place) (json : Json) : Prop :=
  match place.content with
  | .typename object => json = .string object
  | .undeclared _ => json = .null
  | .declared type resolved => engine.Conforms place.field type resolved json

variable {engine : Engine}

/-- What conforms at the position of a member conforms as that member. -/
theorem ConformsAt.member {object : TypeDefinition} {parent : Json} {path : Path}
    {field : SelectedField} {context : Context} {json : Json}
    (h : engine.ConformsAt (engine.member object parent path field context) json) :
    engine.MemberConforms object parent field json := by
  unfold ConformsAt Engine.member content at h
  by_cases typename : field.name = typenameField
  · rw [if_pos typename] at h
    cases h
    exact .typename typename
  · rw [if_neg typename] at h
    cases declared : object.field? field.name with
    | none =>
      rw [declared] at h
      cases h
      exact .undeclared typename declared
    | some definition =>
      rw [declared] at h
      exact .declared typename declared ⟨context, rfl⟩ h

/-- A null where the type allows it, and what is resolved has no other data. -/
theorem Conforms.of_nullable {field : SelectedField} {type : TypeRef} {resolved : Resolved}
    (nullable : type.nullable = true)
    (lacking : engine.schema.HasLeaf type → resolved.data?.getD .null = .null) :
    engine.Conforms field type resolved .null := by
  by_cases leaf : engine.schema.HasLeaf type
  · exact .leaf leaf (lacking leaf).symm fun _ => nullable
  · exact .null leaf nullable

/-- What is built of a resolved value conforms, if what is completed below it does. -/
theorem conforms_of_built {place : Place} {type : TypeRef} {resolved : Resolved} {shape : Shape}
    (taken : engine.schema.Takes type resolved shape)
    (below : ∀ part ∈ engine.parts place.field place.path place.context shape, ∀ json,
      (engine.complete part.2).value? = some json → engine.ConformsAt part.2 json)
    {json : Json}
    (built : (engine.build place.field place.path shape place.context).value? = some json)
    (allowed : json = .null → type.nullable = true) :
    engine.Conforms place.field type resolved json := by
  cases taken with
  | failure => cases built
  | null plain =>
    cases built
    refine .of_nullable (allowed rfl) fun _ => ?_
    rw [Resolved.data?, plain]
    rfl
  | leaf leaf kept =>
    cases built
    exact .leaf leaf (by rw [kept]; rfl) allowed
  | @list itemType nullable resolved items listed =>
    rw [build, Exec.value?_map] at built
    obtain ⟨values, found, rfl⟩ := Option.map_eq_some_iff.mp built
    have length : values.length = items.length := by
      have unit := Exec.map_values (g := fun _ => ()) (k := fun _ => ()) (fun _ _ _ _ => rfl) found
      simpa using congrArg List.length unit
    refine .list listed length fun element value paired => ?_
    obtain ⟨i, paired⟩ := List.mem_iff_getElem?.mp paired
    obtain ⟨present, held⟩ := List.getElem?_zip_eq_some.mp paired
    obtain ⟨turn, met, out⟩ := Exec.turn_of_value found held
    obtain ⟨same, -⟩ := item_of_turn found met
    cases present.symm.trans same
    exact below _ (List.mem_map_of_mem (List.mem_of_getElem? met)) value out
  | @object typeName nullable resolved object parent composite defined possible kind same =>
    rw [build, Exec.value?_map] at built
    obtain ⟨members, found, rfl⟩ := Option.map_eq_some_iff.mp built
    refine .object composite defined possible kind (keys_of_value? found) ?_
    intro name value sub entry merged
    obtain ⟨turn, met, rfl, out⟩ := turn_of_member found entry
    -- what is answered under a name is what its selections are merged to
    have collected := (Exec.turns_initial (engine.answerField object parent place.path)
      (collectFields engine.schema object.name place.field.subfields) place.context).subset
        (List.mem_map_of_mem met)
    cases merged.symm.trans (mergedField?_of_mem collected)
    rw [same]
    exact (below _ (List.mem_map_of_mem met) value out).member

/-- Nothing is built for a leaf only if there are no data. -/
theorem data?_of_missing {field : SelectedField} {path : Path} {context : Context}
    {type : TypeRef} {resolved : Resolved} {shape : Shape}
    (taken : engine.schema.Takes type resolved shape) (leaf : engine.schema.HasLeaf type)
    (missing : (engine.build field path shape context).value? = none) : resolved.data? = none := by
  cases taken with
  | failure lacking => exact lacking leaf
  | null => cases missing
  | leaf => cases missing
  | list =>
    obtain ⟨_, _, _, same, -⟩ := leaf
    cases same
  | object composite => exact absurd leaf composite

/-- Whatever is completed at a position conforms there. -/
theorem conformsAt (engine : Engine) (place : Place) :
    ∀ json, (engine.complete place).value? = some json → engine.ConformsAt place json := by
  induction place using engine.place_induction with
  | step place below =>
    intro json h
    unfold ConformsAt
    unfold complete at h
    unfold partsOf at below
    cases shown : place.content with
    | typename object =>
      rw [shown] at h
      cases h
      rfl
    | undeclared object =>
      rw [shown] at h
      cases h
      rfl
    | declared type resolved =>
      rw [shown] at h below
      have taken := engine.schema.takes_shape place.field.name type resolved
      rcases value?_completeField_eq_some.mp h with ⟨built, allowed⟩ | ⟨missing, nullable, rfl⟩
      · exact conforms_of_built taken below built allowed
      · refine .of_nullable nullable fun leaf => ?_
        rw [data?_of_missing taken leaf missing]
        rfl

/-- Completion gives JSON that conforms to the schema and to what is selected: at
every type, and hence in the only entry of a response that has data. -/
theorem executed_conforms (engine : Engine) :
    (∀ type field path resolved context json,
        (engine.completeField type field path resolved context).value? = some json →
        engine.Conforms field type resolved json) ∧
      ∀ subscription event context response,
        (engine.execute subscription event context).result = .ok (some response) →
        response.data? = none ∨
          ∃ object definition place resolved json,
            engine.schema.subscriptionType? = some object ∧
            object.field? subscription.field.name = some definition ∧
            engine.root? subscription event context = some place ∧
            place.content = .declared definition.type resolved ∧
            response.data? = some [(subscription.field.outputName, json)] ∧
            engine.Conforms subscription.field definition.type resolved json := by
  constructor
  · intro type field path resolved context json h
    exact engine.conformsAt { field, path, content := .declared type resolved, context } json h
  · intro subscription event context response h
    obtain ⟨place, rooted, data, -⟩ := execute_eq_ok h
    cases out : (engine.complete place).value? with
    | none =>
      rw [out] at data
      exact .inl data
    | some json =>
      rw [out] at data
      have conforms := engine.conformsAt place json out
      obtain ⟨object, definition, resolved, root, declared, field, -, content⟩ :=
        root?_eq_some rooted
      unfold ConformsAt at conforms
      rw [content, field] at conforms
      exact .inr ⟨object, definition, place, resolved, json, root, declared, rooted, content, data,
        conforms⟩

end Engine

theorem executed_conforms_on_created :
    (Shop.engine.completeField (.list (.named "Line" true) true) Shop.linesField []
        (.ok (.json Shop.lines)) Shop.context).value? = some Shop.deliveredLines ∧
      Shop.engine.Conforms Shop.linesField (.list (.named "Line" true) true)
        (.ok (.json Shop.lines)) Shop.deliveredLines ∧
      (Shop.engine.execute Shop.subscription Shop.created Shop.context).result =
        .ok (some Shop.response) ∧
      ∃ object definition place resolved json,
        Shop.schema.subscriptionType? = some object ∧
        object.field? "event" = some definition ∧
        Shop.engine.root? Shop.subscription Shop.created Shop.context = some place ∧
        place.content = .declared definition.type resolved ∧
        Shop.response.data? = some [("event", json)] ∧
        Shop.engine.Conforms Shop.subscription.field definition.type resolved json := by
  have lines : (Shop.engine.completeField (.list (.named "Line" true) true) Shop.linesField []
      (.ok (.json Shop.lines)) Shop.context).value? = some Shop.deliveredLines := by cbv
  have executed : (Shop.engine.execute Shop.subscription Shop.created Shop.context).result =
      .ok (some Shop.response) := by cbv
  obtain ⟨completed, delivered⟩ := Shop.engine.executed_conforms
  refine ⟨lines, completed _ _ _ _ _ _ lines, executed, ?_⟩
  rcases delivered _ _ _ _ executed with missing | found
  · cases missing
  · exact found

end WebhookPayload
