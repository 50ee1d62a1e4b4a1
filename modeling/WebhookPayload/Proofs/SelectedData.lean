import Mathlib.Data.List.Forall2
import WebhookPayload.Proofs.Noninterference
import WebhookPayload.Proofs.Progress

/-! # Only selected data is told

Without resolvers of its own a schema is answered from the properties of the event.
Values agree for a field if they are the same as far as the field and the fields
below it look (`SelectedField.Agree`). Agreement is kept when fields are merged
(`Agree.merged`) and on the way down to properties and items, and it decides what
becomes of a value (`completeField_eq_of_agree`). So the payloads for two events
that agree do not differ, whatever else the events hold. -/

namespace WebhookPayload

open GraphQL

namespace Json

def elements? : Json → Option (List Json)
  | array items => some items
  | _ => none

/-- The object type that the value says it is of. -/
def typeName? (json : Json) : Option String := (json.property? typenameField).bind asString?

/-- The property of the name, or null. -/
def propertyOrNull (json : Json) (name : String) : Json := (json.property? name).getD .null

theorem sizeOf_lt_of_elements? {json item : Json} {items : List Json}
    (listed : json.elements? = some items) (member : item ∈ items) : sizeOf item < sizeOf json := by
  cases json with
  | array elements =>
    cases listed
    have inside := List.sizeOf_lt_of_mem member
    simp only [Json.array.sizeOf_spec]
    omega
  | _ => cases listed

end Json

/-! ## Agreement -/

namespace SelectedField

/-- Two values are the same as far as a field looks. Without subfields it looks at
all of a value. With subfields it looks at whether there is a value, at the items
of a list, at the type, and at the properties that the subfields are named for. -/
inductive Agree : SelectedField → Json → Json → Prop
  | whole {field} (bare : field.subfields = []) (value : Json) : Agree field value value
  | parts {field value other} (selective : field.subfields ≠ [])
      (null : value.isNull = other.isNull)
      (length : value.elements?.map List.length = other.elements?.map List.length)
      (items : ∀ items others, value.elements? = some items → other.elements? = some others →
        ∀ pair ∈ items.zip others, Agree field pair.1 pair.2)
      (type : value.typeName? = other.typeName?)
      (below : ∀ sub ∈ field.subfields,
        Agree sub (value.propertyOrNull sub.name) (other.propertyOrNull sub.name)) :
      Agree field value other

/-- The properties that fields are named for agree. -/
def AgreeBelow (fields : List SelectedField) (value other : Json) : Prop :=
  ∀ sub ∈ fields, sub.Agree (value.propertyOrNull sub.name) (other.propertyOrNull sub.name)

/-- By induction on the field for properties, and on the value for items. -/
theorem Agree.refl (field : SelectedField) (value : Json) : field.Agree value value := by
  by_cases bare : field.subfields = []
  · exact .whole bare value
  · refine .parts bare rfl rfl ?items rfl ?below
    case items =>
      intro items others listed listed' pair member
      cases listed.symm.trans listed'
      obtain ⟨i, found⟩ := List.mem_iff_getElem?.mp member
      have both := List.getElem?_zip_eq_some.mp found
      have same : pair.1 = pair.2 := Option.some.inj (both.1.symm.trans both.2)
      have smaller := Json.sizeOf_lt_of_elements? listed (List.mem_of_getElem? both.1)
      rw [← same]
      exact Agree.refl field pair.1
    case below =>
      intro sub selected
      exact Agree.refl sub _
termination_by (field.height, sizeOf value)
decreasing_by
  · exact .right _ smaller
  · refine .left _ _ ?_
    have inside := height_le_heights selected
    have own := field.height_eq
    omega

/-- Values that agree for several fields agree for the field that they are merged to. -/
theorem Agree.merged {field : SelectedField} {fields : List SelectedField} (some : fields ≠ [])
    (all : field.subfields = fields.flatMap subfields) {value other : Json}
    (agree : ∀ each ∈ fields, each.Agree value other) : field.Agree value other := by
  by_cases same : value = other
  · rw [same]
    exact .refl field other
  · -- then none of the fields looks at all of the value
    obtain ⟨first, member⟩ := List.exists_mem_of_ne_nil fields some
    cases agree first member with
    | whole => exact absurd rfl same
    | parts selective null length _ type _ =>
      refine .parts ?selective null length ?items type ?below
      case selective =>
        intro bare
        rw [bare] at all
        exact selective (List.flatMap_eq_nil_iff.mp all.symm first member)
      case items =>
        intro items others listed listed' pair among
        have smaller := Json.sizeOf_lt_of_elements? listed (List.of_mem_zip among).1
        refine Agree.merged some all fun each member => ?_
        cases agree each member with
        | whole => exact absurd rfl same
        | parts _ _ _ items => exact items _ _ listed listed' pair among
      case below =>
        intro sub selected
        rw [all] at selected
        obtain ⟨each, member, selected⟩ := List.mem_flatMap.mp selected
        cases agree each member with
        | whole => exact absurd rfl same
        | parts _ _ _ _ _ below => exact below sub selected
termination_by sizeOf value

end SelectedField

/-! ## Fields that stand for one name -/

namespace Schema

/-- An object type that may stand where a type is expected. -/
structure Admits (schema : Schema) (typeName : String) (object : TypeDefinition) : Prop where
  defined : schema.type? object.name = some object
  isObject : object.IsObject
  possible : schema.isPossible typeName object.name = true

/-- On no object that may stand where a type is expected are fields of different
names merged, and neither are they on the objects further below. -/
inductive Unambiguous (schema : Schema) : String → List SelectedField → Prop
  | intro {typeName fields}
      (alike : ∀ object, schema.Admits typeName object → NamesAgree schema object.name fields)
      (below : ∀ object field definition, schema.Admits typeName object →
        field ∈ collectFields schema object.name fields →
        object.field? field.name = some definition →
          Unambiguous schema definition.type.underlying field.subfields) :
      Unambiguous schema typeName fields

/-- Without aliases there is nothing of different names to merge. -/
theorem unambiguous_of_arePlain {schema : Schema} (typeName : String) {fields : List SelectedField}
    (plain : SelectedField.arePlain fields = true) : schema.Unambiguous typeName fields := by
  refine .intro ?alike ?below
  case alike =>
    intro object _
    exact SelectedField.namesAgree_of_arePlain plain
  case below =>
    intro object field definition _ collected _
    have own := SelectedField.isPlain_of_mem_collectFields plain collected
    exact unambiguous_of_arePlain _ (SelectedField.isPlain_iff.mp own).2
termination_by SelectedField.heights fields
decreasing_by exact SelectedField.heights_subfields_lt collected

/-- A field, selected where a type is expected, that selects nothing below the
values of leaf types. -/
inductive LeavesWhole (schema : Schema) : String → SelectedField → Prop
  | typename {typeName field} (named : field.name = typenameField) :
      LeavesWhole schema typeName field
  | declared {typeName field}
      (leaf : ∀ object definition type, schema.Meets typeName field object →
        object.field? field.name = some definition →
        schema.type? definition.type.underlying = some type → type.isLeaf = true →
          field.subfields = [])
      (below : ∀ object definition, schema.Meets typeName field object →
        object.field? field.name = some definition →
          ∀ sub ∈ field.subfields, LeavesWhole schema definition.type.underlying sub) :
      LeavesWhole schema typeName field

end Schema

/-- Validation sees to it that nothing is selected below leaves. -/
theorem Inlines.leavesWhole {scope : Scope} (consistent : scope.schema.Consistent)
    {container : TypeDefinition} {conditions active : List String} {selections : List Selection}
    {fields : List SelectedField} (h : Inlines scope container conditions active selections fields)
    (known : scope.schema.type? container.name = some container) {typeName : String}
    (implied : scope.Implies typeName conditions container) :
    ∀ field ∈ fields, scope.schema.LeavesWhole typeName field := by
  refine h.forall_fields consistent (fun _ _ => .typename) ?_ known implied
  intro typeName field definition type _ own defined bare below
  refine .declared ?leaf ?below
  case leaf =>
    intro object answer type' meets found defined' leaf
    rw [Schema.type_eq_of_own own meets found, defined] at defined'
    cases defined'
    exact bare leaf
  case below =>
    intro object answer meets found
    rw [Schema.type_eq_of_own own meets found]
    exact below

section Collected

variable {schema : Schema} {typeName : String} {object : TypeDefinition}
  {fields : List SelectedField} {field : SelectedField}

theorem SelectedField.Agree.collected (agree : NamesAgree schema typeName fields)
    (collected : field ∈ collectFields schema typeName fields) {value other : Json}
    (below : AgreeBelow fields value other) :
    field.Agree (value.propertyOrNull field.name) (other.propertyOrNull field.name) := by
  obtain ⟨merged, some, all, each⟩ := exists_merged agree collected
  refine .merged some all fun one member => ?_
  obtain ⟨selected, -, named⟩ := each one member
  rw [← named]
  exact below one selected

/-- What is selected below a collected field, on an object that declares it. -/
theorem Schema.LeavesWhole.collected (admits : schema.Admits typeName object)
    (whole : ∀ sub ∈ fields, schema.LeavesWhole typeName sub)
    (agree : NamesAgree schema object.name fields)
    (collected : field ∈ collectFields schema object.name fields)
    (named : field.name ≠ typenameField) {definition : FieldDefinition}
    (declared : object.field? field.name = some definition) :
    (∀ type, schema.type? definition.type.underlying = some type → type.isLeaf = true →
      field.subfields = []) ∧
      ∀ sub ∈ field.subfields, schema.LeavesWhole definition.type.underlying sub := by
  obtain ⟨merged, -, all, each⟩ := exists_merged agree collected
  have single : ∀ one ∈ merged,
      (∀ type, schema.type? definition.type.underlying = some type → type.isLeaf = true →
        one.subfields = []) ∧
        ∀ sub ∈ one.subfields, schema.LeavesWhole definition.type.underlying sub := by
    intro one member
    obtain ⟨selected, applies, same⟩ := each one member
    have meets : schema.Meets typeName one object := ⟨admits.defined, admits.possible, applies⟩
    rw [← same] at named declared
    cases whole one selected with
    | typename typename => exact absurd typename named
    | declared leaf below =>
      exact ⟨fun type => leaf object definition type meets declared,
        below object definition meets declared⟩
  rw [all]
  constructor
  · intro type defined leaf
    exact List.flatMap_eq_nil_iff.mpr fun one member => (single one member).1 type defined leaf
  · intro sub selected
    obtain ⟨one, member, selected⟩ := List.mem_flatMap.mp selected
    exact (single one member).2 sub selected

end Collected

/-! ## Completion -/

theorem Schema.shape_of_settle {schema : Schema} {resolved : Resolved} {value : SettledValue}
    (h : resolved.settle = .ok value) (fieldName : String) (type : TypeRef) :
    schema.shape fieldName type resolved = schema.settledShape fieldName type value := by
  rw [shape, h]

theorem Schema.settledShape_of_isNull {schema : Schema} {value : SettledValue}
    (h : value.isNull = true) (fieldName : String) (type : TypeRef) :
    schema.settledShape fieldName type value = .leaf .null := by
  unfold settledShape
  rw [if_pos h]

theorem Schema.settledShape_named {schema : Schema} {value : SettledValue}
    (h : value.isNull = false) (fieldName typeName : String) (nullable : Bool) :
    schema.settledShape fieldName (.named typeName nullable) value =
      schema.namedShape fieldName typeName value := by
  rw [settledShape, h]
  rfl

/-- Where a list is expected, what counts is whether there are items. -/
theorem Schema.settledShape_list {schema : Schema} {value : SettledValue}
    (h : value.isNull = false) (fieldName : String) (itemType : TypeRef) (nullable : Bool) :
    schema.settledShape fieldName (.list itemType nullable) value =
      (value.items?.map (Shape.list itemType)).getD (.failure (.listExpected fieldName)) := by
  rw [settledShape, h]
  cases value.items? <;> simp

theorem SettledValue.items?_json (value : Json) :
    (SettledValue.json value).items? = value.elements?.map (List.map FieldValue.json) := by
  cases value <;> rfl

/-- Two values that say that they are of the same object type are taken alike
where no leaf is expected: both fail, or both are taken for objects of one type. -/
theorem Schema.namedShape_of_typeName? {schema : Schema} (fieldName : String) {typeName : String}
    (composite : ∀ type, schema.type? typeName = some type → type.isLeaf = false)
    {value other : SettledValue} {data data' : Json} (held : value.data? = some data)
    (held' : other.data? = some data') (same : value.typeName? = other.typeName?) :
    (∃ cause, schema.namedShape fieldName typeName value = .failure cause ∧
        schema.namedShape fieldName typeName other = .failure cause) ∨
      ∃ object, schema.Admits typeName object ∧
        schema.namedShape fieldName typeName value = .object object data ∧
        schema.namedShape fieldName typeName other = .object object data' := by
  have concrete : Completion.objectType? schema typeName value =
      Completion.objectType? schema typeName other := by
    rw [Completion.objectType?, Completion.objectType?, same]
  unfold namedShape
  rw [held, held', concrete]
  cases defined : schema.type? typeName with
  | none => exact .inl ⟨_, rfl, rfl⟩
  | some type =>
    have notLeaf := composite type defined
    have named := name_of_type? defined
    obtain ⟨name, kind⟩ := type
    cases named
    cases kind with
    | scalar | enum => cases notLeaf
    | input => exact .inl ⟨_, rfl, rfl⟩
    | object interfaces fields =>
      have admits : schema.Admits name { name, kind := .object interfaces fields } :=
        ⟨defined, ⟨interfaces, fields, rfl⟩, schema.isPossible_self name⟩
      exact .inr ⟨_, admits, rfl, rfl⟩
    | interface | union =>
      cases found : Completion.objectType? schema name other with
      | none => exact .inl ⟨_, rfl, rfl⟩
      | some object =>
        obtain ⟨known, possible, isObject⟩ := objectType?_eq_some found
        exact .inr ⟨object, ⟨known, isObject, possible⟩, rfl, rfl⟩

namespace Engine

variable {engine : Engine} {schema : Schema} {typeName : String} {field : SelectedField}
  {type : TypeRef} {value other : Json}

/-- Objects of a type are answered alike, for whatever agrees below. -/
def AnswersByAgreement (engine : Engine) (typeName : String) (fields : List SelectedField) : Prop :=
  ∀ object, engine.schema.Admits typeName object →
    ∀ value other, SelectedField.AgreeBelow fields value other →
      ∀ path, engine.answerFields fields object value path =
        engine.answerFields fields object other path

/-- Completion goes by what is waited for and by what is built. -/
theorem completeField_congr {path : Path} {resolved resolved' : Resolved}
    (tags : resolved.pendingTags = resolved'.pendingTags)
    (built : engine.build field path (engine.schema.shape field.name type resolved) =
      engine.build field path (engine.schema.shape field.name type resolved')) :
    engine.completeField type field path resolved =
      engine.completeField type field path resolved' := by
  rw [completeField_eq, completeField_eq, tags, built]

/-- Items of two lists are completed alike, each with the one at its place. -/
def CompletesItemsAlike (engine : Engine) (itemType : TypeRef) (field : SelectedField)
    (items others : List FieldValue) : Prop :=
  List.Forall₂ (fun item other => ∀ path, engine.completeField itemType field path (.ok item) =
    engine.completeField itemType field path (.ok other)) items others

theorem CompletesItemsAlike.traverse_eq {items others : List FieldValue}
    (h : engine.CompletesItemsAlike type field items others) (path : Path) :
    Exec.traverse (engine.completeItem field path type) items.zipIdx =
      Exec.traverse (engine.completeItem field path type) others.zipIdx := by
  refine Exec.traverse_congr ((forall₂_zipIdx h 0).imp fun item other ⟨same, index⟩ => ?_)
  rw [completeItem, completeItem, index]
  exact same _

/-- What is built of values that say that they are of the same object type. -/
theorem build_namedShape_eq (members : engine.AnswersByAgreement typeName field.subfields)
    (composite : ∀ type, engine.schema.type? typeName = some type → type.isLeaf = false)
    {settled settled' : SettledValue} (held : settled.data? = some value)
    (held' : settled'.data? = some other) (same : settled.typeName? = settled'.typeName?)
    (below : SelectedField.AgreeBelow field.subfields value other) (path : Path) :
    engine.build field path (engine.schema.namedShape field.name typeName settled) =
      engine.build field path (engine.schema.namedShape field.name typeName settled') := by
  rcases Schema.namedShape_of_typeName? field.name composite held held' same with
    ⟨cause, failed, failed'⟩ | ⟨object, admits, taken, taken'⟩
  · rw [failed, failed']
  · rw [taken, taken', build, build, members object admits value other below path]

/-- Two plain values of which both or neither is null are completed alike if this is
so of values other than null. -/
theorem completeField_json_congr {path : Path} (null : value.isNull = other.isNull)
    (present : (SettledValue.json value).isNull = false →
      (SettledValue.json other).isNull = false →
      engine.build field path (engine.schema.settledShape field.name type (.json value)) =
        engine.build field path (engine.schema.settledShape field.name type (.json other))) :
    engine.completeField type field path (.ok (.json value)) =
      engine.completeField type field path (.ok (.json other)) := by
  refine completeField_congr rfl ?_
  rw [Schema.shape_of_settle rfl, Schema.shape_of_settle rfl]
  have null : (SettledValue.json value).isNull = (SettledValue.json other).isNull := null
  cases empty : (SettledValue.json value).isNull with
  | true =>
    rw [Schema.settledShape_of_isNull empty, Schema.settledShape_of_isNull (null.symm.trans empty)]
  | false => exact present empty (null.symm.trans empty)

/-- By induction on the type, whose lists are inside each other. -/
theorem completeField_eq_of_agree
    (members : engine.AnswersByAgreement type.underlying field.subfields)
    (leaf : ∀ definition, engine.schema.type? type.underlying = some definition →
      definition.isLeaf = true → field.subfields = [])
    (agree : field.Agree value other) (path : Path) :
    engine.completeField type field path (.ok (.json value)) =
      engine.completeField type field path (.ok (.json other)) := by
  induction type generalizing value other path with
  | named typeName nullable =>
    cases agree with
    | whole => rfl
    | parts selective null _ _ same below =>
      have composite : ∀ definition, engine.schema.type? typeName = some definition →
          definition.isLeaf = false := by
        intro definition defined
        exact Bool.eq_false_iff.mpr fun isLeaf => selective (leaf definition defined isLeaf)
      have same : (SettledValue.json value).typeName? = (SettledValue.json other).typeName? := same
      refine completeField_json_congr null fun present present' => ?_
      rw [Schema.settledShape_named present, Schema.settledShape_named present']
      exact build_namedShape_eq members composite rfl rfl same below path
  | list itemType nullable ih =>
    cases agree with
    | whole => rfl
    | parts selective null length items _ _ =>
      refine completeField_json_congr null fun present present' => ?_
      rw [Schema.settledShape_list present, Schema.settledShape_list present',
        SettledValue.items?_json, SettledValue.items?_json]
      cases listed : value.elements? with
      | none =>
        rw [listed, Option.map_none] at length
        rw [Option.map_eq_none_iff.mp length.symm]
      | some elements =>
        rw [listed, Option.map_some] at length
        obtain ⟨others, listed', length⟩ := Option.map_eq_some_iff.mp length.symm
        have pairs : List.Forall₂ field.Agree elements others :=
          List.forall₂_iff_zip.mpr ⟨length.symm, items elements others listed listed' _⟩
        have values : engine.CompletesItemsAlike itemType field
            (elements.map FieldValue.json) (others.map FieldValue.json) := by
          rw [CompletesItemsAlike, List.forall₂_map_left_iff, List.forall₂_map_right_iff]
          exact pairs.imp fun _ _ agree => ih members leaf agree
        simp only [listed', Option.map_some, Option.getD_some, build]
        rw [values.traverse_eq path]

/-! ## Answers from the properties -/

/-- Without a resolver a declared field is completed from the property of its name. -/
theorem fieldValue_empty (schema : Schema) {object : TypeDefinition} {definition : FieldDefinition}
    (named : field.name ≠ typenameField) (declared : object.field? field.name = some definition)
    (parent : Json) (path : Path) :
    (Engine.mk schema .empty).fieldValue
        ((Engine.mk schema .empty).answerFields field.subfields) object parent path field =
      (Exec.note [.fieldResolved path object.name field.name]).bind fun _ =>
        (Engine.mk schema .empty).completeField definition.type field path
          (.ok (.json (parent.propertyOrNull field.name))) := by
  unfold fieldValue
  rw [if_neg named, declared]
  rfl

/-- Objects are answered by what is selected: by induction on the selected fields,
as they are merged on the way down. -/
theorem answersByAgreement {fields : List SelectedField}
    (unambiguous : schema.Unambiguous typeName fields)
    (whole : ∀ sub ∈ fields, schema.LeavesWhole typeName sub) :
    (Engine.mk schema .empty).AnswersByAgreement typeName fields := by
  induction unambiguous with
  | @intro typeName fields alike below ih =>
    intro object admits value other agree path
    have alike := alike object admits
    rw [answerFields_eq, answerFields_eq]
    refine Exec.traverse_congr (List.forall₂_same.mpr fun field collected => ?_)
    unfold answerField
    have same : (Engine.mk schema .empty).fieldValue
          ((Engine.mk schema .empty).answerFields field.subfields) object value
            (path ++ [.field field.outputName]) field =
        (Engine.mk schema .empty).fieldValue
          ((Engine.mk schema .empty).answerFields field.subfields) object other
            (path ++ [.field field.outputName]) field := by
      by_cases typename : field.name = typenameField
      · rw [fieldValue, fieldValue, if_pos typename, if_pos typename]
      · cases declared : object.field? field.name with
        | none => rw [fieldValue, fieldValue, declared]
        | some definition =>
          obtain ⟨leaf, whole⟩ := Schema.LeavesWhole.collected admits whole alike collected
            typename declared
          have members := ih object field definition admits collected declared whole
          have agrees := SelectedField.Agree.collected alike collected agree
          rw [fieldValue_empty schema typename declared, fieldValue_empty schema typename declared,
            completeField_eq_of_agree members leaf agrees]
    rw [same]

end Engine

/-! ## Events -/

/-- Two events are the same as far as a field looks that gives the event itself.
What an event says of its own type does not matter: that follows from its kind. -/
structure Event.Agree (event other : Event) (field : SelectedField) : Prop where
  eventType : event.eventType = other.eventType
  whole : field.subfields = [] → event.value = other.value
  below : SelectedField.AgreeBelow field.subfields event.value other.value

/-- Nowhere in what is selected for an event are fields of different names merged. -/
def Subscription.Unambiguous (schema : Schema) (subscription : Subscription) : Prop :=
  ∀ root definition, schema.subscriptionType? = some root →
    root.field? subscription.field.name = some definition →
      schema.Unambiguous definition.type.underlying subscription.field.subfields

namespace Engine

variable {schema : Schema} {field : SelectedField} {type : TypeRef} {value other : Json}
  {subscription : Subscription} {event event' : Event}

/-- An event of which something is selected. -/
theorem completeField_typed_eq {engine : Engine}
    (members : engine.AnswersByAgreement type.underlying field.subfields)
    (composite : ∀ definition, engine.schema.type? type.underlying = some definition →
      definition.isLeaf = false)
    (below : SelectedField.AgreeBelow field.subfields value other) (typeName : String)
    (path : Path) :
    engine.completeField type field path (.ok (.typed typeName value)) =
      engine.completeField type field path (.ok (.typed typeName other)) := by
  refine completeField_congr rfl ?_
  rw [Schema.shape_of_settle rfl, Schema.shape_of_settle rfl]
  cases type with
  | named name nullable =>
    have held (data : Json) : (SettledValue.typed typeName data).data? = some data := rfl
    rw [Schema.settledShape_named rfl, Schema.settledShape_named rfl]
    exact build_namedShape_eq members composite (held value) (held other) rfl below path
  | list itemType nullable =>
    rw [Schema.settledShape_list rfl, Schema.settledShape_list rfl]
    rfl

/-- Below the root of an accepted query nothing is selected of leaves. -/
theorem leavesWhole_of_prepare {engine : Engine} {query : String}
    (consistent : engine.schema.Consistent) (prepared : engine.prepare query = .ok subscription)
    {root : TypeDefinition} (supported : engine.schema.subscriptionType? = some root)
    {definition : FieldDefinition}
    (declared : root.field? subscription.field.name = some definition) :
    (∀ type, engine.schema.type? definition.type.underlying = some type → type.isLeaf = true →
      subscription.field.subfields = []) ∧
      ∀ sub ∈ subscription.field.subfields,
        engine.schema.LeavesWhole definition.type.underlying sub := by
  obtain ⟨root', rooted⟩ := rooted_of_prepare prepared
  cases supported.symm.trans rooted.supported
  obtain ⟨scope, root', selections, same, supported', known, inlined, -⟩ :=
    inlines_of_prepare prepared
  cases supported.symm.trans supported'
  have whole : engine.schema.LeavesWhole root.name subscription.field := by
    rw [← same] at consistent known ⊢
    refine inlined.leavesWhole consistent known ?_ _ (List.mem_singleton_self _)
    exact Scope.implies_of_type? known
  cases whole with
  | typename typename => exact absurd typename rooted.named
  | declared leaf below =>
    exact ⟨fun type => leaf root definition type rooted.meets declared,
      below root definition rooted.meets declared⟩

theorem respond_done (engine : Engine) (type : TypeRef) (field : SelectedField)
    (resolved : Resolved) :
    engine.respond type field (.done resolved) =
      (Exec.note [.itemTaken 0]).bind fun _ =>
        (engine.completeField type field [.field field.outputName] resolved).bind fun value =>
          Exec.pure [(field.outputName, value)] := rfl

theorem execute_eq_of_agree (consistent : schema.Consistent) {query : String}
    (prepared : schema.prepare query = .ok subscription)
    (unambiguous : subscription.Unambiguous schema) (agree : event.Agree event' subscription.field)
    (context : Context) :
    (Engine.mk schema .empty).execute subscription event context =
      (Engine.mk schema .empty).execute subscription event' context := by
  have named : event.typeName = event'.typeName := congrArg Text.upperCamel agree.eventType
  have completed : ∀ root definition, schema.subscriptionType? = some root →
      root.field? subscription.field.name = some definition → ∀ path,
        (Engine.mk schema .empty).completeField definition.type subscription.field path
            (.ok (.typed event.typeName event.value)) =
          (Engine.mk schema .empty).completeField definition.type subscription.field path
            (.ok (.typed event'.typeName event'.value)) := by
    intro root definition supported declared path
    rw [named]
    by_cases bare : subscription.field.subfields = []
    · rw [agree.whole bare]
    · have prepared : (Engine.mk schema .empty).prepare query = .ok subscription := prepared
      obtain ⟨leaf, whole⟩ := leavesWhole_of_prepare consistent prepared supported declared
      have members := answersByAgreement (unambiguous root definition supported declared) whole
      refine completeField_typed_eq members ?_ agree.below _ path
      intro type defined
      exact Bool.eq_false_iff.mpr fun isLeaf => bare (leaf type defined isLeaf)
  unfold execute
  dsimp only
  cases found : schema.subscriptionType?.bind (·.field? subscription.field.name) with
  | none => rfl
  | some definition =>
    obtain ⟨root, supported, declared⟩ := Option.bind_eq_some_iff.mp found
    have responds : (Engine.mk schema .empty).respond definition.type subscription.field
          (.done (.ok (.typed event.typeName event.value))) =
        (Engine.mk schema .empty).respond definition.type subscription.field
          (.done (.ok (.typed event'.typeName event'.value))) := by
      rw [respond_done, respond_done, completed root definition supported declared]
    have streams (event : Event) : ((Registry.empty.subscriber subscription.field.name event
        subscription.field).run context) =
          context.reply (.ok [.done (.ok (.typed event.typeName event.value))]) := rfl
    rw [streams, streams]
    simp only [Context.reply]
    rw [responds]

/-- Without resolvers of its own, a schema gives the same payload, or fails in the
same way, for any two events that agree in what an accepted query selects. -/
theorem generate_eq_of_agree (consistent : schema.Consistent) {query : String}
    (prepared : schema.prepare query = .ok subscription)
    (unambiguous : subscription.Unambiguous schema) (agree : event.Agree event' subscription.field)
    (context : Context) (owner? : Option App) :
    (Engine.mk schema .empty).generate event query context owner? =
      (Engine.mk schema .empty).generate event' query context owner? := by
  have accepted : (Engine.mk schema .empty).prepare query = .ok subscription := prepared
  have executed := execute_eq_of_agree consistent prepared unambiguous agree
    (context.attachApp owner?)
  unfold generate generatePrepared
  rw [accepted]
  simp only [executed]

end Engine

/-! ## An order with other prices -/

namespace Shop

/-- The order under another number, with another price where there was none. -/
def repriced : Event :=
  { created with value := .object [("order", .object [("number", .string "18"),
      ("lines", .array [.object [("sku", .string "A1"), ("price", .string "9.90")],
        .object []])])] }

theorem unambiguous_lines : (linesSubscription none 0).Unambiguous schema :=
  fun _ _ _ _ => schema.unambiguous_of_arePlain _ (by decide)

/-- They agree for the lines as a list, for each line, and for its `sku`. -/
theorem repriced_agree : created.Agree repriced (linesSubscription none 0).field := by
  refine ⟨rfl, nofun, ?order⟩
  case order =>
    intro order selected
    cases List.mem_singleton.mp selected
    refine .parts nofun rfl rfl nofun rfl ?lines
    intro lines selected
    cases List.mem_singleton.mp selected
    refine .parts nofun rfl rfl ?line rfl ?list
    case line =>
      intro items others listed listed' pair member
      cases listed
      cases listed'
      simp only [List.zip_cons_cons, List.zip_nil_right, List.mem_cons, List.not_mem_nil,
        or_false] at member
      rcases member with rfl | rfl
      all_goals
        refine .parts nofun rfl rfl nofun rfl fun sku selected => ?_
        cases List.mem_singleton.mp selected
        exact .whole rfl _
    case list =>
      intro sku selected
      cases List.mem_singleton.mp selected
      exact .whole rfl _

end Shop

theorem generate_eq_on_repriced :
    Shop.schema.Consistent ∧
      Shop.schema.prepare Shop.eventQuery = .ok (Shop.linesSubscription none 0) ∧
      (Shop.linesSubscription none 0).Unambiguous Shop.schema ∧
      Shop.created.Agree Shop.repriced (Shop.linesSubscription none 0).field ∧
      Shop.created.value ≠ Shop.repriced.value ∧
      (Engine.mk Shop.schema .empty).generate Shop.created Shop.eventQuery Shop.context none =
        (Engine.mk Shop.schema .empty).generate Shop.repriced Shop.eventQuery Shop.context none :=
  ⟨Shop.consistent, Shop.prepare_eventQuery, Shop.unambiguous_lines, Shop.repriced_agree,
    by decide,
    Engine.generate_eq_of_agree Shop.consistent Shop.prepare_eventQuery Shop.unambiguous_lines
      Shop.repriced_agree Shop.context none⟩

end WebhookPayload
