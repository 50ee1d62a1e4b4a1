import WebhookPayload.Proofs.Assembly
import WebhookPayload.Proofs.Shop
import WebhookPayload.Proofs.Validity

/-! # Queries outlive the growth of a schema

A schema grows by new types and by extensions, which add interfaces and fields to
the types that are there. `Schema.Grows` says what a grown schema keeps: every
type under its name, with at least what it had, and the root of subscriptions.
That is all that validation asks for, so it accepts what it accepted, with the
same result (`Schema.Grows.validate`). -/

namespace WebhookPayload

open GraphQL

/-! ## Types -/

/-- What may become of a kind of type: objects and interfaces gain, at the end. -/
inductive GraphQL.TypeKind.Grows : TypeKind → TypeKind → Prop
  | same (kind : TypeKind) : Grows kind kind
  | object {interfaces fields} (moreInterfaces moreFields) :
      Grows (.object interfaces fields)
        (.object (interfaces ++ moreInterfaces) (fields ++ moreFields))
  | interface {interfaces fields} (moreFields) :
      Grows (.interface interfaces fields) (.interface interfaces (fields ++ moreFields))

structure GraphQL.TypeDefinition.Grows (type larger : TypeDefinition) : Prop where
  name : larger.name = type.name
  kind : type.kind.Grows larger.kind

namespace GraphQL

namespace TypeKind.Grows

variable {kind larger largest : TypeKind}

theorem trans (h : kind.Grows larger) (h' : larger.Grows largest) : kind.Grows largest := by
  cases h with
  | same => exact h'
  | object =>
    cases h' with
    | same => exact .object _ _
    | object =>
      rw [List.append_assoc, List.append_assoc]
      exact .object _ _
  | interface =>
    cases h' with
    | same => exact .interface _
    | interface =>
      rw [List.append_assoc]
      exact .interface _

theorem of_union {members : List String} (h : (TypeKind.union members).Grows larger) :
    larger = .union members := by
  cases h
  rfl

theorem of_object {interfaces : List String} {fields : List FieldDefinition}
    (h : (TypeKind.object interfaces fields).Grows larger) :
    ∃ more moreFields, larger = .object (interfaces ++ more) (fields ++ moreFields) := by
  cases h with
  | same => exact ⟨[], [], by rw [List.append_nil, List.append_nil]⟩
  | object more moreFields => exact ⟨more, moreFields, rfl⟩

theorem of_interface {interfaces : List String} {fields : List FieldDefinition}
    (h : (TypeKind.interface interfaces fields).Grows larger) :
    ∃ moreFields, larger = .interface interfaces (fields ++ moreFields) := by
  cases h with
  | same => exact ⟨[], by rw [List.append_nil]⟩
  | interface moreFields => exact ⟨moreFields, rfl⟩

/-- An extension of a type is a way to grow. -/
theorem of_extension {extension : TypeKind} (h : kind.extend? extension = some larger) :
    kind.Grows larger := by
  unfold TypeKind.extend? at h
  split at h
  · cases h
    exact .object _ _
  · cases h
    exact .interface _
  · cases h

end TypeKind.Grows

namespace TypeDefinition.Grows

variable {type larger largest : TypeDefinition}

theorem refl (type : TypeDefinition) : type.Grows type := ⟨rfl, .same _⟩

theorem trans (h : type.Grows larger) (h' : larger.Grows largest) : type.Grows largest :=
  ⟨h'.name.trans h.name, h.kind.trans h'.kind⟩

theorem isLeaf_eq (h : type.Grows larger) : larger.isLeaf = type.isLeaf := by
  obtain ⟨-, kind⟩ := h
  unfold isLeaf
  generalize type.kind = before, larger.kind = after at kind
  cases kind <;> rfl

theorem isComposite_eq (h : type.Grows larger) : larger.isComposite = type.isComposite := by
  obtain ⟨-, kind⟩ := h
  unfold isComposite
  generalize type.kind = before, larger.kind = after at kind
  cases kind <;> rfl

/-- Fields are looked up from the first to the last, so what is added hides none. -/
theorem field? (h : type.Grows larger) {name : String} {definition : FieldDefinition}
    (found : type.field? name = some definition) : larger.field? name = some definition := by
  obtain ⟨-, kind⟩ := h
  unfold TypeDefinition.field? at found ⊢
  generalize type.kind = before, larger.kind = after at found kind
  cases kind with
  | same => exact found
  | object | interface =>
    rw [TypeKind.fields, List.find?_append]
    rw [TypeKind.fields] at found
    rw [found]
    rfl

end TypeDefinition.Grows

end GraphQL

/-! ## Schemas -/

/-- A schema and one that has all that it has. -/
structure Schema.Grows (schema grown : Schema) : Prop where
  types : ∀ name type, schema.type? name = some type →
    ∃ larger, grown.type? name = some larger ∧ type.Grows larger
  root : ∀ name, schema.subscriptionRoot? = some name → grown.subscriptionRoot? = some name

/-- What may stand for what, as the definitions of the two types say. -/
theorem Schema.isPossible_eq_true_iff {schema : Schema} {expected concrete : String} :
    schema.isPossible expected concrete = true ↔
      expected = concrete ∨
      (∃ type members, schema.type? expected = some type ∧ type.kind = .union members ∧
        concrete ∈ members) ∨
      ∃ type interfaces fields object names own, schema.type? expected = some type ∧
        type.kind = .interface interfaces fields ∧ schema.type? concrete = some object ∧
        object.kind = .object names own ∧ expected ∈ names := by
  unfold isPossible
  rw [Bool.or_eq_true, decide_eq_true_iff]
  refine or_congr_right ?_
  cases schema.type? expected with
  | none => simp
  | some type =>
    obtain ⟨name, kind⟩ := type
    cases kind with
    | interface interfaces fields =>
      cases schema.type? concrete with
      | none => simp
      | some object =>
        obtain ⟨other, kind⟩ := object
        cases kind <;> simp
    | _ => simp

namespace Schema.Grows

variable {schema grown : Schema}

theorem isPossible (h : schema.Grows grown) {expected concrete : String}
    (possible : schema.isPossible expected concrete = true) :
    grown.isPossible expected concrete = true := by
  rw [isPossible_eq_true_iff] at possible ⊢
  rcases possible with same | ⟨type, members, found, union, listed⟩ |
    ⟨type, interfaces, fields, object, names, own, found, interface, known, kind, listed⟩
  · exact .inl same
  · obtain ⟨larger, found, -, grows⟩ := h.types _ _ found
    rw [union] at grows
    exact .inr (.inl ⟨larger, members, found, grows.of_union, listed⟩)
  · obtain ⟨larger, found, -, grows⟩ := h.types _ _ found
    obtain ⟨largerObject, known, -, growsObject⟩ := h.types _ _ known
    rw [interface] at grows
    rw [kind] at growsObject
    obtain ⟨moreFields, interface⟩ := grows.of_interface
    obtain ⟨more, moreOwn, kind⟩ := growsObject.of_object
    exact .inr (.inr ⟨larger, _, _, largerObject, _, _, found, interface, known, kind,
      List.mem_append_left more listed⟩)

theorem subscriptionType? (h : schema.Grows grown) {root : TypeDefinition}
    (found : schema.subscriptionType? = some root) :
    ∃ larger, grown.subscriptionType? = some larger ∧ root.Grows larger := by
  obtain ⟨name, named, found⟩ := Option.bind_eq_some_iff.mp found
  obtain ⟨larger, found, grows⟩ := h.types name root found
  refine ⟨larger, ?_, grows⟩
  rw [Schema.subscriptionType?, h.root name named]
  exact found

theorem isSubscribable (h : schema.Grows grown) {root larger : TypeDefinition}
    (grows : root.Grows larger) {field : SelectedField}
    (subscribable : schema.isSubscribable root field = true) :
    grown.isSubscribable larger field = true := by
  simp only [Schema.isSubscribable, Bool.and_eq_true, List.all_eq_true] at subscribable ⊢
  obtain ⟨⟨ordinary, declared⟩, applies⟩ := subscribable
  obtain ⟨definition, declared⟩ := Option.isSome_iff_exists.mp declared
  refine ⟨⟨ordinary, ?_⟩, fun condition member => ?_⟩
  · rw [grows.field? declared]
    rfl
  · rw [grows.name]
    exact h.isPossible (applies condition member)

/-- Selections are inlined in the grown schema as they were, on a container that has grown. -/
theorem inlines {scope : Scope} (h : scope.schema.Grows grown) {container : TypeDefinition}
    {conditions active : List String} {selections : List Selection} {fields : List SelectedField}
    (inlined : Inlines scope container conditions active selections fields)
    {larger : TypeDefinition} (grows : container.Grows larger) :
    Inlines { scope with schema := grown } larger conditions active selections fields := by
  induction inlined generalizing larger with
  | nil => exact .nil
  | cons _ _ one all => exact .cons (one grows) (all grows)
  | typename named plain => exact .typename named plain
  | leaf named declared defined kind bound =>
    obtain ⟨type, found, growsType⟩ := h.types _ _ defined
    exact .leaf named (grows.field? declared) found (growsType.isLeaf_eq.trans kind) bound
  | composite named declared defined kind nonempty _ bound below =>
    obtain ⟨type, found, growsType⟩ := h.types _ _ defined
    exact .composite named (grows.field? declared) found (growsType.isComposite_eq.trans kind)
      nonempty (below growsType) bound
  | @spread container conditions _ _ _ fragment _ _ fresh found defined kind _ inside =>
    obtain ⟨type, known, growsType⟩ := h.types _ _ defined
    have same : narrow larger conditions fragment.condition =
        narrow container conditions fragment.condition := by
      rw [narrow, narrow, grows.name]
    refine .spread fresh found known (growsType.isComposite_eq.trans kind) ?_
    rw [same]
    exact inside growsType
  | unconditional _ inside => exact .unconditional (inside grows)
  | @conditional container conditions _ condition _ _ _ defined kind _ inside =>
    obtain ⟨type, known, growsType⟩ := h.types _ _ defined
    have same : narrow larger conditions condition = narrow container conditions condition := by
      rw [narrow, narrow, grows.name]
    refine .conditional known (growsType.isComposite_eq.trans kind) ?_
    rw [same]
    exact inside growsType

/-- A subscription stays valid, and the same. -/
theorem validate (h : schema.Grows grown) {document : Document} {subscription : Subscription}
    (valid : schema.validate document = .ok subscription) :
    grown.validate document = .ok subscription := by
  obtain ⟨operation, root, single, rooted, optional, inlined, subscribable⟩ :=
    validate_eq_ok_iff.mp valid
  obtain ⟨larger, rooted, grows⟩ := h.subscriptionType? rooted
  have grownScope : (operationScope schema document operation).schema.Grows grown := h
  exact validate_eq_ok_iff.mpr ⟨operation, larger, single, rooted, optional,
    grownScope.inlines inlined grows, h.isSubscribable grows subscribable⟩

end Schema.Grows

/-! ## Longer schema documents -/

namespace Schema

/-- What a schema document may gain: types with names of their own, extensions and
directives, but no roots. -/
inductive Gains (schema : Schema) : Definition → Prop
  | type {position definition} (new : schema.type? definition.name = none) :
      Gains schema (.type position definition)
  | extension {position definition} : Gains schema (.extension position definition)
  | directive : Gains schema .directive

/-- Every type is still found under its name, and may have grown. -/
def TypesGrow (types larger : List TypeDefinition) : Prop :=
  ∀ name type, types.find? (·.name = name) = some type →
    ∃ grown, larger.find? (·.name = name) = some grown ∧ type.Grows grown

variable {types result : List TypeDefinition}

theorem TypesGrow.refl (types : List TypeDefinition) : TypesGrow types types :=
  fun _ type found => ⟨type, found, .refl type⟩

theorem TypesGrow.trans {larger : List TypeDefinition} (h : TypesGrow types result)
    (h' : TypesGrow result larger) : TypesGrow types larger := by
  intro name type found
  obtain ⟨grown, found, grows⟩ := h name type found
  obtain ⟨largest, found, grows'⟩ := h' name grown found
  exact ⟨largest, found, grows.trans grows'⟩

theorem TypesGrow.append (h : TypesGrow types result) (more : List TypeDefinition) :
    TypesGrow types (result ++ more) := by
  intro name type found
  obtain ⟨grown, found, grows⟩ := h name type found
  exact ⟨grown, by rw [List.find?_append, found]; rfl, grows⟩

theorem TypesGrow.defines (h : TypesGrow types result) {name : String}
    (defined : defines types name = true) : Schema.defines result name = true := by
  rw [defines_eq_isSome, Option.isSome_iff_exists] at defined ⊢
  obtain ⟨type, found⟩ := defined
  obtain ⟨grown, found, -⟩ := h name type found
  exact ⟨grown, found⟩

theorem TypesGrow.cons {type grown : TypeDefinition} (grows : type.Grows grown)
    (h : TypesGrow types result) : TypesGrow (type :: types) (grown :: result) := by
  intro name found
  rw [List.find?_cons, List.find?_cons, grows.name]
  split
  · intro same
    cases same
    exact ⟨grown, rfl, grows⟩
  · exact h name found

theorem typesGrow_of_extendType {extension : Placed}
    (h : extendType extension types = .ok result) : TypesGrow types result := by
  induction types generalizing result with
  | nil => cases h
  | cons type rest ih =>
    rcases extendType_cons_eq_ok_iff.mp h with
      ⟨-, kind, extended, rfl⟩ | ⟨-, extended, later, rfl⟩
    · exact .cons ⟨rfl, .of_extension extended⟩ (.refl rest)
    · exact .cons (.refl type) (ih later)

theorem typesGrow_of_extendTypes {extensions : List Placed}
    (h : extendTypes types extensions = .ok result) : TypesGrow types result := by
  induction extensions generalizing types with
  | nil =>
    cases h
    exact .refl _
  | cons extension rest ih =>
    obtain ⟨extended, first, later⟩ := bind_eq_ok_iff.mp h
    exact (typesGrow_of_extendType first).trans (ih later)

/-- The types of a longer document: those of the document, extended once more, and
new ones among them before the built-in scalars. -/
theorem types_of_longer {definitions more : List Definition} {schema grown : Schema}
    (assembled : assemble definitions = .ok schema)
    (longer : assemble (definitions ++ more) = .ok grown) :
    ∃ extended added grownTypes,
      schema.types = extended ++ missingScalars extended ∧
      added = (more.filterMap Definition.type?).map Placed.definition ∧
      extendTypes (extended ++ added) (more.filterMap Definition.extension?) = .ok grownTypes ∧
      grown.types = grownTypes ++ missingScalars grownTypes := by
  obtain ⟨defined, extended, taken, applied, types, -⟩ := assemble_eq_ok assembled
  obtain ⟨defined', extended', taken', applied', types', -⟩ := assemble_eq_ok longer
  rw [List.filterMap_append, addTypes_append, taken, ok_bind] at taken'
  rw [eq_of_addTypes taken', List.filterMap_append, extendTypes_append,
    extendTypes_of_append _ applied, ok_bind] at applied'
  exact ⟨extended, _, extended', types, rfl, applied', types'⟩

section Gains

variable {definitions more : List Definition} {schema grown : Schema}
  (gains : ∀ definition ∈ more, schema.Gains definition)

include gains

theorem Gains.new_type : ∀ type ∈ (more.filterMap Definition.type?).map Placed.definition,
    schema.type? type.name = none := by
  intro type member
  obtain ⟨placed, taken, rfl⟩ := List.mem_map.mp member
  obtain ⟨definition, among, taken⟩ := List.mem_filterMap.mp taken
  cases gains definition among with
  | type new =>
    cases taken
    exact new
  | extension => cases taken
  | directive => cases taken

theorem Gains.no_roots : more.filterMap Definition.roots? = [] := by
  refine List.filterMap_eq_nil_iff.mpr fun definition member => ?_
  cases gains definition member <;> rfl

theorem typesGrow_of_longer (assembled : assemble definitions = .ok schema)
    (longer : assemble (definitions ++ more) = .ok grown) :
    TypesGrow schema.types grown.types := by
  obtain ⟨extended, added, grownTypes, types, rfl, applied, types'⟩ :=
    types_of_longer assembled longer
  have grows := typesGrow_of_extendTypes applied
  have names := defines_congr (names_of_extendTypes applied)
  intro name type found
  have known : schema.type? name = some type := found
  rw [types, List.find?_append] at found
  rw [types']
  cases defined : extended.find? (·.name = name) with
  | some own =>
    rw [defined] at found
    cases found
    exact grows.append _ name type (by rw [List.find?_append, defined]; rfl)
  | none =>
    -- a scalar that the document leaves to the schema, and that no new type replaces
    rw [defined, Option.none_or, find?_missingScalars] at found
    split at found
    · rename_i missing
      cases found
      have unadded : defines ((more.filterMap Definition.type?).map Placed.definition) name =
          false := by
        refine Bool.eq_false_iff.mpr fun added => ?_
        obtain ⟨other, member, rfl⟩ := defines_iff.mp added
        cases known.symm.trans (Gains.new_type gains other member)
      have undefined : defines grownTypes name = false := by
        rw [names, defines_append, missing.2, unadded]
        rfl
      refine ⟨_, ?_, .refl _⟩
      rw [List.find?_append, find?_eq_none_iff.mpr undefined, Option.none_or,
        find?_missingScalars, if_pos ⟨missing.1, undefined⟩]
    · cases found

theorem grows_of_longer (assembled : assemble definitions = .ok schema)
    (longer : assemble (definitions ++ more) = .ok grown) : schema.Grows grown := by
  have types := typesGrow_of_longer gains assembled longer
  refine ⟨types, fun name root => ?_⟩
  obtain ⟨-, -, -, -, -, roots⟩ := assemble_eq_ok assembled
  obtain ⟨-, -, -, -, -, roots'⟩ := assemble_eq_ok longer
  rw [List.filterMap_append, Gains.no_roots gains, List.append_nil] at roots'
  rw [root] at roots
  rw [roots']
  cases named : lastNamed RootNames.subscription? (definitions.filterMap Definition.roots?) with
  | some given =>
    rw [named] at roots
    exact roots.symm
  | none =>
    rw [named, Option.none_or] at roots
    rw [Option.none_or]
    split at roots
    · rename_i defined
      rw [if_pos (types.defines defined)]
      exact roots.symm
    · cases roots

end Gains

/-- A query that is accepted with a schema document is accepted, with the same
subscription, with every document that has gained types and extensions at its
end. -/
theorem prepare_longer {text larger : String} {definitions more : List Definition}
    {schema grown : Schema} (read : Definition.parseAll text = .ok definitions)
    (appended : Definition.parseAll larger = .ok (definitions ++ more))
    (gains : ∀ definition ∈ more, schema.Gains definition)
    (parsed : Schema.parse text = .ok schema) (reparsed : Schema.parse larger = .ok grown)
    {query : String} {subscription : Subscription}
    (prepared : schema.prepare query = .ok subscription) :
    grown.prepare query = .ok subscription := by
  have assembled : assemble definitions = .ok schema := by
    rw [Schema.parse, read] at parsed
    exact parsed
  have longer : assemble (definitions ++ more) = .ok grown := by
    rw [Schema.parse, appended] at reparsed
    exact reparsed
  unfold Schema.prepare Schema.prepareWith at prepared ⊢
  cases parsed : Document.parse query with
  | error cause =>
    rw [parsed] at prepared
    cases prepared
  | ok document =>
    rw [parsed] at prepared
    exact (grows_of_longer gains assembled longer).validate prepared

end Schema

/-! ## A schema that has grown -/

namespace Shop

def firstText : String :=
  "type Subscription { event: Event } interface Event { at: ID } " ++
  "type Order implements Event { at: ID }"

/-- A new kind of event, and an author for those that there are. -/
def nextText : String :=
  firstText ++ " type Refund implements Event { at: ID } " ++
  "extend interface Event { by: ID } extend type Order { by: ID }"

def subscriptionType : TypeDefinition :=
  { name := "Subscription", kind := .object [] [field "event" (.named "Event" true)] }

def date : FieldDefinition := field "at" (.named "ID" true)

def author : FieldDefinition := field "by" (.named "ID" true)

def refund : TypeDefinition := { name := "Refund", kind := .object ["Event"] [date] }

def firstDefinitions : List Definition :=
  [.type ⟨1, 1⟩ subscriptionType,
    .type ⟨1, 36⟩ { name := "Event", kind := .interface [] [date] },
    .type ⟨1, 63⟩ { name := "Order", kind := .object ["Event"] [date] }]

def nextDefinitions : List Definition :=
  [.type ⟨1, 102⟩ refund,
    .extension ⟨1, 142⟩ { name := "Event", kind := .interface [] [author] },
    .extension ⟨1, 176⟩ { name := "Order", kind := .object [] [author] }]

def firstSchema : Schema :=
  { types := [
      subscriptionType,
      { name := "Event", kind := .interface [] [date] },
      { name := "Order", kind := .object ["Event"] [date] },
      { name := "Int", kind := .scalar }, { name := "Float", kind := .scalar },
      { name := "String", kind := .scalar }, { name := "Boolean", kind := .scalar },
      { name := "ID", kind := .scalar }]
    queryRoot := "Query", subscriptionRoot? := some "Subscription" }

def nextSchema : Schema :=
  { types := [
      subscriptionType,
      { name := "Event", kind := .interface [] [date, author] },
      { name := "Order", kind := .object ["Event"] [date, author] },
      refund,
      { name := "Int", kind := .scalar }, { name := "Float", kind := .scalar },
      { name := "String", kind := .scalar }, { name := "Boolean", kind := .scalar },
      { name := "ID", kind := .scalar }]
    queryRoot := "Query", subscriptionRoot? := some "Subscription" }

def dateQuery : String := "subscription { event { at ... on Order { __typename } } }"

def dateSubscription : Subscription :=
  { name? := none
    field := (head 16 "event").selected [] []
      [(head 24 "at").selected [] [] [], (head 42 "__typename").selected ["Order"] [] []] }

theorem prepare_dateQuery : firstSchema.prepare dateQuery = .ok dateSubscription := by
  cbv

end Shop

theorem prepare_longer_for_refunds :
    Definition.parseAll Shop.firstText = .ok Shop.firstDefinitions ∧
      Definition.parseAll Shop.nextText = .ok (Shop.firstDefinitions ++ Shop.nextDefinitions) ∧
      (∀ definition ∈ Shop.nextDefinitions, Shop.firstSchema.Gains definition) ∧
      Schema.parse Shop.firstText = .ok Shop.firstSchema ∧
      Schema.parse Shop.nextText = .ok Shop.nextSchema ∧
      Shop.firstSchema.prepare Shop.dateQuery = .ok Shop.dateSubscription ∧
      Shop.nextSchema.prepare Shop.dateQuery = .ok Shop.dateSubscription := by
  have read : Definition.parseAll Shop.firstText = .ok Shop.firstDefinitions := by cbv
  have appended : Definition.parseAll Shop.nextText =
      .ok (Shop.firstDefinitions ++ Shop.nextDefinitions) := by cbv
  have gains : ∀ definition ∈ Shop.nextDefinitions, Shop.firstSchema.Gains definition := by
    simp only [Shop.nextDefinitions, List.forall_mem_cons]
    exact ⟨.type (by decide +kernel), .extension, .extension, by simp⟩
  have parsed : Schema.parse Shop.firstText = .ok Shop.firstSchema := by
    rw [Schema.parse, read]
    rfl
  have reparsed : Schema.parse Shop.nextText = .ok Shop.nextSchema := by
    rw [Schema.parse, appended]
    rfl
  exact ⟨read, appended, gains, parsed, reparsed, Shop.prepare_dateQuery,
    Schema.prepare_longer read appended gains parsed reparsed Shop.prepare_dateQuery⟩

end WebhookPayload
