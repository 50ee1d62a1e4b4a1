import Mathlib
import WebhookPayload.Proofs.AssembledSchema

/-! # What extensions add

A type of a schema has what its definition gives it and then what its extensions add, in
the order of writing and wherever they stand. No field is lost. Of the interfaces that are
implemented none is lost by an object; an interface keeps those of its definition alone,
so that it lacks some exactly if an extension of it names some (`parse_extended`).

The schemas at the end are read by `cbv`, for which the library is imported whole, as it
is for the shop. -/

namespace WebhookPayload

open GraphQL

namespace GraphQL

/-- The extensions of a type, in the order of writing. -/
def Definition.extensionsOf (definitions : List Definition) (name : String) :
    List TypeDefinition :=
  (Definition.extensions definitions).filter (·.name = name)

namespace TypeDefinition

/-- The fields that a definition and extensions of it declare together. -/
def fieldsWith (type : TypeDefinition) (extensions : List TypeDefinition) :
    List FieldDefinition :=
  type.kind.fields ++ extensions.flatMap (·.kind.fields)

/-- The interfaces that a definition and extensions of it name together. -/
def interfacesWith (type : TypeDefinition) (extensions : List TypeDefinition) : List String :=
  type.kind.implements ++ extensions.flatMap (·.kind.implements)

/-- What becomes of a type by extensions of it. -/
structure ExtendedWith (type : TypeDefinition) (extensions : List TypeDefinition)
    (result : TypeDefinition) : Prop where
  name : result.name = type.name
  object : result.IsObject ↔ type.IsObject
  interface : result.IsInterface ↔ type.IsInterface
  fields : result.kind.fields = type.fieldsWith extensions
  /-- Nothing that is implemented is lost, unless an extension of an interface names it. -/
  implements : result.kind.implements = type.interfacesWith extensions ↔
    (type.IsInterface → ∀ extension ∈ extensions, extension.kind.implements = [])
  unchanged : extensions = [] → result = type

variable {type extension : TypeDefinition} {extensions : List TypeDefinition}

/-! ## One extension -/

/-- A type has an extension's fields after its own. -/
theorem fields_extendedBy (h : extension.Extends type) :
    (type.extendedBy extension).kind.fields = type.kind.fields ++ extension.kind.fields := by
  obtain ⟨kind, extended⟩ := exists_extend?_iff.mpr h.kind
  rw [extendedBy_of_extend? h.name extended]
  exact Schema.extend?_fields extended

/-- An object implements what its extension names after what it names itself. -/
theorem implements_extendedBy_of_object (h : extension.Extends type) (object : type.IsObject) :
    (type.extendedBy extension).kind.implements =
      type.kind.implements ++ extension.kind.implements := by
  obtain ⟨interfaces, fields, isObject⟩ := object
  rcases h.kind with ⟨-, more, moreFields, isExtension⟩ | ⟨⟨_, _, isInterface⟩, -⟩
  · rw [extendedBy_of_extend? h.name (by rw [isObject, isExtension]; rfl), isObject, isExtension]
    rfl
  · cases isObject.symm.trans isInterface

theorem implements_extendedBy_of_interface (interface : type.IsInterface) :
    (type.extendedBy extension).kind.implements = type.kind.implements := by
  obtain ⟨interfaces, fields, isInterface⟩ := interface
  unfold extendedBy
  split
  · rw [isInterface]
    cases extension.kind <;> rfl
  · rfl

/-! ## All extensions of a type -/

/-- Extensions of other types are of no matter. -/
theorem foldl_extendedBy_filter (extensions : List TypeDefinition) (type : TypeDefinition) :
    extensions.foldl extendedBy type =
      (extensions.filter (·.name = type.name)).foldl extendedBy type := by
  induction extensions generalizing type with
  | nil => rfl
  | cons extension rest ih =>
    by_cases named : extension.name = type.name
    · rw [List.filter_cons_of_pos (by simpa using named), List.foldl_cons, List.foldl_cons, ih,
        name_extendedBy]
    · rw [List.filter_cons_of_neg (by simpa using named), List.foldl_cons,
        extendedBy_of_ne (Ne.symm named), ih]

/-- What may extend a type may do so one after another. -/
theorem extends_of_cons {rest : List TypeDefinition}
    (h : ∀ other ∈ extension :: rest, other.Extends type) :
    extension.Extends type ∧ ∀ other ∈ rest, other.Extends (type.extendedBy extension) := by
  obtain ⟨first, later⟩ := List.forall_mem_cons.mp h
  exact ⟨first, fun other member => extends_extendedBy_iff.mpr (later other member)⟩

theorem fields_foldl_extendedBy (h : ∀ extension ∈ extensions, extension.Extends type) :
    (extensions.foldl extendedBy type).kind.fields = type.fieldsWith extensions := by
  induction extensions generalizing type with
  | nil => exact (List.append_nil _).symm
  | cons extension rest ih =>
    obtain ⟨first, later⟩ := extends_of_cons h
    rw [List.foldl_cons, ih later, fieldsWith, fieldsWith, fields_extendedBy first,
      List.flatMap_cons, List.append_assoc]

theorem implements_foldl_of_object (object : type.IsObject)
    (h : ∀ extension ∈ extensions, extension.Extends type) :
    (extensions.foldl extendedBy type).kind.implements = type.interfacesWith extensions := by
  induction extensions generalizing type with
  | nil => exact (List.append_nil _).symm
  | cons extension rest ih =>
    obtain ⟨first, later⟩ := extends_of_cons h
    rw [List.foldl_cons, ih ((kinds_extendedBy type extension).1.mpr object) later, interfacesWith,
      interfacesWith, implements_extendedBy_of_object first object, List.flatMap_cons,
      List.append_assoc]

theorem implements_foldl_of_interface (interface : type.IsInterface)
    (extensions : List TypeDefinition) :
    (extensions.foldl extendedBy type).kind.implements = type.kind.implements := by
  induction extensions generalizing type with
  | nil => rfl
  | cons extension rest ih =>
    rw [List.foldl_cons, ih ((kinds_extendedBy type extension).2.mpr interface),
      implements_extendedBy_of_interface interface]

theorem kinds_foldl_extendedBy (extensions : List TypeDefinition) (type : TypeDefinition) :
    ((extensions.foldl extendedBy type).IsObject ↔ type.IsObject) ∧
      ((extensions.foldl extendedBy type).IsInterface ↔ type.IsInterface) := by
  induction extensions generalizing type with
  | nil => exact ⟨.rfl, .rfl⟩
  | cons extension rest ih =>
    obtain ⟨object, interface⟩ := ih (type.extendedBy extension)
    obtain ⟨objectFirst, interfaceFirst⟩ := kinds_extendedBy type extension
    exact ⟨object.trans objectFirst, interface.trans interfaceFirst⟩

theorem extendedWith_foldl (h : ∀ extension ∈ extensions, extension.Extends type) :
    type.ExtendedWith extensions (extensions.foldl extendedBy type) where
  name := by
    induction extensions generalizing type with
    | nil => rfl
    | cons extension rest ih =>
      rw [List.foldl_cons, ih (extends_of_cons h).2, name_extendedBy]
  object := (kinds_foldl_extendedBy extensions type).1
  interface := (kinds_foldl_extendedBy extensions type).2
  fields := fields_foldl_extendedBy h
  implements := by
    by_cases interface : type.IsInterface
    · -- what the extensions name is not taken up, so there must be nothing of it
      rw [implements_foldl_of_interface interface, interfacesWith, List.self_eq_append_right,
        List.flatMap_eq_nil_iff]
      exact ⟨fun none _ => none, fun none => none interface⟩
    · refine iff_of_true ?_ fun given => absurd given interface
      cases extensions with
      | nil => exact (List.append_nil _).symm
      | cons extension rest =>
        rcases (h extension List.mem_cons_self).kind with ⟨object, -⟩ | ⟨given, -⟩
        · exact implements_foldl_of_object object h
        · exact absurd given interface
  unchanged none := by
    subst none
    rfl

end TypeDefinition

end GraphQL

namespace Schema

variable {definitions : List Definition} {schema : Schema} {type : TypeDefinition}

/-- Names differ, so the extensions of a type's name are extensions of it. -/
theorem Assemblable.extends_of_mem (h : Assemblable definitions)
    (member : type ∈ Definition.types definitions) :
    ∀ extension ∈ Definition.extensionsOf definitions type.name, extension.Extends type := by
  intro extension named
  obtain ⟨present, named⟩ := List.mem_filter.mp named
  obtain ⟨other, known, extends_⟩ := h.extending extension present
  have same : other = type := List.inj_on_of_nodup_map h.distinct known member
    (extends_.name.trans (of_decide_eq_true named))
  exact same ▸ extends_

/-- The schema has each type with its extensions, and finds it by its name. -/
theorem Assemblable.exists_extendedWith (h : Assemblable definitions)
    (member : type ∈ Definition.types definitions) :
    ∃ result, (assembled definitions).type? type.name = some result ∧
      type.ExtendedWith (Definition.extensionsOf definitions type.name) result := by
  have extended := TypeDefinition.extendedWith_foldl (h.extends_of_mem member)
  rw [Definition.extensionsOf, ← TypeDefinition.foldl_extendedBy_filter] at extended
  refine ⟨_, ?_, extended⟩
  have present : (Definition.extensions definitions).foldl TypeDefinition.extendedBy type ∈
      (assembled definitions).types :=
    List.mem_append_left _ (List.mem_map_of_mem member)
  have found := find?_of_nodup (nodup_names_assembled h) present
  rw [extended.name] at found
  exact found

/-- What `schema` is made of keeps everything: definitions and extensions of objects and of
interfaces lose neither a field nor an interface that they implement. -/
def LosesNothing (schema : Schema) (definitions : List Definition) : Prop :=
  ∀ type ∈ Definition.types definitions, type.IsObject ∨ type.IsInterface →
    ∃ result, schema.type? type.name = some result ∧
      result.kind.fields =
        type.fieldsWith (Definition.extensionsOf definitions type.name) ∧
      result.kind.implements =
        type.interfacesWith (Definition.extensionsOf definitions type.name) ∧
      (Definition.extensionsOf definitions type.name = [] → result = type)

/-- In every schema that is read, each type is what its definition and all its extensions
make of it. -/
theorem parse_extended {text : String} (h : parse text = .ok schema) :
    ∃ definitions, Definition.parseAll text = .ok definitions ∧
      ∀ type ∈ Definition.types definitions, ∃ result, schema.type? type.name = some result ∧
        type.ExtendedWith (Definition.extensionsOf definitions type.name) result := by
  rw [parse] at h
  split at h
  · cases h
  · rename_i definitions read
    obtain ⟨assemblable, rfl⟩ := assemble_eq_ok_iff.mp h
    exact ⟨definitions, read, fun type => assemblable.exists_extendedWith⟩

end Schema

/-! ## Orders with a price and a date -/

namespace Feed

def fields (fields : List (String × String)) : List FieldDefinition :=
  fields.map fun field => { name := field.1, type := .named field.2 true, arguments := [] }

def interface (name : String) (own : List (String × String)) : TypeDefinition :=
  { name, kind := .interface [] (fields own) }

def implementing (name interface : String) (own : List (String × String)) : TypeDefinition :=
  { name, kind := .object [interface] (fields own) }

/-- The order has an extension before it and one after it. -/
def ordersText : String :=
  "extend type Order implements Priced { price: Int } interface Priced { price: Int } " ++
  "type Order { id: ID } extend type Order implements Dated { placed: String } " ++
  "interface Dated { placed: String } extend interface Dated { paid: String }"

def dated : TypeDefinition := interface "Dated" [("placed", "String")]

def ordersDefinitions : List Definition :=
  [.extension ⟨1, 1⟩ (implementing "Order" "Priced" [("price", "Int")]),
    .type ⟨1, 52⟩ (interface "Priced" [("price", "Int")]),
    .type ⟨1, 84⟩ (object "Order" [("id", "ID")]),
    .extension ⟨1, 106⟩ (implementing "Order" "Dated" [("placed", "String")]),
    .type ⟨1, 160⟩ dated, .extension ⟨1, 195⟩ (interface "Dated" [("paid", "String")])]

/-- Events become nodes by an extension. -/
def nodesText : String :=
  "interface Node { id: ID } interface Event { placed: String } " ++
  "extend interface Event implements Node { id: ID }"

def nodesDefinitions : List Definition :=
  [.type ⟨1, 1⟩ (interface "Node" [("id", "ID")]),
    .type ⟨1, 27⟩ (interface "Event" [("placed", "String")]),
    .extension ⟨1, 62⟩ { name := "Event", kind := .interface ["Node"] (fields [("id", "ID")]) }]

end Feed

theorem parse_extended_on_orders :
    ∃ schema order dated, Schema.parse Feed.ordersText = .ok schema ∧
      schema.type? "Order" = some order ∧ schema.type? "Dated" = some dated ∧
      order.kind.fields.map FieldDefinition.name = ["id", "price", "placed"] ∧
      order.kind.implements = ["Priced", "Dated"] ∧
      dated.kind.fields.map FieldDefinition.name = ["placed", "paid"] ∧
      dated.kind.implements = [] := by
  have read : Definition.parseAll Feed.ordersText = .ok Feed.ordersDefinitions := by cbv
  have parsed : ∃ schema, Schema.parse Feed.ordersText = .ok schema := by
    rw [Schema.parse, read]
    exact ⟨_, rfl⟩
  obtain ⟨schema, parsed⟩ := parsed
  obtain ⟨definitions, same, extended⟩ := Schema.parse_extended parsed
  cases read.symm.trans same
  obtain ⟨order, foundOrder, ofOrder⟩ := extended (Feed.object "Order" [("id", "ID")])
    (by simp [Definition.types, Feed.ordersDefinitions, Definition.type?])
  obtain ⟨dated, foundDated, ofDated⟩ := extended Feed.dated
    (by simp [Definition.types, Feed.ordersDefinitions, Definition.type?])
  refine ⟨schema, order, dated, parsed, foundOrder, foundDated, ?_, ?_, ?_, ?_⟩
  · rw [ofOrder.fields]
    rfl
  · refine (ofOrder.implements.mpr ?_).trans rfl
    rintro ⟨_, _, interface⟩
    cases interface
  · rw [ofDated.fields]
    rfl
  · refine (ofDated.implements.mpr fun _ extension member => ?_).trans rfl
    cases List.mem_singleton.mp member
    rfl

/-- The event of the schema is no node, although an extension says so. -/
theorem interface_loses_extension :
    ∃ schema, Schema.parse Feed.nodesText = .ok schema ∧
      Definition.parseAll Feed.nodesText = .ok Feed.nodesDefinitions ∧
      ¬ schema.LosesNothing Feed.nodesDefinitions := by
  have read : Definition.parseAll Feed.nodesText = .ok Feed.nodesDefinitions := by cbv
  have parsed : Schema.parse Feed.nodesText =
      .ok (Schema.assembled Feed.nodesDefinitions) := by
    rw [Schema.parse, read]
    rfl
  refine ⟨_, parsed, read, fun complete => ?_⟩
  obtain ⟨event, found, -, implements, -⟩ := complete
    (Feed.interface "Event" [("placed", "String")])
    (by simp [Definition.types, Feed.nodesDefinitions, Definition.type?]) (.inr ⟨_, _, rfl⟩)
  cases found
  cases implements

end WebhookPayload
