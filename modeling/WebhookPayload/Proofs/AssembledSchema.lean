import Mathlib.Data.List.Nodup
import WebhookPayload.Proofs.Answerable
import WebhookPayload.Proofs.Assembly

/-! # What a schema is assembled of

A schema is assembled exactly if the names of types differ, every extension is of a type
of its kind, and the roots that are named last are there. It has the types in the order of
writing, each with its extensions, and the built-in scalars that are left
(`assemble_eq_ok_iff`). How types, extensions and roots are mixed does not matter, also
when assembly fails (`assemble_spec`). -/

namespace WebhookPayload

open GraphQL

/-! ## Definitions by group -/

namespace GraphQL.Definition

variable (definitions : List Definition)

def types : List TypeDefinition :=
  (definitions.filterMap Definition.type?).map Placed.definition

def extensions : List TypeDefinition :=
  (definitions.filterMap Definition.extension?).map Placed.definition

/-- The root of queries that is named last, if any is. -/
def queryRoot? : Option String :=
  Schema.lastNamed RootNames.query? (definitions.filterMap Definition.roots?)

def subscriptionRoot? : Option String :=
  Schema.lastNamed RootNames.subscription? (definitions.filterMap Definition.roots?)

/-- The same definitions but for directives, if how the three groups are mixed does not count. -/
structure SameGroups (definitions others : List Definition) : Prop where
  types : others.filterMap Definition.type? = definitions.filterMap Definition.type?
  extensions :
    others.filterMap Definition.extension? = definitions.filterMap Definition.extension?
  roots : others.filterMap Definition.roots? = definitions.filterMap Definition.roots?

end GraphQL.Definition

namespace GraphQL.TypeDefinition

/-- An extension of an object or of an interface, and a type that it may extend. -/
structure Extends (extension type : TypeDefinition) : Prop where
  name : type.name = extension.name
  kind : type.IsObject ∧ extension.IsObject ∨ type.IsInterface ∧ extension.IsInterface

/-- What an extension makes of a type. It is of no matter to types of another name. -/
def extendedBy (type extension : TypeDefinition) : TypeDefinition :=
  if type.name = extension.name then
    { type with kind := (type.kind.extend? extension.kind).getD type.kind }
  else type

variable {type extension other : TypeDefinition}

theorem exists_extend?_iff : (∃ kind, type.kind.extend? extension.kind = some kind) ↔
    type.IsObject ∧ extension.IsObject ∨ type.IsInterface ∧ extension.IsInterface := by
  unfold IsObject IsInterface
  cases type.kind <;> cases extension.kind <;> simp [TypeKind.extend?]

@[simp] theorem name_extendedBy (type extension : TypeDefinition) :
    (type.extendedBy extension).name = type.name := by
  unfold extendedBy
  split <;> rfl

theorem extendedBy_of_extend? (named : type.name = extension.name) {kind : TypeKind}
    (extended : type.kind.extend? extension.kind = some kind) :
    type.extendedBy extension = { type with kind } := by
  rw [extendedBy, if_pos named, extended, Option.getD_some]

theorem extendedBy_of_ne (h : type.name ≠ extension.name) : type.extendedBy extension = type :=
  if_neg h

/-- An extended type is of the kind that it was of. -/
theorem kinds_extendedBy (type extension : TypeDefinition) :
    ((type.extendedBy extension).IsObject ↔ type.IsObject) ∧
      ((type.extendedBy extension).IsInterface ↔ type.IsInterface) := by
  unfold extendedBy
  split
  · unfold IsObject IsInterface
    cases type.kind <;> cases extension.kind <;> simp [TypeKind.extend?]
  · exact ⟨.rfl, .rfl⟩

/-- What may extend a type may still do so after another extension. -/
theorem extends_extendedBy_iff :
    other.Extends (type.extendedBy extension) ↔ other.Extends type := by
  have kinds := kinds_extendedBy type extension
  constructor <;> rintro ⟨name, kind⟩
  · rw [name_extendedBy] at name
    exact ⟨name, by rwa [kinds.1, kinds.2] at kind⟩
  · exact ⟨(name_extendedBy _ _).trans name, by rwa [kinds.1, kinds.2]⟩

end GraphQL.TypeDefinition

namespace Schema

variable {types result : List TypeDefinition}

/-! ## The steps -/

theorem addTypes_eq_ok_iff {added : List Placed}
    (distinct : (types.map TypeDefinition.name).Nodup) :
    addTypes types added = .ok result ↔
      ((types ++ added.map Placed.definition).map TypeDefinition.name).Nodup ∧
        result = types ++ added.map Placed.definition := by
  induction added generalizing types with
  | nil =>
    rw [addTypes, List.map_nil, List.append_nil, and_iff_right distinct, Except.ok.injEq, eq_comm]
  | cons placed rest ih =>
    rw [addTypes]
    by_cases repeated : defines types placed.name = true
    · obtain ⟨type, member, same⟩ := defines_iff.mp repeated
      rw [if_pos repeated]
      constructor
      case mp =>
        intro failed
        cases failed
      case mpr =>
        rintro ⟨distinct', -⟩
        rw [List.map_append, List.nodup_append] at distinct'
        exact absurd same (distinct'.2.2 _ (List.mem_map_of_mem member) _ List.mem_cons_self)
    · have new : placed.name ∉ types.map TypeDefinition.name := fun member =>
        repeated (defines_iff.mpr (List.mem_map.mp member))
      have distinct' : ((types ++ [placed.definition]).map TypeDefinition.name).Nodup := by
        rw [List.map_append, List.nodup_append_comm]
        exact List.nodup_cons.mpr ⟨new, distinct⟩
      rw [if_neg repeated, ih distinct', List.append_assoc]
      rfl

/-- Names differ, so that the type that is found first is the only one of its name. -/
theorem extendType_eq_ok_iff {extension : Placed}
    (distinct : (types.map TypeDefinition.name).Nodup) :
    extendType extension types = .ok result ↔
      (∃ type ∈ types, extension.definition.Extends type) ∧
        result = types.map (·.extendedBy extension.definition) := by
  induction types generalizing result with
  | nil => simp [extendType]
  | cons type rest ih =>
    obtain ⟨new, distinct⟩ := List.nodup_cons.mp distinct
    rw [extendType_cons_eq_ok_iff, List.map_cons]
    by_cases named : type.name = extension.name
    · have kept : rest.map (·.extendedBy extension.definition) = rest := by
        refine (List.map_congr_left fun other member => ?_).trans (List.map_id rest)
        exact TypeDefinition.extendedBy_of_ne fun same =>
          new (List.mem_map.mpr ⟨other, member, same.trans named.symm⟩)
      rw [kept]
      constructor
      · rintro (⟨-, kind, extended, rfl⟩ | ⟨other, -⟩)
        · refine ⟨⟨type, List.mem_cons_self, named,
            TypeDefinition.exists_extend?_iff.mp ⟨kind, extended⟩⟩, ?_⟩
          rw [TypeDefinition.extendedBy_of_extend? named extended]
        · exact absurd named other
      · rintro ⟨⟨other, member, extends_⟩, rfl⟩
        have same : other = type := by
          rcases List.mem_cons.mp member with same | later
          · exact same
          · exact absurd (List.mem_map.mpr ⟨other, later, extends_.name.trans named.symm⟩) new
        obtain ⟨kind, extended⟩ := TypeDefinition.exists_extend?_iff.mpr (same ▸ extends_.kind)
        exact .inl ⟨named, kind, extended, by
          rw [TypeDefinition.extendedBy_of_extend? named extended]⟩
    · rw [TypeDefinition.extendedBy_of_ne named]
      constructor
      · rintro (⟨same, -⟩ | ⟨-, extended, later, rfl⟩)
        · exact absurd same named
        · obtain ⟨⟨other, member, extends_⟩, rfl⟩ := (ih distinct).mp later
          exact ⟨⟨other, List.mem_cons_of_mem _ member, extends_⟩, rfl⟩
      · rintro ⟨⟨other, member, extends_⟩, rfl⟩
        rcases List.mem_cons.mp member with rfl | later
        · exact absurd extends_.name named
        · exact .inr ⟨named, _, (ih distinct).mpr ⟨⟨other, later, extends_⟩, rfl⟩, rfl⟩

theorem extendTypes_eq_ok_iff {extensions : List Placed}
    (distinct : (types.map TypeDefinition.name).Nodup) :
    extendTypes types extensions = .ok result ↔
      (∀ extension ∈ extensions.map Placed.definition, ∃ type ∈ types, extension.Extends type) ∧
        result = types.map fun type =>
          (extensions.map Placed.definition).foldl TypeDefinition.extendedBy type := by
  induction extensions generalizing types with
  | nil => simp [extendTypes, eq_comm]
  | cons extension rest ih =>
    have distinct' : ((types.map (·.extendedBy extension.definition)).map
        TypeDefinition.name).Nodup := by
      simpa [Function.comp_def] using distinct
    have extended (other : TypeDefinition) :
        (∃ type ∈ types.map (·.extendedBy extension.definition), other.Extends type) ↔
          ∃ type ∈ types, other.Extends type := by
      simp [TypeDefinition.extends_extendedBy_iff]
    rw [extendTypes, bind_eq_ok_iff]
    simp only [extendType_eq_ok_iff distinct, and_assoc, exists_and_left, exists_eq_left,
      ih distinct', extended, List.map_map, List.map_cons, List.forall_mem_cons]
    rfl

/-! ## The schema -/

theorem checkRoot_eq_ok_iff {root? : Option String} : checkRoot types root? = .ok () ↔
    ∀ name, root? = some name → defines types name = true := by
  cases root? with
  | none => simp [checkRoot]
  | some name =>
    simp only [checkRoot, Option.some.injEq, forall_eq']
    split <;> simp_all

theorem defines_missingScalars {name : String} : defines (missingScalars types) name = true ↔
    name ∈ builtinScalars ∧ defines types name = false := by
  rw [defines_eq_isSome, find?_missingScalars]
  split <;> simp_all

/-- A root may be a type that is defined or a scalar that every schema has. -/
theorem defines_withScalars {name : String} :
    defines (types ++ missingScalars types) name = true ↔
      name ∈ builtinScalars ∨ ∃ type ∈ types, type.name = name := by
  rw [defines_append, Bool.or_eq_true, defines_missingScalars, ← defines_iff]
  cases defines types name <;> simp

variable {definitions : List Definition} {schema : Schema}

/-- What has to hold of definitions to make a schema of them. -/
structure Assemblable (definitions : List Definition) : Prop where
  distinct : ((Definition.types definitions).map TypeDefinition.name).Nodup
  extending : ∀ extension ∈ Definition.extensions definitions,
    ∃ type ∈ Definition.types definitions, extension.Extends type
  query : ∀ name, Definition.queryRoot? definitions = some name →
    name ∈ builtinScalars ∨ ∃ type ∈ Definition.types definitions, type.name = name
  subscription : ∀ name, Definition.subscriptionRoot? definitions = some name →
    name ∈ builtinScalars ∨ ∃ type ∈ Definition.types definitions, type.name = name

/-- The types that are defined, with what all extensions make of them. -/
def extendedTypes (definitions : List Definition) : List TypeDefinition :=
  (Definition.types definitions).map fun type =>
    (Definition.extensions definitions).foldl TypeDefinition.extendedBy type

/-- The schema of definitions that can be assembled. -/
def assembled (definitions : List Definition) : Schema where
  types := extendedTypes definitions ++ missingScalars (Definition.types definitions)
  queryRoot := (Definition.queryRoot? definitions).getD defaultQueryRoot
  subscriptionRoot? := (Definition.subscriptionRoot? definitions).or
    (if defines (Definition.types definitions) defaultSubscriptionRoot then
      some defaultSubscriptionRoot else none)

theorem names_extendedTypes (definitions : List Definition) :
    (extendedTypes definitions).map TypeDefinition.name =
      (Definition.types definitions).map TypeDefinition.name := by
  have named (extensions : List TypeDefinition) (type : TypeDefinition) :
      (extensions.foldl TypeDefinition.extendedBy type).name = type.name := by
    induction extensions generalizing type with
    | nil => rfl
    | cons extension rest ih => rw [List.foldl_cons, ih, TypeDefinition.name_extendedBy]
  rw [extendedTypes, List.map_map]
  exact List.map_congr_left fun type _ => named _ type

theorem missingScalars_extendedTypes (definitions : List Definition) :
    missingScalars (extendedTypes definitions) = missingScalars (Definition.types definitions) := by
  rw [missingScalars, missingScalars, defines_congr (names_extendedTypes definitions)]

/-- A name is among all types if it is that of a definition or of a built-in scalar. -/
theorem defines_assembled {name : String} : defines (assembled definitions).types name = true ↔
    name ∈ builtinScalars ∨ ∃ type ∈ Definition.types definitions, type.name = name := by
  rw [assembled, defines_append, defines_congr (names_extendedTypes definitions),
    ← defines_append, defines_withScalars]

theorem defines_default : defines (assembled definitions).types defaultSubscriptionRoot =
    defines (Definition.types definitions) defaultSubscriptionRoot := by
  rw [Bool.eq_iff_iff, defines_assembled, defines_iff, or_iff_right (by decide)]

theorem checkRoot_assembled_iff {root? : Option String} :
    checkRoot (assembled definitions).types root? = .ok () ↔ ∀ name, root? = some name →
      name ∈ builtinScalars ∨ ∃ type ∈ Definition.types definitions, type.name = name := by
  simp only [checkRoot_eq_ok_iff, defines_assembled]

/-- Types, extensions and roots each leave a condition, and what is made of them is all
that the schema has. -/
theorem assemble_eq_ok_iff : assemble definitions = .ok schema ↔
    Assemblable definitions ∧ schema = assembled definitions := by
  have taken {defined} : addTypes [] (definitions.filterMap Definition.type?) = .ok defined ↔
      ((Definition.types definitions).map TypeDefinition.name).Nodup ∧
        defined = Definition.types definitions := addTypes_eq_ok_iff List.nodup_nil
  have applied {extended} (distinct : ((Definition.types definitions).map
      TypeDefinition.name).Nodup) : extendTypes (Definition.types definitions)
        (definitions.filterMap Definition.extension?) = .ok extended ↔
      (∀ extension ∈ Definition.extensions definitions,
        ∃ type ∈ Definition.types definitions, extension.Extends type) ∧
        extended = extendedTypes definitions := extendTypes_eq_ok_iff distinct
  have complete : extendedTypes definitions ++ missingScalars (extendedTypes definitions) =
      (assembled definitions).types := by
    rw [missingScalars_extendedTypes]
    rfl
  rw [assemble_eq]
  constructor
  · intro h
    obtain ⟨_, types, h⟩ := bind_eq_ok_iff.mp h
    obtain ⟨distinct, rfl⟩ := taken.mp types
    obtain ⟨_, extensions, h⟩ := bind_eq_ok_iff.mp h
    obtain ⟨extending, rfl⟩ := (applied distinct).mp extensions
    obtain ⟨_, query, h⟩ := bind_eq_ok_iff.mp h
    obtain ⟨_, subscription, h⟩ := bind_eq_ok_iff.mp h
    rw [complete] at query subscription h
    rw [defines_default] at h
    cases h
    exact ⟨⟨distinct, extending, checkRoot_assembled_iff.mp query,
      checkRoot_assembled_iff.mp subscription⟩, rfl⟩
  · rintro ⟨h, rfl⟩
    refine bind_eq_ok_iff.mpr ⟨_, taken.mpr ⟨h.distinct, rfl⟩, ?_⟩
    refine bind_eq_ok_iff.mpr ⟨_, (applied h.distinct).mpr ⟨h.extending, rfl⟩, ?_⟩
    rw [complete]
    refine bind_eq_ok_iff.mpr ⟨(), checkRoot_assembled_iff.mpr h.query, ?_⟩
    refine bind_eq_ok_iff.mpr ⟨(), checkRoot_assembled_iff.mpr h.subscription, ?_⟩
    rw [defines_default]
    rfl

/-! ## Types and roots of the schema -/

theorem find?_of_nodup (distinct : (types.map TypeDefinition.name).Nodup) {type : TypeDefinition}
    (member : type ∈ types) : types.find? (·.name = type.name) = some type := by
  induction types with
  | nil => cases member
  | cons first rest ih =>
    obtain ⟨new, distinct⟩ := List.nodup_cons.mp distinct
    rw [List.find?_cons]
    rcases List.mem_cons.mp member with rfl | later
    · simp
    · have other : first.name ≠ type.name := fun same =>
        new (List.mem_map.mpr ⟨type, later, same.symm⟩)
      simp [other, ih distinct later]

theorem nodup_names_assembled (h : Assemblable definitions) :
    ((assembled definitions).types.map TypeDefinition.name).Nodup := by
  have scalars : (missingScalars (Definition.types definitions)).map TypeDefinition.name =
      builtinScalars.filter (!defines (Definition.types definitions) ·) := by
    rw [missingScalars, List.map_map]
    exact List.map_id _
  rw [assembled, List.map_append, names_extendedTypes, scalars, List.nodup_append]
  refine ⟨h.distinct, List.Nodup.filter _ (by decide), ?_⟩
  intro name defined other missing same
  obtain ⟨type, member, rfl⟩ := List.mem_map.mp defined
  have undefined := (List.mem_filter.mp missing).2
  rw [← same, defines_iff.mpr ⟨type, member, rfl⟩] at undefined
  cases undefined

/-- What a schema has that is assembled of some definitions. -/
structure IsAssembledOf (schema : Schema) (definitions : List Definition) : Prop where
  distinct : (schema.types.map TypeDefinition.name).Nodup
  types : schema.types = extendedTypes definitions ++
    (builtinScalars.filter
        (· ∉ (Definition.types definitions).map TypeDefinition.name)).map
      fun name => { name, kind := .scalar }
  found : ∀ type ∈ schema.types, schema.type? type.name = some type
  query : schema.queryRoot = (Definition.queryRoot? definitions).getD "Query"
  /-- The root that is named last, or else the type of the default name if it is defined. -/
  subscription : schema.subscriptionType?.map TypeDefinition.name =
    (Definition.subscriptionRoot? definitions).or
      (if "Subscription" ∈ (Definition.types definitions).map TypeDefinition.name then
        some "Subscription" else none)

/-- A root that is named has been looked up, and the default one is taken if it is there. -/
theorem name_subscriptionType? (h : Assemblable definitions) :
    (assembled definitions).subscriptionType?.map TypeDefinition.name =
      (assembled definitions).subscriptionRoot? := by
  cases root : (assembled definitions).subscriptionRoot? with
  | none => rw [subscriptionType?, root, Option.bind_none, Option.map_none]
  | some name =>
    have known : defines (assembled definitions).types name = true := by
      rcases Option.or_eq_some_iff.mp root with named | ⟨-, default⟩
      · exact defines_assembled.mpr (h.subscription name named)
      · rw [Option.ite_none_right_eq_some, Option.some.injEq] at default
        obtain ⟨defined, rfl⟩ := default
        rw [defines_default, defined]
    rw [defines_eq_isSome, Option.isSome_iff_exists] at known
    obtain ⟨type, found⟩ := known
    rw [subscriptionType?, root, Option.bind_some, type?, found, Option.map_some,
      name_of_type? found]

theorem isAssembledOf_assembled (h : Assemblable definitions) :
    (assembled definitions).IsAssembledOf definitions where
  distinct := nodup_names_assembled h
  types := by
    simp only [assembled, missingScalars, defines_eq_decide, decide_not]
  found := fun _ => find?_of_nodup (nodup_names_assembled h)
  query := rfl
  subscription := by
    rw [name_subscriptionType? h]
    simp only [assembled, defines_eq_decide, decide_eq_true_iff, defaultSubscriptionRoot]

/-- When a schema is assembled and what it then has; and how types, extensions and roots
are mixed decides neither about the schema nor about the error. -/
theorem assemble_spec (definitions : List Definition) :
    (∀ text, Definition.parseAll text = .ok definitions → parse text = assemble definitions) ∧
      ((∃ schema, assemble definitions = .ok schema) ↔ Assemblable definitions) ∧
      (∀ schema, assemble definitions = .ok schema → schema.IsAssembledOf definitions) ∧
      ∀ others, Definition.SameGroups definitions others →
        assemble others = assemble definitions := by
  refine ⟨?_, ?_, ?_, ?_⟩
  · intro text read
    rw [parse, read]
  · simp only [assemble_eq_ok_iff, exists_and_left, exists_eq, and_true]
  · intro schema h
    obtain ⟨assemblable, rfl⟩ := assemble_eq_ok_iff.mp h
    exact isAssembledOf_assembled assemblable
  · intro others same
    rw [assemble_eq, assemble_eq, same.types, same.extensions, same.roots]

end Schema

/-! ## A feed of orders -/

namespace Feed

def object (name : String) (fields : List (String × String)) : TypeDefinition :=
  { name
    kind := .object [] (fields.map fun field =>
      { name := field.1, type := .named field.2 true, arguments := [] }) }

def order : Definition := .type ⟨3, 1⟩ (object "Order" [("id", "ID")])

def feed : Definition := .type ⟨4, 1⟩ (object "Feed" [("order", "Order")])

def priced : Definition := .extension ⟨1, 1⟩ (object "Order" [("price", "Int")])

def subscription (name : String) : Definition :=
  .roots { query? := none, mutation? := none, subscription? := some name }

/-- An extension that comes before its type, and two names of the root. -/
def mixed : List Definition :=
  [priced, subscription "Missing", order, .directive, feed, subscription "Feed"]

def grouped : List Definition :=
  [order, feed, priced, subscription "Missing", subscription "Feed"]

theorem assemblable_mixed : Schema.Assemblable mixed where
  distinct := by decide
  extending := by
    intro extension member
    cases List.mem_singleton.mp member
    exact ⟨_, List.mem_cons_self, rfl, .inl ⟨⟨_, _, rfl⟩, _, _, rfl⟩⟩
  query := nofun
  subscription := by
    rintro name ⟨⟩
    exact .inr ⟨_, List.mem_cons_of_mem _ List.mem_cons_self, rfl⟩

end Feed

/-- The root that is named first is not there, which does not matter. -/
theorem assemble_spec_on_feed :
    Schema.Assemblable Feed.mixed ∧ Definition.SameGroups Feed.mixed Feed.grouped ∧
      ∃ schema, Schema.assemble Feed.mixed = .ok schema ∧
        Schema.assemble Feed.grouped = .ok schema ∧
        schema.subscriptionType?.map TypeDefinition.name = some "Feed" ∧
        schema.types.map TypeDefinition.name =
          ["Order", "Feed", "Int", "Float", "String", "Boolean", "ID"] := by
  have same : Definition.SameGroups Feed.mixed Feed.grouped := ⟨rfl, rfl, rfl⟩
  obtain ⟨-, assembles, has, mixes⟩ := Schema.assemble_spec Feed.mixed
  obtain ⟨schema, assembled⟩ := assembles.mpr Feed.assemblable_mixed
  refine ⟨Feed.assemblable_mixed, same, schema, assembled, ?_, ?_, ?_⟩
  · rw [mixes _ same, assembled]
  · exact (has schema assembled).subscription
  · rw [(has schema assembled).types]
    rfl

end WebhookPayload
