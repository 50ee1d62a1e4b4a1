import WebhookPayload.Proofs.Answerable
import WebhookPayload.Proofs.ArgumentBinding
import WebhookPayload.Proofs.Expansion
import WebhookPayload.Proofs.SelectionSets

/-! # Fields as they are declared

`Schema.Declares` tells a selected field from the schema alone: which type has to declare
it, what it is given and whether it has fields below. Inlining drops conditions and the
nesting of fragments, but the last condition that is recorded still names the container
(`getLast?_narrow`), and something is left of every selection set. So the tree of a valid
subscription is as the schema declares it, from the root on (`validated_as_declared`). -/

namespace WebhookPayload

open GraphQL

namespace SelectedField

/-- The arguments of a field are declared, in the order of their definitions, and those
that exclude null have a value. -/
structure FitsArguments (field : SelectedField) (definitions : List ArgumentDefinition) : Prop where
  inOrder : (field.arguments.map Prod.fst).Sublist (definitions.map ArgumentDefinition.name)
  present : ∀ definition ∈ definitions, definition.type.nullable = false →
    ∃ value, field.argument? definition.name = some value ∧ value.isNull = false

/-- A field has fields below exactly if its values are to have some. -/
structure FitsType (field : SelectedField) (type : TypeDefinition) : Prop where
  leaf : field.subfields = [] ↔ type.isLeaf = true
  composite : field.subfields ≠ [] ↔ type.isComposite = true

end SelectedField

namespace Schema

/-- Every field declares each of its arguments once. -/
def DistinctArguments (schema : Schema) : Prop :=
  ∀ type ∈ schema.types, ∀ field ∈ type.kind.fields,
    (field.arguments.map ArgumentDefinition.name).Nodup

instance (schema : Schema) : Decidable schema.DistinctArguments :=
  inferInstanceAs (Decidable (∀ type ∈ schema.types, ∀ field ∈ type.kind.fields, _))

/-- The type that declares a field selected where a type is expected: the type of the last
condition if there is one, or else the expected type. -/
def container? (schema : Schema) (expected : String) (field : SelectedField) :
    Option TypeDefinition :=
  schema.type? (field.conditions.getLast?.getD expected)

/-- A field, selected where a type is expected, is as the schema declares it, and so are
all fields below it. -/
inductive Declares (schema : Schema) : String → SelectedField → Prop
  | typename {expected field} (named : field.name = typenameField) (plain : field.arguments = [])
      (ends : field.subfields = []) : Declares schema expected field
  | declared {expected field container definition type} (named : field.name ≠ typenameField)
      (within : schema.container? expected field = some container)
      (declared : container.field? field.name = some definition)
      (defined : schema.type? definition.type.underlying = some type)
      (fitsType : field.FitsType type) (fitsArguments : field.FitsArguments definition.arguments)
      (below : ∀ sub ∈ field.subfields, Declares schema definition.type.underlying sub) :
      Declares schema expected field

theorem DistinctArguments.nodup {schema : Schema} (distinct : schema.DistinctArguments)
    {container : TypeDefinition} (known : schema.type? container.name = some container)
    {name : String} {definition : FieldDefinition}
    (declared : container.field? name = some definition) :
    (definition.arguments.map ArgumentDefinition.name).Nodup :=
  distinct container (mem_of_type? known) definition (List.mem_of_find?_eq_some declared)

end Schema

theorem GraphQL.TypeDefinition.isComposite_eq_false_of_isLeaf {type : TypeDefinition}
    (h : type.isLeaf = true) : type.isComposite = false := by
  refine Bool.eq_false_iff.mpr fun composite => ?_
  rw [isLeaf_eq_false_of_isComposite composite] at h
  cases h

theorem SelectedField.fitsType_of_isLeaf {field : SelectedField} {type : TypeDefinition}
    (kind : type.isLeaf = true) (ends : field.subfields = []) : field.FitsType type where
  leaf := iff_of_true ends kind
  composite := iff_of_false (not_not_intro ends)
    (by simp [TypeDefinition.isComposite_eq_false_of_isLeaf kind])

theorem SelectedField.fitsType_of_isComposite {field : SelectedField} {type : TypeDefinition}
    (kind : type.isComposite = true) (kept : field.subfields ≠ []) : field.FitsType type where
  leaf := iff_of_false kept (by simp [TypeDefinition.isLeaf_eq_false_of_isComposite kind])
  composite := iff_of_true kept kind

/-- Where the conditions so far give the container, it has to declare what is selected. -/
theorem Schema.container?_eq {schema : Schema} {expected : String} {field : SelectedField}
    {container : TypeDefinition}
    (within : field.conditions.getLast?.getD expected = container.name)
    (known : schema.type? container.name = some container) :
    schema.container? expected field = some container := by
  rw [container?, within, known]

/-! ## Arguments -/

section Arguments

variable {known : Variables} {head : FieldHead} {definitions : List ArgumentDefinition}

/-- An entry is bound under the name of its definition; definitions without a value are
passed over. -/
theorem keys_entries_sublist (known : Variables) (head : FieldHead)
    (definitions : List ArgumentDefinition) :
    ((head.entries known definitions).map Prod.fst).Sublist
      (definitions.map ArgumentDefinition.name) := by
  induction definitions with
  | nil => exact List.Sublist.slnil
  | cons definition rest ih =>
    rw [FieldHead.entries, List.filterMap_cons, ArgumentDefinition.entry?]
    cases definition.value? known (head.argument? definition.name) with
    | none => exact ih.cons _
    | some value => exact ih.cons_cons _

theorem fitsArguments_of_bound (distinct : (definitions.map ArgumentDefinition.name).Nodup)
    {bound : List (String × Literal)} (h : bindArguments known head definitions = .ok bound)
    (conditions : List String) (subfields : List SelectedField) :
    (head.selected conditions bound subfields).FitsArguments definitions := by
  rw [bindArguments_eq_settle distinct] at h
  obtain ⟨⟨sound, declared⟩, rfl⟩ := settle_eq_ok_iff.mp h
  have binds := binds_iff.mpr ⟨List.findSome?_eq_none_iff.mp sound, declared⟩
  have inOrder := keys_entries_sublist known head definitions
  refine ⟨inOrder, fun definition member required => ?_⟩
  obtain ⟨value, given, present⟩ := binds.present definition member required
  refine ⟨value, (lookup_eq_some_iff_mem (inOrder.nodup distinct)).mpr ?_, present⟩
  exact List.mem_filterMap.mpr ⟨definition, member, by rw [ArgumentDefinition.entry?, given]; rfl⟩

end Arguments

/-! ## What inlining records -/

/-- Inside a fragment the last condition still names the container: if none is recorded,
it is the container's own. -/
theorem getLast?_narrow {container : TypeDefinition} {conditions : List String} {expected : String}
    (within : conditions.getLast?.getD expected = container.name) (condition : TypeCondition) :
    (narrow container conditions condition).getLast?.getD expected = condition.typeName := by
  unfold narrow
  split
  · rename_i same
    rw [within, same]
  · rw [List.getLast?_concat, Option.getD_some]

/-- Inlined fields are as they are declared, where a type is expected that together with
the conditions so far gives the container. -/
theorem Inlines.declares {scope : Scope} (distinct : scope.schema.DistinctArguments)
    (fragments : scope.Filled) {container : TypeDefinition} {conditions active : List String}
    {selections : List Selection} {fields : List SelectedField}
    (h : Inlines scope container conditions active selections fields)
    (filled : Selection.allFilled selections = true)
    (known : scope.schema.type? container.name = some container) {expected : String}
    (within : conditions.getLast?.getD expected = container.name) :
    ∀ field ∈ fields, scope.schema.Declares expected field := by
  induction h generalizing expected with
  | nil => simp
  | cons _ _ one all =>
    obtain ⟨first, rest⟩ := Selection.allFilled_cons.mp filled
    intro field member
    rcases List.mem_append.mp member with member | member
    · exact one (Selection.allFilled_singleton.mpr first) known within field member
    · exact all rest known within field member
  | typename named _ =>
    intro field member
    cases List.mem_singleton.mp member
    exact .typename named rfl rfl
  | leaf named declared defined kind bound =>
    intro field member
    cases List.mem_singleton.mp member
    exact .declared named (Schema.container?_eq within known) declared defined
      (SelectedField.fitsType_of_isLeaf kind rfl)
      (fitsArguments_of_bound (distinct.nodup known declared) bound _ _) nofun
  | composite named declared defined kind nonempty inside bound below =>
    intro field member
    cases List.mem_singleton.mp member
    have inner := Selection.filled_field.mp (Selection.allFilled_singleton.mp filled)
    have kept := inside.ne_nil fragments ⟨nonempty, inner⟩
    exact .declared named (Schema.container?_eq within known) declared defined
      (SelectedField.fitsType_of_isComposite kind kept)
      (fitsArguments_of_bound (distinct.nodup known declared) bound _ _)
      (below inner (Schema.type?_self defined) (Schema.name_of_type? defined).symm)
  | spread _ found defined _ _ inside =>
    exact inside (fragments _ _ found).2 (Schema.type?_self defined)
      ((getLast?_narrow within _).trans (Schema.name_of_type? defined).symm)
  | unconditional _ inside =>
    have only := Selection.allFilled_singleton.mp filled
    exact inside (Selection.filled_inlineFragment.mp only).2 known within
  | conditional defined _ _ inside =>
    have only := Selection.allFilled_singleton.mp filled
    exact inside (Selection.filled_inlineFragment.mp only).2 (Schema.type?_self defined)
      ((getLast?_narrow within _).trans (Schema.name_of_type? defined).symm)

/-! ## Subscriptions -/

/-- The tree of a subscription is as the schema declares it, from the root on. -/
def Subscription.AsDeclared (schema : Schema) (subscription : Subscription) : Prop :=
  ∃ root, schema.subscriptionType? = some root ∧ schema.Declares root.name subscription.field

theorem GraphQL.Document.Filled.scope {document : Document} (filled : document.Filled)
    {schema : Schema} {operation : OperationDefinition} :
    (operationScope schema document operation).Filled :=
  fun name fragment found => filled.fragments (name, fragment) (Scope.mem_of_fragment? found)

/-- Every document that is read is free of empty selection sets. Of each such document, if
arguments are declared once, the subscription is as declared. -/
theorem validated_as_declared {schema : Schema} (distinct : schema.DistinctArguments) :
    (∀ text document, Document.parse text = .ok document → document.Filled) ∧
    ∀ document : Document, document.Filled → ∀ subscription,
      schema.validate document = .ok subscription → subscription.AsDeclared schema := by
  refine ⟨fun _ _ => Document.filled_of_parse, ?_⟩
  intro document filled subscription validated
  obtain ⟨operation, root, single, rooted, -, inlined, -⟩ := validate_eq_ok_iff.mp validated
  obtain ⟨only, -, -⟩ := singleSubscription?_eq_some_iff.mp single
  obtain ⟨name, -, known⟩ := Option.bind_eq_some_iff.mp rooted
  have selections := filled.operations (subscription.name?, operation) (by simp [only])
  have fields := inlined.declares distinct filled.scope selections.2 (Schema.type?_self known) rfl
  exact ⟨root, rooted, fields _ (List.mem_singleton_self _)⟩

/-! ## A product with a thumbnail -/

namespace Thumbnail

def thumbnailField : FieldDefinition :=
  { name := "thumbnail", type := .named "Image" true, arguments := definitions }

/-- `type Product implements Pictured`, where both declare `thumbnail`. -/
def schema : Schema :=
  { types := [
      { name := "Subscription", kind := .object [] [Shop.field "product" (.named "Product" true)] },
      { name := "Pictured", kind := .interface [] [thumbnailField] },
      { name := "Product", kind := .object ["Pictured"] [thumbnailField] },
      { name := "Image", kind := .object [] [Shop.field "url" (.named "String" true)] },
      { name := "Size", kind := .enum ["SMALL", "LARGE"] },
      { name := "Boolean", kind := .scalar },
      { name := "String", kind := .scalar }]
    queryRoot := "Query"
    subscriptionRoot? := some "Subscription" }

def query : String :=
  "subscription { product { ...pictured } } fragment pictured on Pictured \x7b __typename " ++
    "... on Product \x7b thumbnail(size: null, channel: \"web\") { url } \x7d \x7d"

def thumbnailHead : FieldHead :=
  { position := ⟨1, 102⟩
    alias? := none
    name := "thumbnail"
    arguments := [⟨"size", .null, ⟨1, 118⟩⟩, ⟨"channel", .string "web", ⟨1, 133⟩⟩] }

def picturedFragment : FragmentDefinition :=
  { position := ⟨1, 42⟩
    condition := Shop.condition 63 "Pictured"
    selections := [.field (Shop.head 74 "__typename") [],
      .inlineFragment (some (Shop.condition 92 "Product"))
        [.field thumbnailHead [.field (Shop.head 142 "url") []]]] }

def document : Document :=
  { operations := .anonymous (Shop.operationOf
      [.field (Shop.head 16 "product") [.spread ⟨1, 26⟩ "pictured"]])
    fragments := [("pictured", picturedFragment)] }

/-- The thumbnail has two conditions; the last one names the type that declares it. -/
def subscription : Subscription :=
  { name? := none
    field := (Shop.head 16 "product").selected [] []
      [(Shop.head 74 "__typename").selected ["Pictured"] [] [],
        thumbnailHead.selected ["Pictured", "Product"]
          [("channel", .string "web"), ("size", .null), ("crop", .boolean true)]
          [(Shop.head 142 "url").selected [] [] []]] }

end Thumbnail

theorem validated_as_declared_on_thumbnail :
    Thumbnail.schema.DistinctArguments ∧
      Document.parse Thumbnail.query = .ok Thumbnail.document ∧
      Thumbnail.document.Filled ∧
      Thumbnail.schema.validate Thumbnail.document = .ok Thumbnail.subscription ∧
      Thumbnail.subscription.AsDeclared Thumbnail.schema := by
  have validated : Thumbnail.schema.validate Thumbnail.document = .ok Thumbnail.subscription := by
    cbv
  have distinct : Thumbnail.schema.DistinctArguments := by decide
  have read : Document.parse Thumbnail.query = .ok Thumbnail.document := by cbv
  obtain ⟨everywhere, declared⟩ := validated_as_declared distinct
  have filled := everywhere _ _ read
  exact ⟨distinct, read, filled, validated, declared _ filled _ validated⟩

end WebhookPayload
