import Mathlib.Data.List.Induction
import Mathlib.Data.List.Nodup
import WebhookPayload.Payload
import WebhookPayload.Proofs.Expansion

/-! # The order of maps

The operations and the fragments of a document and the values of variables are kept in
maps, and nothing says in which order a map goes through its entries. What a query is
validated to, and the payload that is generated of it, are the same in every order
(`generated_in_any_order`). -/

namespace WebhookPayload

open GraphQL

/-! ## Orders -/

/-- The order in which each map goes through its entries. -/
structure MapOrder where
  operations : List (String × OperationDefinition) → List (String × OperationDefinition)
  fragments : List (String × FragmentDefinition) → List (String × FragmentDefinition)
  variableValues : Variables → Variables
  operations_perm : ∀ entries, (operations entries).Perm entries
  fragments_perm : ∀ entries, (fragments entries).Perm entries
  variableValues_perm : ∀ entries, (variableValues entries).Perm entries

namespace GraphQL

/-- The operations as they are gone through in an order. -/
def Operations.inOrder (order : MapOrder) : Operations → Operations
  | anonymous operation => anonymous operation
  | named operations => named (order.operations operations)

def Document.inOrder (order : MapOrder) (document : Document) : Document where
  operations := document.operations.inOrder order
  fragments := order.fragments document.fragments

end GraphQL

/-- Validation of a document that goes through its maps in an order. -/
def Schema.validateIn (order : MapOrder) (schema : Schema) (document : Document) :
    Except QueryError Subscription :=
  schema.validateWith (fun definitions => order.variableValues <$> defaultVariables definitions)
    (document.inOrder order)

def Schema.prepareIn (order : MapOrder) (schema : Schema) (query : String) :
    Except QueryError Subscription :=
  Schema.prepareWith (schema.validateIn order) query

/-- Generation of a payload for a query that is validated with its maps in an order. -/
def Engine.generateIn (order : MapOrder) (engine : Engine) (event : Event) (query : String)
    (context : Context) (owner? : Option App) : Generation :=
  engine.generatePrepared event (engine.schema.prepareIn order query) context owner?

/-! ## Looking up -/

/-- Where keys differ, an entry is found wherever it stands. -/
theorem lookup_eq_of_perm {α : Type} {entries others : List (String × α)}
    (h : entries.Perm others) (distinct : (others.map Prod.fst).Nodup) (key : String) :
    entries.lookup key = others.lookup key := by
  have distinct' : (entries.map Prod.fst).Nodup := (h.map Prod.fst).nodup_iff.mpr distinct
  ext value
  rw [lookup_eq_some_iff_mem distinct, lookup_eq_some_iff_mem distinct', h.mem_iff]

theorem keys_setMember (key : String) (value : Literal) (known : Variables) :
    (Value.setMember key value known).map Prod.fst =
      if key ∈ known.map Prod.fst then known.map Prod.fst else known.map Prod.fst ++ [key] := by
  induction known with
  | nil => rfl
  | cons entry rest ih =>
    obtain ⟨name, other⟩ := entry
    rw [Value.setMember]
    by_cases same : name = key
    · simp [same]
    · rw [if_neg same, List.map_cons, ih]
      by_cases member : key ∈ rest.map Prod.fst <;> simp [member, Ne.symm same]

/-- A variable has one value, however often it is defined. -/
theorem nodup_standingValues (definitions : List VariableDefinition) :
    ((standingValues [] definitions).map Prod.fst).Nodup := by
  induction definitions using List.reverseRecOn with
  | nil => exact List.nodup_nil
  | append_singleton definitions definition ih =>
    rw [standingValues, List.foldl_append, List.foldl_cons, List.foldl_nil, keys_setMember]
    split
    · exact ih
    · rename_i fresh
      exact List.nodup_append_comm.mp (List.nodup_cons.mpr ⟨fresh, ih⟩)

/-! ## Documents that are read -/

theorem nodup_addFragment {known result : List (String × FragmentDefinition)} {name : String}
    {fragment : FragmentDefinition} (distinct : (known.map Prod.fst).Nodup)
    (h : addFragment known name fragment = .ok result) : (result.map Prod.fst).Nodup := by
  unfold addFragment at h
  split at h
  · cases h
  · rename_i unknown
    cases h
    have fresh : name ∉ known.map Prod.fst := by
      intro member
      obtain ⟨entry, present, rfl⟩ := List.mem_map.mp member
      have other := List.lookup_eq_none_iff.mp unknown entry present
      simp at other
    rw [List.map_append, List.nodup_append_comm]
    exact List.nodup_cons.mpr ⟨fresh, distinct⟩

/-- Fragments of a document that is read have different names. -/
theorem nodup_fragments_of_collect {operations? : Option Operations}
    {known : List (String × FragmentDefinition)} {items : List Reader.DocumentItem}
    {document : Document} (distinct : (known.map Prod.fst).Nodup)
    (h : Document.collect operations? known items = .ok document) :
    (document.fragments.map Prod.fst).Nodup := by
  induction items generalizing operations? known with
  | nil =>
    cases operations? with
    | none => cases h
    | some operations =>
      cases h
      exact distinct
  | cons item rest ih =>
    cases item with
    | operation name? definition =>
      obtain ⟨operations, -, later⟩ := bind_eq_ok_iff.mp h
      exact ih distinct later
    | fragment name definition =>
      obtain ⟨fragments, added, later⟩ := bind_eq_ok_iff.mp h
      exact ih (nodup_addFragment distinct added) later

theorem nodup_fragments_of_parse {query : String} {document : Document}
    (h : Document.parse query = .ok document) : (document.fragments.map Prod.fst).Nodup := by
  obtain ⟨items, -, collected⟩ := bind_eq_ok_iff.mp h
  have distinct : (([] : List (String × FragmentDefinition)).map Prod.fst).Nodup := List.nodup_nil
  exact nodup_fragments_of_collect distinct collected

/-! ## Inlining -/

/-- Scopes of one schema in which each name stands for the same. -/
structure Scope.SameNames (scope other : Scope) : Prop where
  schema : other.schema = scope.schema
  values : ∀ name, other.variableValues.lookup name = scope.variableValues.lookup name
  fragments : ∀ name, other.fragment? name = scope.fragment? name

/-- Arguments are bound by what variables are looked up as. -/
theorem bindArguments_congr {known other : Variables}
    (same : ∀ name, other.lookup name = known.lookup name) (head : FieldHead)
    (definitions : List ArgumentDefinition) :
    bindArguments other head definitions = bindArguments known head definitions := by
  have resolved : resolveVariables other = resolveVariables known := by
    funext argument
    simp only [resolveVariables, same]
  have value : argumentValue? other = argumentValue? known := by
    funext supplied definition
    simp only [argumentValue?, resolved]
  unfold bindArguments
  generalize suppliedArguments head = supplied, ([] : List (String × Literal)) = bound
  induction definitions generalizing supplied bound with
  | nil => rfl
  | cons definition rest ih => simp only [bindFrom, value, ih]

theorem Scope.SameNames.conditionType_eq {scope other : Scope} (h : scope.SameNames other)
    (condition : TypeCondition) :
    other.conditionType condition = scope.conditionType condition := by
  rw [Scope.conditionType, Scope.conditionType, h.schema]

/-- Fields and errors are the same in scopes that have the same names, since maps are only
looked up. -/
theorem Scope.SameNames.inlineSelections_eq {scope other : Scope} (h : scope.SameNames other)
    (container : TypeDefinition) (conditions active : List String) (selections : List Selection) :
    inlineSelections other container conditions active selections =
      inlineSelections scope container conditions active selections := by
  match selections with
  | [] => rw [inlineSelections, inlineSelections]
  | .field head inner :: rest =>
    have below := fun type => h.inlineSelections_eq type [] active inner
    rw [inlineSelections, inlineSelections, h.inlineSelections_eq _ _ _ rest, inlineSelection,
      inlineSelection]
    unfold Scope.fieldType
    simp only [h.schema, below, bindArguments_congr h.values]
  | .spread position name :: rest =>
    rw [inlineSelections, inlineSelections, h.inlineSelections_eq _ _ _ rest]
    by_cases cycle : name ∈ active
    · rw [inlineSelection_cycle cycle, inlineSelection_cycle cycle]
    · cases found : scope.fragment? name with
      | none =>
        have missing := (h.fragments name).trans found
        rw [inlineSelection_missing cycle missing, inlineSelection_missing cycle found]
      | some fragment =>
        have := unused_cons_lt found cycle
        have below := fun type conditions =>
          h.inlineSelections_eq type conditions (name :: active) fragment.selections
        rw [inlineSelection_spread cycle ((h.fragments name).trans found),
          inlineSelection_spread cycle found, inlineSelection, inlineSelection, h.conditionType_eq]
        simp only [below]
  | .inlineFragment none inner :: rest =>
    rw [inlineSelections, inlineSelections, h.inlineSelections_eq _ _ _ rest, inlineSelection,
      inlineSelection, h.inlineSelections_eq _ _ _ inner]
  | .inlineFragment (some condition) inner :: rest =>
    have below := fun type conditions => h.inlineSelections_eq type conditions active inner
    rw [inlineSelections, inlineSelections, h.inlineSelections_eq _ _ _ rest, inlineSelection,
      inlineSelection, h.conditionType_eq]
    simp only [below]
termination_by (scope.unused active, sizeOf selections)

/-! ## Validation -/

section

variable (order : MapOrder) (document : Document)

theorem entries_inOrder_perm :
    (document.inOrder order).operations.entries.Perm document.operations.entries := by
  unfold Document.inOrder
  cases document.operations with
  | anonymous operation => exact .refl _
  | named operations => exact (order.operations_perm operations).map _

/-- The search goes through all operations and all fragments, in any order of both. -/
theorem isSingleSubscription_inOrder :
    (document.inOrder order).isSingleSubscription = document.isSingleSubscription :=
  DocumentPart.areSingle_of_perm
    (((entries_inOrder_perm order document).map _).append
      ((order.fragments_perm document.fragments).map _)) 0

/-- The next operation is taken only where it is the only one. -/
theorem singleSubscription?_inOrder :
    (document.inOrder order).singleSubscription? = document.singleSubscription? := by
  have entries := entries_inOrder_perm order document
  unfold Document.singleSubscription?
  rw [isSingleSubscription_inOrder]
  split
  · rename_i single
    obtain ⟨name?, operation, only, -⟩ := Document.isSingleSubscription_iff.mp single
    rw [only] at entries ⊢
    rw [List.perm_singleton.mp entries]
  · rfl

variable {document}

/-- The scope of an operation has the same names in every order. -/
theorem sameNames_inOrder (schema : Schema) (operation : OperationDefinition)
    (distinct : (document.fragments.map Prod.fst).Nodup) :
    (operationScope schema document operation).SameNames
      { schema
        variableValues := order.variableValues (standingValues [] operation.variableDefinitions)
        fragments := (document.inOrder order).fragments } where
  schema := rfl
  values := lookup_eq_of_perm (order.variableValues_perm _) (nodup_standingValues _)
  fragments := lookup_eq_of_perm (order.fragments_perm _) distinct

theorem validateIn_eq_validate (schema : Schema)
    (distinct : (document.fragments.map Prod.fst).Nodup) :
    schema.validateIn order document = schema.validate document := by
  have single := singleSubscription?_inOrder order document
  refine validateWith_congr (single.trans Option.map_id'.symm) fun entry _ root => ?_
  obtain ⟨name?, operation⟩ := entry
  cases values : defaultVariables operation.variableDefinitions with
  | error error => rfl
  | ok values =>
    obtain ⟨-, rfl⟩ := addDefaults_eq_ok_iff.mp values
    exact (sameNames_inOrder order schema operation distinct).inlineSelections_eq
      root [] [] operation.selections

theorem prepareIn_eq_prepare (schema : Schema) (query : String) :
    schema.prepareIn order query = schema.prepare query := by
  unfold Schema.prepareIn Schema.prepare Schema.prepareWith
  cases read : Document.parse query with
  | error cause => rfl
  | ok document => exact validateIn_eq_validate order schema (nodup_fragments_of_parse read)

end

/-- Whatever the order is in which maps are gone through, a document holds a single
subscription or not, is valid or not for the same reason, and comes to the same subscription;
and for a query everything is generated that is generated in the order of writing. -/
theorem generated_in_any_order (order : MapOrder) (schema : Schema) :
    (∀ document : Document, (document.fragments.map Prod.fst).Nodup →
      (document.inOrder order).isSingleSubscription = document.isSingleSubscription ∧
        schema.validateIn order document = schema.validate document) ∧
      ∀ resolvers event query context owner?,
        (Engine.mk schema resolvers).generateIn order event query context owner? =
          (Engine.mk schema resolvers).generate event query context owner? := by
  refine ⟨fun document distinct => ?_, fun resolvers event query context owner? => ?_⟩
  · exact ⟨isSingleSubscription_inOrder order document,
      validateIn_eq_validate order schema distinct⟩
  · rw [Engine.generateIn, prepareIn_eq_prepare]
    rfl

/-! ## A query from its end -/

/-- Every map from its last entry to its first. -/
def MapOrder.reversed : MapOrder where
  operations := List.reverse
  fragments := List.reverse
  variableValues := List.reverse
  operations_perm := List.reverse_perm
  fragments_perm := List.reverse_perm
  variableValues_perm := List.reverse_perm

namespace Shop

def variableDefinition (column : Nat) (name : String) (default? : Option Literal) :
    VariableDefinition :=
  { position := ⟨1, column⟩, name, type := .named "String" true, default? }

/-- `subscription Orders($from: String = "shop", $note: String) { event { ...outline } }` -/
def namedDocument : Document :=
  { operations := .named [("Orders",
      { operationOf partedSelections with
        variableDefinitions := [variableDefinition 21 "from" (some (.string "shop")),
          variableDefinition 45 "note" none] })]
    fragments := partedDocument.fragments }

def namedSubscription : Subscription :=
  { name? := some "Orders"
    field := (head 16 "event").selected [] []
      [(head 29 "issuedAt").selected [] [] [],
        (head 37 "order").selected ["OrderCreated"] [] [(head 45 "number").selected [] [] []]] }

end Shop

theorem generated_in_reverse_on_namedDocument :
    (Shop.namedDocument.fragments.map Prod.fst).Nodup ∧
      (Shop.namedDocument.inOrder .reversed).fragments.map Prod.fst = ["delivery", "outline"] ∧
      Shop.schema.validate Shop.namedDocument = .ok Shop.namedSubscription ∧
      Shop.schema.validateIn .reversed Shop.namedDocument = .ok Shop.namedSubscription := by
  have distinct : (Shop.namedDocument.fragments.map Prod.fst).Nodup := by decide
  have valid : Shop.schema.validate Shop.namedDocument = .ok Shop.namedSubscription := by cbv
  obtain ⟨documents, -⟩ := generated_in_any_order .reversed Shop.schema
  obtain ⟨-, same⟩ := documents Shop.namedDocument distinct
  exact ⟨distinct, rfl, valid, same.trans valid⟩

end WebhookPayload
