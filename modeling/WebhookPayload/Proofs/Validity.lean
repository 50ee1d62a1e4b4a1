import WebhookPayload.Subscription.Validation
import WebhookPayload.Proofs.SingleSubscription
import WebhookPayload.Proofs.Reachability
import WebhookPayload.Proofs.Walk

/-! # What makes a document a subscription

`ValidSubscription` lists what a document must fulfil to describe a payload, in
terms of what is written in it: its operation, the selections that one comes to
from there, the graph of its fragments and the single field that remains at the
top. Validation succeeds on exactly these documents. -/

namespace WebhookPayload

open GraphQL

/-! ## Variables -/

/-- A variable can do without a value. -/
def GraphQL.VariableDefinition.Optional (definition : VariableDefinition) : Prop :=
  definition.default?.isSome = true ∨ definition.type.nullable = true

/-- What variables stand for when none is given a value: their defaults, or null.
Of several definitions of a name the last counts. -/
def standingValues (known : Variables) (definitions : List VariableDefinition) : Variables :=
  definitions.foldl
    (fun known definition =>
      Value.setMember definition.name (definition.default?.getD .null) known)
    known

theorem addDefaults_eq_ok_iff {known values : Variables} {definitions : List VariableDefinition} :
    addDefaults known definitions = .ok values ↔
      (∀ definition ∈ definitions, definition.Optional) ∧
        values = standingValues known definitions := by
  induction definitions generalizing known with
  | nil => simp [addDefaults, standingValues, eq_comm]
  | cons definition rest ih =>
    rw [List.forall_mem_cons, addDefaults]
    cases given : definition.default? with
    | some value =>
      simp only
      rw [ih]
      simp [VariableDefinition.Optional, standingValues, given]
    | none =>
      by_cases nullable : definition.type.nullable = true
      · simp only [nullable, if_true]
        rw [ih]
        simp [VariableDefinition.Optional, standingValues, given, nullable]
      · simp [VariableDefinition.Optional, given, nullable]

/-! ## The field at the top -/

/-- Passing over fragments only leaves out fields. -/
theorem Scope.Walks.sublist {scope : Scope} {enters : String → Bool} {selections : List Selection}
    {heads others : List FieldHead} (h : scope.Walks enters selections heads)
    (h' : scope.Walks (fun _ => true) selections others) : heads.Sublist others := by
  induction h generalizing others with
  | nil => exact List.nil_sublist _
  | field _ later =>
    cases h' with
    | field later' => exact (later later').cons_cons _
  | enterSpread found _ _ _ inside later =>
    cases h' with
    | enterSpread found' _ inside' later' =>
      cases found.symm.trans found'
      exact (inside inside').append (later later')
    | passSpread _ passed' _ => cases passed'
  | passSpread found _ _ later =>
    cases h' with
    | enterSpread _ _ _ later' => exact (later later').trans (List.sublist_append_right _ _)
    | passSpread _ passed' _ => cases passed'
  | unconditional _ _ inside later =>
    cases h' with
    | unconditional inside' later' => exact (inside inside').append (later later')
  | enter _ _ _ inside later =>
    cases h' with
    | enter _ inside' later' => exact (inside inside').append (later later')
    | pass passed' _ => cases passed'
  | pass _ _ later =>
    cases h' with
    | enter _ _ later' => exact (later later').trans (List.sublist_append_right _ _)
    | pass passed' _ => cases passed'

/-- With its fragments inlined, the operation selects the field alone, under
conditions that the root meets. Names of the type system, which start with two
underscores, cannot be subscribed to. -/
structure Scope.SelectsOnly (scope : Scope) (root : TypeDefinition) (selections : List Selection)
    (head : FieldHead) : Prop where
  alone : scope.Walks (fun _ => true) selections [head]
  onRoot : scope.Walks (scope.schema.isPossible · root.name) selections [head]
  ordinary : "__".isPrefixOf head.name = false
  declared : (root.field? head.name).isSome = true

/-- What the selections of an operation refer to. -/
def operationScope (schema : Schema) (document : Document) (operation : OperationDefinition) :
    Scope :=
  { schema
    variableValues := standingValues [] operation.variableDefinitions
    fragments := document.fragments }

/-- A document that describes a payload: it has this operation and no other. -/
structure ValidSubscription (schema : Schema) (document : Document)
    (operation : OperationDefinition) (root : TypeDefinition) : Prop where
  only : ∃ name?, document.operations.entries = [(name?, operation)]
  kind : operation.kind = .subscription
  single : ∃ selection, operation.selections = [selection]
  supported : schema.subscriptionType? = some root
  optional : ∀ definition ∈ operation.variableDefinitions, definition.Optional
  fit : (operationScope schema document operation).AllWellFormed root operation.selections
  acyclic : ∀ name, (operationScope schema document operation).SpreadsFrom operation.selections
    name → ¬ (operationScope schema document operation).Recursive name
  field : ∃ head, (operationScope schema document operation).SelectsOnly root
    operation.selections head

theorem singleSubscription?_eq_some_iff {document : Document} {name? : Option String}
    {operation : OperationDefinition} :
    document.singleSubscription? = some (name?, operation) ↔
      document.operations.entries = [(name?, operation)] ∧ operation.kind = .subscription ∧
        ∃ selection, operation.selections = [selection] := by
  simp only [← List.length_eq_one_iff]
  rw [Document.singleSubscription?_eq]
  split
  · rename_i other definition h
    rw [h]
    constructor
    · intro same
      split at same
      · rename_i fits
        cases same
        exact ⟨rfl, fits⟩
      · cases same
    · rintro ⟨same, fits⟩
      cases same
      rw [if_pos fits]
  · rename_i h
    simp only [reduceCtorEq, false_iff, not_and]
    intro same
    exact absurd same (h _ _)

theorem singleField_eq_ok_iff {fields : List SelectedField} {field : SelectedField} :
    Schema.singleField fields = .ok field ↔ fields = [field] := by
  unfold Schema.singleField
  split <;> simp_all

/-- Validation step by step. -/
theorem validate_eq_ok_iff {schema : Schema} {document : Document} {subscription : Subscription} :
    schema.validate document = .ok subscription ↔ ∃ operation root,
      document.singleSubscription? = some (subscription.name?, operation) ∧
      schema.subscriptionType? = some root ∧
      (∀ definition ∈ operation.variableDefinitions, definition.Optional) ∧
      Inlines (operationScope schema document operation) root [] [] operation.selections
        [subscription.field] ∧
      schema.isSubscribable root subscription.field = true := by
  unfold Schema.validate Schema.validateWith
  constructor
  · intro h
    split at h
    · cases h
    · rename_i name? operation single
      split at h
      · cases h
      · rename_i root rooted
        obtain ⟨values, hv, afterValues⟩ := bind_eq_ok_iff.mp h
        obtain ⟨fields, hi, afterFields⟩ := bind_eq_ok_iff.mp afterValues
        obtain ⟨field, hf, last⟩ := bind_eq_ok_iff.mp afterFields
        obtain ⟨optional, rfl⟩ := addDefaults_eq_ok_iff.mp hv
        rw [singleField_eq_ok_iff.mp hf] at hi
        split at last
        · rename_i subscribable
          cases last
          exact ⟨operation, root, single, rooted, optional, inlineSelections_eq_ok_iff.mp hi,
            subscribable⟩
        · cases last
  · rintro ⟨operation, root, single, rooted, optional, inlined, subscribable⟩
    rw [single, rooted]
    dsimp only
    rw [defaultVariables, addDefaults_eq_ok_iff.mpr ⟨optional, rfl⟩, ok_bind]
    have hi := inlineSelections_eq_ok_iff.mpr inlined
    rw [operationScope] at hi
    rw [hi, ok_bind, singleField_eq_ok_iff.mpr rfl, ok_bind, if_pos subscribable]
    rfl

/-- Validation depends on the single operation of a document by its name and by what its
selections come to. -/
theorem validateWith_congr {schema : Schema} {document other : Document}
    {valuesOf otherValuesOf : List VariableDefinition → Except QueryError Variables}
    {change : Option String × OperationDefinition → OperationDefinition}
    (single : other.singleSubscription? =
      document.singleSubscription?.map fun entry => (entry.1, change entry))
    (inlined : ∀ entry, document.singleSubscription? = some entry → ∀ root, (do
        let variableValues ← otherValuesOf (change entry).variableDefinitions
        inlineSelections { schema, variableValues, fragments := other.fragments } root [] []
          (change entry).selections) = (do
        let variableValues ← valuesOf entry.2.variableDefinitions
        inlineSelections { schema, variableValues, fragments := document.fragments } root [] []
          entry.2.selections)) :
    schema.validateWith otherValuesOf other = schema.validateWith valuesOf document := by
  unfold Schema.validateWith
  rw [single]
  cases found : document.singleSubscription? with
  | none => rfl
  | some entry =>
    cases schema.subscriptionType? with
    | none => rfl
    | some root =>
      have same := inlined entry found root
      exact (bind_assoc _ _ _).symm.trans ((congrArg (· >>= _) same).trans (bind_assoc _ _ _))

/-- Of inlined selections, the walks say whether they come to a single field that
events can come from. -/
theorem Inlines.selectsOnly_iff {scope : Scope} {root : TypeDefinition}
    {selections : List Selection} {fields : List SelectedField}
    (h : Inlines scope root [] [] selections fields) :
    (∃ head, scope.SelectsOnly root selections head) ↔
      ∃ field, fields = [field] ∧ scope.schema.isSubscribable root field = true := by
  obtain ⟨heads, walk, same⟩ := h.matches (fun _ => true) rfl rfl
  obtain ⟨met, onRoot, sameMet⟩ :=
    h.matches (scope.schema.isPossible · root.name) (scope.schema.isPossible_self _) rfl
  have whole : fields.filter (·.conditions.all fun _ => true) = fields :=
    List.filter_eq_self.mpr (by simp)
  rw [whole] at same
  constructor
  · rintro ⟨head, only⟩
    cases walk.unique only.alone
    cases onRoot.unique only.onRoot
    obtain ⟨field, rfl, origin⟩ : ∃ field, fields = [field] ∧ field.origin = head.origin := by
      simpa [List.map_eq_cons_iff] using same
    have named : field.name = head.name := congrArg (·.2.1) origin
    refine ⟨field, rfl, ?_⟩
    cases applies : field.conditions.all (scope.schema.isPossible · root.name) with
    | true =>
      simp [Schema.isSubscribable, SelectedField.isIntrospection, named, only.ordinary,
        only.declared, applies]
    | false => simp [applies] at sameMet
  · rintro ⟨field, rfl, subscribable⟩
    simp only [Schema.isSubscribable, SelectedField.isIntrospection, Bool.and_eq_true,
      Bool.not_eq_true'] at subscribable
    obtain ⟨⟨ordinary, declared⟩, applies⟩ := subscribable
    obtain ⟨head, rfl, origin⟩ : ∃ head, heads = [head] ∧ head.origin = field.origin := by
      simpa [List.map_eq_cons_iff] using same.symm
    have named : head.name = field.name := congrArg (·.2.1) origin
    refine ⟨head, walk, ?_, named ▸ ordinary, named ▸ declared⟩
    -- the walk that passes over fragments meets one field, and none that the other does not
    have one : met.length = [head].length := by
      have := congrArg List.length sameMet
      simpa [applies] using this.symm
    exact (onRoot.sublist walk).eq_of_length one ▸ onRoot

/-- Validation succeeds on exactly the documents that describe a payload. -/
theorem exists_validate_eq_ok_iff (schema : Schema) (document : Document) :
    (∃ subscription, schema.validate document = .ok subscription) ↔
      ∃ operation root, ValidSubscription schema document operation root := by
  constructor
  · rintro ⟨subscription, h⟩
    obtain ⟨operation, root, single, supported, optional, inlined, subscribable⟩ :=
      validate_eq_ok_iff.mp h
    obtain ⟨only, kind, one⟩ := singleSubscription?_eq_some_iff.mp single
    obtain ⟨fit, acyclic⟩ := exists_inlines_iff.mp ⟨_, inlined⟩
    exact ⟨operation, root, ⟨_, only⟩, kind, one, supported, optional, fit,
      fun name reached => (acyclic name reached).2,
      inlined.selectsOnly_iff.mpr ⟨_, rfl, subscribable⟩⟩
  · rintro ⟨operation, root, valid⟩
    obtain ⟨name?, only⟩ := valid.only
    have inlinable : ∃ fields, Inlines (operationScope schema document operation) root [] []
        operation.selections fields :=
      exists_inlines_iff.mpr ⟨valid.fit, fun name reached =>
        ⟨List.not_mem_nil, valid.acyclic name reached⟩⟩
    obtain ⟨fields, inlined⟩ := inlinable
    obtain ⟨field, rfl, subscribable⟩ := inlined.selectsOnly_iff.mp valid.field
    refine ⟨⟨name?, field⟩, validate_eq_ok_iff.mpr ⟨operation, root, ?_, valid.supported,
      valid.optional, inlined, subscribable⟩⟩
    exact singleSubscription?_eq_some_iff.mpr ⟨only, valid.kind, valid.single⟩

end WebhookPayload
