import WebhookPayload.Subscription.Inlining

/-! # Inlining as a derivation

`Inlines` says what selections come to on a container, one rule for each kind
of selection. It is the same as inlining without failure
(`inlineSelections_eq_ok_iff`), so what inlining guarantees is proved by
induction on derivations, and that it does not fail by building one. -/

namespace WebhookPayload

open GraphQL

theorem bind_eq_ok_iff {ε α β : Type} {x : Except ε α} {f : α → Except ε β} {b : β} :
    (x >>= f) = .ok b ↔ ∃ a, x = .ok a ∧ f a = .ok b := by
  cases x with
  | error e => simp [Bind.bind, Except.bind]
  | ok a => simp [Bind.bind, Except.bind]

theorem ok_bind {ε α β : Type} (a : α) (f : α → Except ε β) : (Except.ok a >>= f) = f a := rfl

theorem GraphQL.TypeDefinition.isLeaf_eq_false_of_isComposite {type : TypeDefinition}
    (h : type.isComposite = true) : type.isLeaf = false := by
  unfold TypeDefinition.isComposite TypeKind.isComposite at h
  unfold TypeDefinition.isLeaf TypeKind.isLeaf
  split at h <;> simp_all

/-! ## When the single checks pass -/

theorem Scope.conditionType_eq_ok_iff {scope : Scope} {condition : TypeCondition}
    {type : TypeDefinition} : scope.conditionType condition = .ok type ↔
      scope.schema.type? condition.typeName = some type ∧ type.isComposite = true := by
  rw [← Option.filter_eq_some_iff, Scope.conditionType]
  cases (scope.schema.type? condition.typeName).filter TypeDefinition.isComposite <;> simp

theorem Scope.fieldDefinition_eq_ok_iff {container : TypeDefinition} {head : FieldHead}
    {definition : FieldDefinition} : Scope.fieldDefinition container head = .ok definition ↔
      container.field? head.name = some definition := by
  rw [Scope.fieldDefinition]
  cases container.field? head.name <;> simp

theorem Scope.fieldType_eq_ok_iff {scope : Scope} {head : FieldHead}
    {definition : FieldDefinition} {type : TypeDefinition} :
    scope.fieldType head definition = .ok type ↔
      scope.schema.type? definition.type.underlying = some type ∧
        (type.isLeaf = true ∨ type.isComposite = true) := by
  have h := Option.filter_eq_some_iff (o := scope.schema.type? definition.type.underlying)
    (p := fun t : TypeDefinition => t.isLeaf || t.isComposite) (a := type)
  simp only [Bool.or_eq_true] at h
  rw [← h, Scope.fieldType]
  cases (scope.schema.type? definition.type.underlying).filter
    (fun t : TypeDefinition => t.isLeaf || t.isComposite) <;> simp

/-- A selected field with the alias, name and place of its head. -/
def GraphQL.FieldHead.selected (head : FieldHead) (conditions : List String)
    (arguments : List (String × Literal)) (subfields : List SelectedField) : SelectedField :=
  { alias? := head.alias?, name := head.name, arguments, conditions,
    position := head.position, subfields }

theorem selectTypename_eq_ok_iff {conditions : List String} {head : FieldHead}
    {selections : List Selection} {field : SelectedField} :
    selectTypename conditions head selections = .ok field ↔
      head.arguments = [] ∧ selections = [] ∧ field = head.selected conditions [] [] := by
  unfold selectTypename FieldHead.selected
  cases head.arguments <;> cases selections <;> simp [eq_comm]

/-! ## Derivations -/

/-- The fields that selections on a container come to. The conditions are those
of the fragments around the selections, the active names those of the fragments
that are being inlined. -/
inductive Inlines (scope : Scope) : TypeDefinition → List String → List String →
    List Selection → List SelectedField → Prop
  | nil {container conditions active} : Inlines scope container conditions active [] []
  | cons {container conditions active selection rest fields others}
      (first : Inlines scope container conditions active [selection] fields)
      (later : Inlines scope container conditions active rest others) :
      Inlines scope container conditions active (selection :: rest) (fields ++ others)
  | typename {container conditions active head} (named : head.name = typenameField)
      (plain : head.arguments = []) :
      Inlines scope container conditions active [.field head []]
        [head.selected conditions [] []]
  | leaf {container conditions active head definition type arguments}
      (named : head.name ≠ typenameField)
      (declared : container.field? head.name = some definition)
      (defined : scope.schema.type? definition.type.underlying = some type)
      (kind : type.isLeaf = true)
      (bound : bindArguments scope.variableValues head definition.arguments = .ok arguments) :
      Inlines scope container conditions active [.field head []]
        [head.selected conditions arguments []]
  | composite {container conditions active head selections definition type arguments subfields}
      (named : head.name ≠ typenameField)
      (declared : container.field? head.name = some definition)
      (defined : scope.schema.type? definition.type.underlying = some type)
      (kind : type.isComposite = true) (nonempty : selections ≠ [])
      (below : Inlines scope type [] active selections subfields)
      (bound : bindArguments scope.variableValues head definition.arguments = .ok arguments) :
      Inlines scope container conditions active [.field head selections]
        [head.selected conditions arguments subfields]
  | spread {container conditions active position name fragment type fields}
      (fresh : name ∉ active) (found : scope.fragment? name = some fragment)
      (defined : scope.schema.type? fragment.condition.typeName = some type)
      (kind : type.isComposite = true)
      (inside : Inlines scope type (narrow container conditions fragment.condition)
        (name :: active) fragment.selections fields) :
      Inlines scope container conditions active [.spread position name] fields
  | unconditional {container conditions active selections fields}
      (inside : Inlines scope container conditions active selections fields) :
      Inlines scope container conditions active [.inlineFragment none selections] fields
  | conditional {container conditions active condition selections type fields}
      (defined : scope.schema.type? condition.typeName = some type)
      (kind : type.isComposite = true)
      (inside : Inlines scope type (narrow container conditions condition) active selections
        fields) :
      Inlines scope container conditions active [.inlineFragment (some condition) selections]
        fields

theorem inlineSelections_singleton (scope : Scope) (container : TypeDefinition)
    (conditions active : List String) (selection : Selection) :
    inlineSelections scope container conditions active [selection] =
      inlineSelection scope container conditions active selection := by
  rw [inlineSelections, inlineSelections]
  cases inlineSelection scope container conditions active selection <;>
    simp [Bind.bind, Except.bind, Pure.pure, Except.pure]

section Spread

variable {scope : Scope} {container : TypeDefinition} {conditions active : List String}
  {position : Position} {name : String}

theorem inlineSelection_cycle (known : name ∈ active) :
    inlineSelection scope container conditions active (.spread position name) =
      .error (.fragmentCycle name position) := by
  rw [inlineSelection, dif_pos known]

theorem inlineSelection_missing (fresh : name ∉ active) (missing : scope.fragment? name = none) :
    inlineSelection scope container conditions active (.spread position name) =
      .error (.fragmentNotFound name position) := by
  rw [inlineSelection, dif_neg fresh]
  split
  · rfl
  · rename_i fragment found
    cases missing.symm.trans found

/-- A spread stands for the definition of its fragment, whose name is active inside. -/
theorem inlineSelection_spread (fresh : name ∉ active) {fragment : FragmentDefinition}
    (found : scope.fragment? name = some fragment) :
    inlineSelection scope container conditions active (.spread position name) =
      inlineSelection scope container conditions (name :: active)
        (.inlineFragment (some fragment.condition) fragment.selections) := by
  rw [inlineSelection, dif_neg fresh, inlineSelection]
  split
  · rename_i missing
    cases missing.symm.trans found
  · rename_i fragment' found'
    cases found.symm.trans found'
    rfl

end Spread

theorem inlines_of_inlineSelections {scope : Scope} {container : TypeDefinition}
    {conditions active : List String} {selections : List Selection}
    {fields : List SelectedField}
    (h : inlineSelections scope container conditions active selections = .ok fields) :
    Inlines scope container conditions active selections fields := by
  revert fields
  refine inlineSelections.induct scope
    (fun container conditions active selections => ∀ {fields},
      inlineSelections scope container conditions active selections = .ok fields →
        Inlines scope container conditions active selections fields)
    (fun container conditions active selection => ∀ {fields},
      inlineSelection scope container conditions active selection = .ok fields →
        Inlines scope container conditions active [selection] fields)
    ?nil ?cons ?typename ?field ?cycle ?missing ?spread ?unconditional ?conditional
    container conditions active selections
  case nil =>
    intro container conditions active fields h
    rw [inlineSelections] at h
    cases h
    exact .nil
  case cons =>
    intro container conditions active selection rest one all fields h
    rw [inlineSelections] at h
    obtain ⟨a, ha, h⟩ := bind_eq_ok_iff.mp h
    obtain ⟨b, hb, h⟩ := bind_eq_ok_iff.mp h
    cases h
    exact .cons (one ha) (all hb)
  case typename =>
    intro container conditions active head selections named fields h
    rw [inlineSelection, if_pos named] at h
    obtain ⟨field, hf, h⟩ := bind_eq_ok_iff.mp h
    obtain ⟨plain, rfl, rfl⟩ := selectTypename_eq_ok_iff.mp hf
    cases h
    exact .typename named plain
  case field =>
    intro container conditions active head selections named below fields h
    rw [inlineSelection, if_neg named] at h
    obtain ⟨definition, hd, h⟩ := bind_eq_ok_iff.mp h
    obtain ⟨type, ht, h⟩ := bind_eq_ok_iff.mp h
    have declared := Scope.fieldDefinition_eq_ok_iff.mp hd
    obtain ⟨defined, kind⟩ := Scope.fieldType_eq_ok_iff.mp ht
    dsimp only at h
    by_cases leaf : type.isLeaf = true
    · rw [if_pos leaf] at h
      cases selections with
      | nil =>
        obtain ⟨subfields, hs, h⟩ := bind_eq_ok_iff.mp h
        cases hs
        obtain ⟨arguments, bound, h⟩ := bind_eq_ok_iff.mp h
        cases h
        exact .leaf named declared defined leaf bound
      | cons first rest => cases h
    · rw [if_neg leaf] at h
      cases selections with
      | nil => cases h
      | cons first rest =>
        obtain ⟨subfields, hs, h⟩ := bind_eq_ok_iff.mp h
        obtain ⟨arguments, bound, h⟩ := bind_eq_ok_iff.mp h
        cases h
        exact .composite named declared defined (kind.resolve_left leaf) (by simp)
          (below type hs) bound
  case cycle =>
    intro container conditions active position name known fields h
    rw [inlineSelection_cycle known] at h
    cases h
  case missing =>
    intro container conditions active position name fresh missing fields h
    rw [inlineSelection_missing fresh missing] at h
    cases h
  case spread =>
    intro container conditions active position name fresh fragment found inside fields h
    rw [inlineSelection_spread fresh found, inlineSelection] at h
    obtain ⟨type, ht, h⟩ := bind_eq_ok_iff.mp h
    obtain ⟨defined, kind⟩ := Scope.conditionType_eq_ok_iff.mp ht
    exact .spread fresh found defined kind (inside type h)
  case unconditional =>
    intro container conditions active selections inside fields h
    rw [inlineSelection] at h
    exact .unconditional (inside h)
  case conditional =>
    intro container conditions active condition selections inside fields h
    rw [inlineSelection] at h
    obtain ⟨type, ht, h⟩ := bind_eq_ok_iff.mp h
    obtain ⟨defined, kind⟩ := Scope.conditionType_eq_ok_iff.mp ht
    exact .conditional defined kind (inside type h)

theorem Inlines.inlineSelections_eq {scope : Scope} {container : TypeDefinition}
    {conditions active : List String} {selections : List Selection}
    {fields : List SelectedField} (h : Inlines scope container conditions active selections fields) :
    inlineSelections scope container conditions active selections = .ok fields := by
  induction h with
  | nil => rw [inlineSelections]
  | cons _ _ one all =>
    rw [inlineSelections_singleton] at one
    rw [inlineSelections, one, all]
    rfl
  | typename named plain =>
    rw [inlineSelections_singleton, inlineSelection, if_pos named,
      selectTypename_eq_ok_iff.mpr ⟨plain, rfl, rfl⟩]
    rfl
  | leaf named declared defined kind bound =>
    rw [inlineSelections_singleton, inlineSelection, if_neg named,
      Scope.fieldDefinition_eq_ok_iff.mpr declared, ok_bind,
      Scope.fieldType_eq_ok_iff.mpr ⟨defined, .inl kind⟩, ok_bind]
    dsimp only
    rw [if_pos kind, List.isEmpty_nil, if_pos rfl, ok_bind, bound]
    rfl
  | composite named declared defined kind nonempty _ bound below =>
    rw [inlineSelections_singleton, inlineSelection, if_neg named,
      Scope.fieldDefinition_eq_ok_iff.mpr declared, ok_bind,
      Scope.fieldType_eq_ok_iff.mpr ⟨defined, .inr kind⟩, ok_bind]
    dsimp only
    rw [if_neg (by simp [TypeDefinition.isLeaf_eq_false_of_isComposite kind]),
      if_neg (by simpa using nonempty), below, ok_bind, bound]
    rfl
  | spread fresh found defined kind _ inside =>
    rw [inlineSelections_singleton, inlineSelection_spread fresh found, inlineSelection,
      Scope.conditionType_eq_ok_iff.mpr ⟨defined, kind⟩, ok_bind, inside]
  | unconditional _ inside => rw [inlineSelections_singleton, inlineSelection, inside]
  | conditional defined kind _ inside =>
    rw [inlineSelections_singleton, inlineSelection,
      Scope.conditionType_eq_ok_iff.mpr ⟨defined, kind⟩, ok_bind, inside]

/-- Inlining succeeds exactly by a derivation. -/
theorem inlineSelections_eq_ok_iff {scope : Scope} {container : TypeDefinition}
    {conditions active : List String} {selections : List Selection}
    {fields : List SelectedField} :
    inlineSelections scope container conditions active selections = .ok fields ↔
      Inlines scope container conditions active selections fields :=
  ⟨inlines_of_inlineSelections, Inlines.inlineSelections_eq⟩

end WebhookPayload
