import WebhookPayload.Proofs.Shop
import WebhookPayload.Proofs.Validity

/-! # Fragments as abbreviations

`Scope.Expands` writes selections out: the place of a spread is taken by an
inline fragment with the condition and the selections of its definition, written
out in turn. There is a written-out form exactly where no fragment comes back to
itself (`Scope.exists_expands`), and inlining it gives the same fields, or the
same error, as inlining the selections themselves
(`Scope.Expands.inlineSelections_eq`). -/

namespace WebhookPayload

open GraphQL

namespace Scope

/-- Selections, and the same with every spread written out, however deep inside. -/
inductive Expands (scope : Scope) : List Selection → List Selection → Prop
  | nil : Expands scope [] []
  | field {head inner outer rest others} (inside : Expands scope inner outer)
      (later : Expands scope rest others) :
      Expands scope (.field head inner :: rest) (.field head outer :: others)
  | spread {position name fragment written rest others}
      (found : scope.fragment? name = some fragment)
      (inside : Expands scope fragment.selections written) (later : Expands scope rest others) :
      Expands scope (.spread position name :: rest)
        (.inlineFragment (some fragment.condition) written :: others)
  | inlineFragment {condition? inner outer rest others} (inside : Expands scope inner outer)
      (later : Expands scope rest others) :
      Expands scope (.inlineFragment condition? inner :: rest)
        (.inlineFragment condition? outer :: others)

/-- Every fragment that is spread from the selections is defined, is not being
inlined, and does not come back to itself. -/
def Unfolds (scope : Scope) (active : List String) (selections : List Selection) : Prop :=
  ∀ name, scope.SpreadsFrom selections name →
    (∃ fragment, scope.fragment? name = some fragment) ∧ name ∉ active ∧ ¬ scope.Recursive name

variable {scope other : Scope} {active : List String} {selections rest expanded : List Selection}

namespace Unfolds

theorem of_cons {selection : Selection} (h : scope.Unfolds active (selection :: rest)) :
    scope.Unfolds active [selection] ∧ scope.Unfolds active rest :=
  ⟨fun name reached => h name (spreadsFrom_cons.mpr (.inl reached)),
    fun name reached => h name (spreadsFrom_cons.mpr (.inr reached))⟩

theorem of_field {head : FieldHead} {inner : List Selection}
    (h : scope.Unfolds active [.field head inner]) : scope.Unfolds active inner :=
  fun name reached => h name (spreadsFrom_field.mpr reached)

theorem of_inlineFragment {condition? : Option TypeCondition} {inner : List Selection}
    (h : scope.Unfolds active [.inlineFragment condition? inner]) : scope.Unfolds active inner :=
  fun name reached => h name (spreadsFrom_inlineFragment.mpr reached)

/-- Inside a fragment its own name may be active, since the fragment does not come
back to itself. -/
theorem of_spread {position : Position} {name : String}
    (h : scope.Unfolds active [.spread position name]) :
    ∃ fragment, scope.fragment? name = some fragment ∧ name ∉ active ∧
      scope.Unfolds (name :: active) fragment.selections := by
  have own : scope.SpreadsFrom [.spread position name] name :=
    ⟨name, by simp [Selection.spreadsOf, Selection.spreads], .refl⟩
  obtain ⟨⟨fragment, found⟩, fresh, acyclic⟩ := h name own
  refine ⟨fragment, found, fresh, fun inner reached => ?_⟩
  obtain ⟨defined, new, acyclicInner⟩ := h inner ((spreadsFrom_spread found).mpr (.inr reached))
  refine ⟨defined, fun known => ?_, acyclicInner⟩
  rcases List.mem_cons.mp known with rfl | known
  · exact acyclic ((recursive_iff found).mpr reached)
  · exact new known

end Unfolds

/-- Selections can be written out: each spread on the way down uses up a fragment. -/
theorem exists_expands (active : List String) (selections : List Selection)
    (unfolds : scope.Unfolds active selections) : ∃ expanded, scope.Expands selections expanded :=
  match selections with
  | [] => ⟨[], .nil⟩
  | .field head inner :: rest => by
    obtain ⟨outer, inside⟩ := exists_expands active inner unfolds.of_cons.1.of_field
    obtain ⟨others, later⟩ := exists_expands active rest unfolds.of_cons.2
    exact ⟨_, .field inside later⟩
  | .inlineFragment condition? inner :: rest => by
    obtain ⟨outer, inside⟩ := exists_expands active inner unfolds.of_cons.1.of_inlineFragment
    obtain ⟨others, later⟩ := exists_expands active rest unfolds.of_cons.2
    exact ⟨_, .inlineFragment inside later⟩
  | .spread position name :: rest => by
    obtain ⟨fragment, found, fresh, unfoldsInside⟩ := unfolds.of_cons.1.of_spread
    have := unused_cons_lt found fresh
    obtain ⟨written, inside⟩ := exists_expands (name :: active) fragment.selections unfoldsInside
    obtain ⟨others, later⟩ := exists_expands active rest unfolds.of_cons.2
    exact ⟨_, .spread found inside later⟩
termination_by (scope.unused active, sizeOf selections)

namespace Expands

/-- Something is written out as something. -/
theorem isEmpty_eq (h : scope.Expands selections expanded) :
    expanded.isEmpty = selections.isEmpty := by
  cases h <;> rfl

theorem length_eq (h : scope.Expands selections expanded) :
    expanded.length = selections.length := by
  induction h with
  | nil => rfl
  | field _ _ _ later | spread _ _ _ _ later | inlineFragment _ _ _ later =>
    rw [List.length_cons, List.length_cons, later]

/-- Inlined or written out first, selections come to the same fields or to the
same error. What is written out has no spreads, so neither the fragments of its
scope nor the names that are active matter. -/
theorem inlineSelections_eq (h : scope.Expands selections expanded)
    (schema : other.schema = scope.schema) (values : other.variableValues = scope.variableValues)
    (container : TypeDefinition) (conditions inactive : List String)
    (unfolds : scope.Unfolds active selections) :
    inlineSelections other container conditions inactive expanded =
      inlineSelections scope container conditions active selections := by
  have conditionType (condition : TypeCondition) :
      other.conditionType condition = scope.conditionType condition := by
    rw [Scope.conditionType, Scope.conditionType, schema]
  induction h generalizing container conditions active with
  | nil => rw [inlineSelections, inlineSelections]
  | @field head inner outer rest others inside _ below later =>
    obtain ⟨one, all⟩ := unfolds.of_cons
    rw [inlineSelections, inlineSelections, later _ _ all, inlineSelection, inlineSelection]
    congr 1
    split
    · unfold selectTypename
      rw [inside.isEmpty_eq]
    · unfold Scope.fieldType
      simp only [inside.isEmpty_eq, schema, values, below _ _ one.of_field]
  | @spread position name fragment written rest others found inside _ below later =>
    obtain ⟨one, all⟩ := unfolds.of_cons
    obtain ⟨fragment', found', fresh, unfoldsInside⟩ := one.of_spread
    cases found.symm.trans found'
    rw [inlineSelections, inlineSelections, later _ _ all, inlineSelection_spread fresh found,
      inlineSelection, inlineSelection, conditionType]
    simp only [below _ _ unfoldsInside]
  | @inlineFragment condition? inner outer rest others inside _ below later =>
    obtain ⟨one, all⟩ := unfolds.of_cons
    rw [inlineSelections, inlineSelections, later _ _ all]
    congr 1
    cases condition? with
    | none => rw [inlineSelection, inlineSelection, below _ _ one.of_inlineFragment]
    | some condition =>
      rw [inlineSelection, inlineSelection, conditionType]
      simp only [below _ _ one.of_inlineFragment]

end Expands

end Scope

/-! ## Documents -/

/-- Puts other selections into the operations. -/
def GraphQL.Operations.withSelections (selections : OperationDefinition → List Selection) :
    Operations → Operations
  | anonymous operation => anonymous { operation with selections := selections operation }
  | named operations => named (operations.map fun (name, operation) =>
      (name, { operation with selections := selections operation }))

theorem GraphQL.Operations.entries_withSelections
    (selections : OperationDefinition → List Selection) (operations : Operations) :
    (operations.withSelections selections).entries =
      operations.entries.map fun (name?, operation) =>
        (name?, { operation with selections := selections operation }) := by
  cases operations with
  | anonymous operation => rfl
  | named operations => simp [withSelections, entries]

/-- The operations of a document may be written out, each in its scope. -/
def Unfoldable (schema : Schema) (document : Document) : Prop :=
  ∀ entry ∈ document.operations.entries, ∀ name,
    (operationScope schema document entry.2).SpreadsFrom entry.2.selections name →
      (∃ fragment, document.fragment? name = some fragment) ∧
        ¬ (operationScope schema document entry.2).Recursive name

/-- A document, and one whose operations are the same but for spreads, which are
written out. The other has no use for fragments and may define any. -/
def ExpandsTo (schema : Schema) (document expanded : Document) : Prop :=
  ∃ selections : OperationDefinition → List Selection,
    expanded.operations = document.operations.withSelections selections ∧
      ∀ entry ∈ document.operations.entries,
        (operationScope schema document entry.2).Expands entry.2.selections (selections entry.2)

section

variable {schema : Schema} {document expanded : Document}

theorem Unfoldable.unfolds (h : Unfoldable schema document)
    {entry : Option String × OperationDefinition} (member : entry ∈ document.operations.entries) :
    (operationScope schema document entry.2).Unfolds [] entry.2.selections := by
  intro name reached
  obtain ⟨defined, acyclic⟩ := h entry member name reached
  exact ⟨defined, List.not_mem_nil, acyclic⟩

theorem exists_expandsTo (h : Unfoldable schema document) :
    ∃ expanded, ExpandsTo schema document expanded := by
  have written (operation : OperationDefinition) : ∃ selections,
      ∀ name?, (name?, operation) ∈ document.operations.entries →
        (operationScope schema document operation).Expands operation.selections selections := by
    by_cases member : ∃ name?, (name?, operation) ∈ document.operations.entries
    · obtain ⟨name?, member⟩ := member
      obtain ⟨selections, expands⟩ := Scope.exists_expands [] _ (h.unfolds member)
      exact ⟨selections, fun _ _ => expands⟩
    · exact ⟨[], fun name? among => absurd ⟨name?, among⟩ member⟩
  choose selections expands using written
  exact ⟨{ document with operations := document.operations.withSelections selections }, selections,
    rfl, fun entry member => expands entry.2 entry.1 member⟩

/-- Writing fragments out does not change what the single subscription is, if there is one. -/
theorem singleSubscription?_expanded {selections : OperationDefinition → List Selection}
    (operations : expanded.operations = document.operations.withSelections selections)
    (same : ∀ entry ∈ document.operations.entries,
      (selections entry.2).length = entry.2.selections.length) :
    expanded.singleSubscription? = document.singleSubscription?.map fun entry =>
      (entry.1, { entry.2 with selections := selections entry.2 }) := by
  rw [Document.singleSubscription?_eq, Document.singleSubscription?_eq, operations,
    Operations.entries_withSelections]
  generalize document.operations.entries = entries at same ⊢
  match entries with
  | [] => rfl
  | _ :: _ :: _ => rfl
  | [(name?, operation)] =>
    have length := same _ (List.mem_singleton_self _)
    simp only [List.map_cons, List.map_nil, length]
    split <;> rfl

/-- Writing fragments out changes nothing about what a document has to offer: it
is valid or not as before, with the same subscription or the same error. -/
theorem validate_expanded (h : Unfoldable schema document) :
    (∃ expanded, ExpandsTo schema document expanded) ∧
      ∀ expanded, ExpandsTo schema document expanded →
        schema.validate expanded = schema.validate document := by
  refine ⟨exists_expandsTo h, ?_⟩
  rintro expanded ⟨selections, operations, expands⟩
  have single := singleSubscription?_expanded operations
    fun entry member => (expands entry member).length_eq
  refine validateWith_congr single fun entry found root => ?_
  obtain ⟨name?, operation⟩ := entry
  obtain ⟨only, -⟩ := singleSubscription?_eq_some_iff.mp found
  have member : (name?, operation) ∈ document.operations.entries := by simp [only]
  have written := expands _ member
  have unfolds := h.unfolds member
  cases values : defaultVariables operation.variableDefinitions with
  | error error => rfl
  | ok values =>
    obtain ⟨-, rfl⟩ := addDefaults_eq_ok_iff.mp values
    let scope := operationScope schema document operation
    let other := { scope with fragments := expanded.fragments }
    have schemas : other.schema = scope.schema := rfl
    exact written.inlineSelections_eq schemas rfl root [] [] unfolds

end

/-! ## A query in three parts -/

namespace Shop

/-- `fragment delivery on OrderCreated { order { number } }` -/
def deliveryFragment : FragmentDefinition :=
  { position := ⟨3, 1⟩
    condition := condition 22 "OrderCreated"
    selections := [.field (head 37 "order") [.field (head 45 "number") []]] }

/-- `fragment outline on Event { issuedAt ... on OrderCreated { ...delivery } }` -/
def outlineFragment : FragmentDefinition :=
  { position := ⟨2, 1⟩
    condition := condition 21 "Event"
    selections := [.field (head 29 "issuedAt") [],
      .inlineFragment (some (condition 42 "OrderCreated")) [.spread ⟨1, 57⟩ "delivery"]] }

def operationOf (selections : List Selection) : OperationDefinition :=
  { kind := .subscription, position := .start, variableDefinitions := [], selections }

def partedSelections : List Selection :=
  [.field (head 16 "event") [.spread ⟨1, 24⟩ "outline"]]

/-- `subscription { event { ...outline } }` -/
def partedDocument : Document :=
  { operations := .anonymous (operationOf partedSelections)
    fragments := [("outline", outlineFragment), ("delivery", deliveryFragment)] }

/-- The selections of the subscription with both fragments in their places. -/
def wholeSelections : List Selection :=
  [.field (head 16 "event") [.inlineFragment (some (condition 21 "Event"))
    [.field (head 29 "issuedAt") [],
      .inlineFragment (some (condition 42 "OrderCreated"))
        [.inlineFragment (some (condition 22 "OrderCreated")) deliveryFragment.selections]]]]

def wholeDocument : Document :=
  { operations := .anonymous (operationOf wholeSelections), fragments := [] }

/-- The outline leads to the delivery, and the delivery nowhere. -/
theorem spreads_parted {scope : Scope} (fragments : scope.fragments = partedDocument.fragments)
    {outer inner : String} (h : Relation.TransGen scope.Spreads outer inner) :
    outer = "outline" ∧ inner = "delivery" := by
  have step {outer inner : String} (h : scope.Spreads outer inner) :
      outer = "outline" ∧ inner = "delivery" := by
    obtain ⟨fragment, found, spread⟩ := h
    have entry : (outer, fragment) ∈ partedDocument.fragments :=
      fragments ▸ Scope.mem_of_fragment? found
    simp only [partedDocument, List.mem_cons, Prod.mk.injEq, List.not_mem_nil, or_false] at entry
    rcases entry with ⟨rfl, rfl⟩ | ⟨rfl, rfl⟩
    · exact ⟨rfl, by simpa [Selection.spreadsOf, Selection.spreads, outlineFragment] using spread⟩
    · simp [Selection.spreadsOf, Selection.spreads, deliveryFragment] at spread
  induction h with
  | single first => exact step first
  | tail _ last ih =>
    have stuck := (step last).1
    rw [ih.2] at stuck
    exact absurd stuck (by decide)

theorem unfoldable_partedDocument : Unfoldable schema partedDocument := by
  intro entry member name reached
  cases List.mem_singleton.mp member
  obtain ⟨first, spread, way⟩ := reached
  have first : first = "outline" := by
    simpa [Selection.spreadsOf, Selection.spreads, operationOf, partedSelections] using spread
  subst first
  constructor
  · rcases Relation.reflTransGen_iff_eq_or_transGen.mp way with rfl | way
    · exact ⟨outlineFragment, rfl⟩
    · rw [(spreads_parted rfl way).2]
      exact ⟨deliveryFragment, rfl⟩
  · intro recursive
    obtain ⟨outline, delivery⟩ := spreads_parted rfl recursive
    exact absurd (outline.symm.trans delivery) (by decide)

theorem partedDocument_expandsTo : ExpandsTo schema partedDocument wholeDocument := by
  refine ⟨fun _ => wholeSelections, rfl, fun entry member => ?_⟩
  cases List.mem_singleton.mp member
  let scope := operationScope schema partedDocument (operationOf partedSelections)
  have outline : scope.fragment? "outline" = some outlineFragment := rfl
  have delivery : scope.fragment? "delivery" = some deliveryFragment := rfl
  refine .field (.spread outline ?_ .nil) .nil
  refine .field .nil (.inlineFragment (.spread delivery ?_ .nil) .nil)
  exact .field (.field .nil .nil) .nil

end Shop

theorem validate_expanded_in_parts :
    Unfoldable Shop.schema Shop.partedDocument ∧
      ExpandsTo Shop.schema Shop.partedDocument Shop.wholeDocument ∧
      Shop.schema.validate Shop.wholeDocument = Shop.schema.validate Shop.partedDocument ∧
      (Shop.schema.validate Shop.partedDocument).isOk = true := by
  have unfoldable := Shop.unfoldable_partedDocument
  have expands := Shop.partedDocument_expandsTo
  have same := (validate_expanded unfoldable).2 _ expands
  refine ⟨unfoldable, expands, same, ?_⟩
  rw [← same]
  cbv

end WebhookPayload
