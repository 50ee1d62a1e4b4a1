import WebhookPayload.GraphQL.Reader.Document
import WebhookPayload.Proofs.Inlining
import WebhookPayload.Proofs.Reading

/-! # Selection sets that select something

The grammar has no empty selection sets, so in a document that is read every operation and
every fragment selects something (`Document.filled_of_parse`). Where that is so, inlining
leaves at least one field (`Inlines.ne_nil`). -/

namespace WebhookPayload

open GraphQL

namespace GraphQL

namespace Selection

mutual

/-- Whether every inline fragment in a selection, however deep, selects something. -/
def filled : Selection → Bool
  | .field _ selections => allFilled selections
  | .spread _ _ => true
  | .inlineFragment _ selections => !selections.isEmpty && allFilled selections

def allFilled : List Selection → Bool
  | [] => true
  | selection :: rest => filled selection && allFilled rest

end

/-- A selection set that is not empty, and neither is one of an inline fragment in it. -/
def Fill (selections : List Selection) : Prop :=
  selections ≠ [] ∧ allFilled selections = true

instance (selections : List Selection) : Decidable (Fill selections) :=
  inferInstanceAs (Decidable (_ ∧ _))

theorem allFilled_cons {selection : Selection} {rest : List Selection} :
    allFilled (selection :: rest) = true ↔ selection.filled = true ∧ allFilled rest = true := by
  rw [allFilled, Bool.and_eq_true]

theorem allFilled_singleton {selection : Selection} :
    allFilled [selection] = true ↔ selection.filled = true := by
  rw [allFilled_cons]
  exact and_iff_left rfl

theorem allFilled_iff {selections : List Selection} :
    allFilled selections = true ↔ ∀ selection ∈ selections, selection.filled = true := by
  induction selections with
  | nil => simp [allFilled]
  | cons selection rest ih => rw [allFilled_cons, ih, List.forall_mem_cons]

theorem filled_field {head : FieldHead} {selections : List Selection} :
    (field head selections).filled = true ↔ allFilled selections = true := by
  rw [filled]

theorem filled_inlineFragment {condition? : Option TypeCondition} {selections : List Selection} :
    (inlineFragment condition? selections).filled = true ↔ Fill selections := by
  rw [filled, Bool.and_eq_true, Bool.not_eq_true', List.isEmpty_eq_false_iff]
  rfl

end Selection

/-- The operations, the fragments and the inline fragments in them all select something. -/
structure Document.Filled (document : Document) : Prop where
  operations : ∀ entry ∈ document.operations.entries, Selection.Fill entry.2.selections
  fragments : ∀ entry ∈ document.fragments, Selection.Fill entry.2.selections

end GraphQL

/-! ## What is read -/

namespace GraphQL.Reader

variable {nested : Reader (List Selection)}

theorem ensures_field (h : nested.Ensures Selection.Fill) :
    (field nested).Ensures fun selection => selection.filled = true := by
  refine ensures_bind fun _ => ensures_bind fun _ => ensures_bind fun _ => ensures_bind fun _ =>
    ensures_bind fun _ => h.optional.bind fun selections? inside => ensures_pure ?_
  cases selections? with
  | none => rfl
  | some selections => exact Selection.filled_field.mpr (inside selections rfl).2

theorem ensures_inlineFragment (h : nested.Ensures Selection.Fill) :
    (inlineFragment nested).Ensures fun selection => selection.filled = true :=
  ensures_bind fun _ => ensures_bind fun _ => ensures_bind fun _ =>
    h.bind fun _ inside => ensures_pure (Selection.filled_inlineFragment.mpr inside)

theorem ensures_fragmentSpread :
    fragmentSpread.Ensures fun selection => selection.filled = true :=
  ensures_bind fun _ => ensures_bind fun _ => ensures_bind fun _ => ensures_bind fun _ =>
    ensures_bind fun _ => ensures_pure rfl

theorem ensures_selectionSet (depth : Nat) : (selectionSet depth).Ensures Selection.Fill := by
  refine ensures_recursive (fun self inner depth => ?_) depth
  have selections : (choice [field (self (depth + 1)), inlineFragment (self (depth + 1)),
      fragmentSpread]).Ensures fun selection => selection.filled = true := by
    refine ensures_choice ?_
    simp only [List.forall_mem_cons, List.not_mem_nil, false_implies, implies_true, and_true]
    exact ⟨ensures_field (inner _), ensures_inlineFragment (inner _), ensures_fragmentSpread⟩
  have set : Ensures (do
      mark "\x7b"
      let selections ← many1 (choice [field (self (depth + 1)), inlineFragment (self (depth + 1)),
        fragmentSpread])
      mark "\x7d"
      return selections) Selection.Fill :=
    ensures_bind fun _ => selections.many1.bind fun _ all => ensures_bind fun _ =>
      ensures_pure ⟨all.1, Selection.allFilled_iff.mpr all.2⟩
  -- whether a fault is noted first does not matter
  dsimp only
  split
  · exact ensures_bind fun _ => set
  · exact set

/-- The selection set of a definition is filled. -/
def DocumentItem.Filled : DocumentItem → Prop
  | .operation _ definition => Selection.Fill definition.selections
  | .fragment _ definition => Selection.Fill definition.selections

theorem ensures_documentItems :
    documentItems.Ensures fun items => ∀ item ∈ items, item.Filled := by
  have each : (choice [fullOperation, shortOperation, fragmentDefinition]).Ensures
      DocumentItem.Filled := by
    refine ensures_choice ?_
    simp only [List.forall_mem_cons, List.not_mem_nil, false_implies, implies_true, and_true]
    refine ⟨?full, ?short, ?fragment⟩
    case full =>
      exact ensures_bind fun _ => ensures_bind fun _ => ensures_bind fun _ => ensures_bind fun _ =>
        ensures_bind fun _ => (ensures_selectionSet 0).bind fun _ filled => ensures_pure filled
    case short =>
      exact ensures_bind fun _ => (ensures_selectionSet 0).bind fun _ filled => ensures_pure filled
    case fragment =>
      exact ensures_bind fun _ => ensures_bind fun _ => ensures_bind fun _ => ensures_bind fun _ =>
        ensures_bind fun _ => (ensures_selectionSet 0).bind fun _ filled => ensures_pure filled
  exact ensures_bind fun _ => each.many1.imp fun _ all => all.2

end GraphQL.Reader

/-! ## Documents that are read -/

def GraphQL.Reader.DocumentItem.operation? :
    Reader.DocumentItem → Option (Option String × OperationDefinition)
  | .operation name? definition => some (name?, definition)
  | .fragment _ _ => none

def GraphQL.Reader.DocumentItem.fragment? :
    Reader.DocumentItem → Option (String × FragmentDefinition)
  | .operation _ _ => none
  | .fragment name definition => some (name, definition)

theorem entries_add {known? : Option Operations} {name? : Option String}
    {operation : OperationDefinition} {operations : Operations}
    (h : Operations.add known? name? operation = .ok operations) :
    operations.entries = (known?.map Operations.entries).getD [] ++ [(name?, operation)] := by
  unfold Operations.add at h
  split at h
  · cases h
    rfl
  · cases h
    rfl
  · cases h
  · cases h
  · split at h
    · cases h
    · cases h
      simp [Operations.entries]

theorem eq_of_addFragment {known fragments : List (String × FragmentDefinition)} {name : String}
    {fragment : FragmentDefinition} (h : addFragment known name fragment = .ok fragments) :
    fragments = known ++ [(name, fragment)] := by
  unfold addFragment at h
  split at h
  · cases h
  · cases h
    rfl

/-- A document has the definitions that are written, in the order of writing. -/
theorem definitions_of_collect {operations? : Option Operations}
    {fragments : List (String × FragmentDefinition)} {items : List Reader.DocumentItem}
    {document : Document} (h : Document.collect operations? fragments items = .ok document) :
    document.operations.entries = (operations?.map Operations.entries).getD [] ++
        items.filterMap Reader.DocumentItem.operation? ∧
      document.fragments = fragments ++ items.filterMap Reader.DocumentItem.fragment? := by
  induction items generalizing operations? fragments with
  | nil =>
    cases operations? with
    | none => cases h
    | some operations =>
      cases h
      exact ⟨(List.append_nil _).symm, (List.append_nil _).symm⟩
  | cons item rest ih =>
    cases item with
    | operation name? definition =>
      obtain ⟨operations, added, later⟩ := bind_eq_ok_iff.mp h
      obtain ⟨entries, same⟩ := ih later
      refine ⟨?_, same⟩
      rw [entries, Option.map_some, Option.getD_some, entries_add added, List.append_assoc]
      rfl
    | fragment name definition =>
      obtain ⟨more, added, later⟩ := bind_eq_ok_iff.mp h
      obtain ⟨same, entries⟩ := ih later
      refine ⟨same, ?_⟩
      rw [entries, eq_of_addFragment added, List.append_assoc]
      rfl

/-- In a document that is read, everything selects something. -/
theorem GraphQL.Document.filled_of_parse {text : String} {document : Document}
    (h : Document.parse text = .ok document) : document.Filled := by
  obtain ⟨items, read, collected⟩ := bind_eq_ok_iff.mp h
  have filled := Reader.ensures_documentItems.readAll read
  obtain ⟨operations, fragments⟩ := definitions_of_collect collected
  constructor
  · intro entry member
    rw [operations] at member
    obtain ⟨item, written, same⟩ := List.mem_filterMap.mp member
    cases item with
    | operation name? definition =>
      cases same
      exact filled _ written
    | fragment => cases same
  · intro entry member
    rw [fragments] at member
    obtain ⟨item, written, same⟩ := List.mem_filterMap.mp member
    cases item with
    | operation => cases same
    | fragment name definition =>
      cases same
      exact filled _ written

/-! ## What is inlined -/

/-- The fragments of a scope select something. -/
def Scope.Filled (scope : Scope) : Prop :=
  ∀ name fragment, scope.fragment? name = some fragment → Selection.Fill fragment.selections

/-- Something comes of a selection set, however its fragments are nested. -/
theorem Inlines.ne_nil {scope : Scope} {container : TypeDefinition}
    {conditions active : List String} {selections : List Selection} {fields : List SelectedField}
    (h : Inlines scope container conditions active selections fields)
    (fragments : scope.Filled) (filled : Selection.Fill selections) : fields ≠ [] := by
  induction h with
  | nil => exact absurd rfl filled.1
  | cons _ _ one _ =>
    have first := Selection.allFilled_singleton.mpr (Selection.allFilled_cons.mp filled.2).1
    exact List.append_ne_nil_of_left_ne_nil (one ⟨List.cons_ne_nil _ _, first⟩) _
  | typename | leaf | composite => exact List.cons_ne_nil _ _
  | spread _ found _ _ _ inside => exact inside (fragments _ _ found)
  | unconditional _ inside | conditional _ _ _ inside =>
    have only := Selection.allFilled_singleton.mp filled.2
    exact inside (Selection.filled_inlineFragment.mp only)

end WebhookPayload
