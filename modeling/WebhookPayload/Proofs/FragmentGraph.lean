import Mathlib.Logic.Relation
import WebhookPayload.Proofs.Inlining

/-! # Which fragments spread which

The graph of fragments says nothing about types: an edge goes from a fragment to
every fragment that is spread in its definition, at any depth. Inlining, which
keeps a stack of active names, succeeds only where no way through the graph
comes back to a fragment (`Inlines.acyclic`). -/

namespace WebhookPayload

open GraphQL

mutual

/-- The fragments that are spread in a selection, however deep inside it. -/
def GraphQL.Selection.spreads : Selection → List String
  | .field _ selections => spreadsOf selections
  | .spread _ name => [name]
  | .inlineFragment _ selections => spreadsOf selections

def GraphQL.Selection.spreadsOf : List Selection → List String
  | [] => []
  | selection :: rest => spreads selection ++ spreadsOf rest

end

namespace Scope

def Spreads (scope : Scope) (outer inner : String) : Prop :=
  ∃ fragment, scope.fragment? outer = some fragment ∧
    inner ∈ Selection.spreadsOf fragment.selections

/-- A fragment is spread in the selections, or in another that is spread from them. -/
def SpreadsFrom (scope : Scope) (selections : List Selection) (name : String) : Prop :=
  ∃ first ∈ Selection.spreadsOf selections, Relation.ReflTransGen scope.Spreads first name

/-- A fragment reaches itself through spreads. -/
def Recursive (scope : Scope) (name : String) : Prop :=
  Relation.TransGen scope.Spreads name name

variable {scope : Scope} {name : String}

theorem mem_of_fragment? {fragment : FragmentDefinition}
    (found : scope.fragment? name = some fragment) : (name, fragment) ∈ scope.fragments := by
  obtain ⟨before, after, same, -⟩ := List.lookup_eq_some_iff.mp found
  rw [same]
  exact List.mem_append_right _ List.mem_cons_self

theorem not_spreadsFrom_nil : ¬ scope.SpreadsFrom [] name := by
  rintro ⟨first, hf, -⟩
  simp [Selection.spreadsOf] at hf

theorem spreadsFrom_cons {selection : Selection} {rest : List Selection} :
    scope.SpreadsFrom (selection :: rest) name ↔
      scope.SpreadsFrom [selection] name ∨ scope.SpreadsFrom rest name := by
  simp only [SpreadsFrom, Selection.spreadsOf, List.append_nil, List.mem_append, or_and_right,
    exists_or]

theorem spreadsFrom_field {head : FieldHead} {selections : List Selection} :
    scope.SpreadsFrom [.field head selections] name ↔ scope.SpreadsFrom selections name := by
  simp [SpreadsFrom, Selection.spreadsOf, Selection.spreads]

theorem spreadsFrom_inlineFragment {condition? : Option TypeCondition}
    {selections : List Selection} :
    scope.SpreadsFrom [.inlineFragment condition? selections] name ↔
      scope.SpreadsFrom selections name := by
  simp [SpreadsFrom, Selection.spreadsOf, Selection.spreads]

/-- From a spread one comes to its fragment and to what is spread from its definition. -/
theorem spreadsFrom_spread {position : Position} {spread : String}
    {fragment : FragmentDefinition} (found : scope.fragment? spread = some fragment) :
    scope.SpreadsFrom [.spread position spread] name ↔
      name = spread ∨ scope.SpreadsFrom fragment.selections name := by
  simp only [SpreadsFrom, Selection.spreadsOf, Selection.spreads, List.append_nil,
    List.mem_singleton, exists_eq_left]
  rw [Relation.ReflTransGen.cases_head_iff]
  simp [Spreads, found, eq_comm]

theorem recursive_iff {fragment : FragmentDefinition} (found : scope.fragment? name = some fragment) :
    scope.Recursive name ↔ scope.SpreadsFrom fragment.selections name := by
  rw [Recursive, Relation.TransGen.head'_iff]
  simp [SpreadsFrom, Spreads, found]

end Scope

/-- Every fragment that is spread from inlined selections is new to the stack and
does not reach itself. The induction strengthens the second by the first: a
fragment that reached itself would be on the stack while it is inlined. -/
theorem Inlines.acyclic {scope : Scope} {container : TypeDefinition}
    {conditions active : List String} {selections : List Selection}
    {fields : List SelectedField} (h : Inlines scope container conditions active selections fields)
    {name : String} (reached : scope.SpreadsFrom selections name) :
    name ∉ active ∧ ¬ scope.Recursive name := by
  induction h with
  | nil => exact absurd reached Scope.not_spreadsFrom_nil
  | cons _ _ one all =>
    rcases Scope.spreadsFrom_cons.mp reached with reached | reached
    · exact one reached
    · exact all reached
  | typename _ _ => exact absurd (Scope.spreadsFrom_field.mp reached) Scope.not_spreadsFrom_nil
  | leaf _ _ _ _ _ => exact absurd (Scope.spreadsFrom_field.mp reached) Scope.not_spreadsFrom_nil
  | composite _ _ _ _ _ _ _ below => exact below (Scope.spreadsFrom_field.mp reached)
  | spread fresh found _ _ _ inside =>
    rcases (Scope.spreadsFrom_spread found).mp reached with rfl | reached
    · refine ⟨fresh, fun recursive => ?_⟩
      exact (inside ((Scope.recursive_iff found).mp recursive)).1 (by simp)
    · obtain ⟨new, acyclic⟩ := inside reached
      exact ⟨fun old => new (List.mem_cons_of_mem _ old), acyclic⟩
  | unconditional _ inside => exact inside (Scope.spreadsFrom_inlineFragment.mp reached)
  | conditional _ _ _ inside => exact inside (Scope.spreadsFrom_inlineFragment.mp reached)

end WebhookPayload
