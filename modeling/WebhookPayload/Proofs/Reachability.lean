import WebhookPayload.Proofs.FragmentGraph

/-! # Which selections an operation comes to

`Scope.Reaches` follows sub-selections, inline fragments and spreads, and says on
which container each selection stands. `Scope.WellFormed` looks at one selection
and its container alone. Together with the graph of fragments they decide
whether inlining succeeds (`exists_inlines_iff`), without any stack. -/

namespace WebhookPayload

open GraphQL

namespace Scope

/-- What stands inside a selection on a container, with the type it stands on. -/
inductive Opens (scope : Scope) (container : TypeDefinition) :
    Selection → TypeDefinition → List Selection → Prop
  | field {head inner definition type} (declared : container.field? head.name = some definition)
      (defined : scope.schema.type? definition.type.underlying = some type) :
      Opens scope container (.field head inner) type inner
  | spread {position name fragment type} (found : scope.fragment? name = some fragment)
      (defined : scope.schema.type? fragment.condition.typeName = some type) :
      Opens scope container (.spread position name) type fragment.selections
  | unconditional {inner} : Opens scope container (.inlineFragment none inner) container inner
  | conditional {condition inner type}
      (defined : scope.schema.type? condition.typeName = some type) :
      Opens scope container (.inlineFragment (some condition) inner) type inner

/-- From selections on a container one comes to a selection on a type. -/
inductive Reaches (scope : Scope) :
    TypeDefinition → List Selection → TypeDefinition → Selection → Prop
  | here {container selections selection} (member : selection ∈ selections) :
      Reaches scope container selections container selection
  | inside {container selections outer type inner target selection} (member : outer ∈ selections)
      (opens : scope.Opens container outer type inner)
      (reached : Reaches scope type inner target selection) :
      Reaches scope container selections target selection

/-- A condition names a type that has fields to select. -/
def Conditional (scope : Scope) (condition : TypeCondition) : Prop :=
  ∃ type, scope.schema.type? condition.typeName = some type ∧ type.isComposite = true

/-- A field that the container declares, of a type that is defined and has fields
to select exactly if some are selected, with arguments that can be bound. -/
def Declared (scope : Scope) (container : TypeDefinition) (head : FieldHead)
    (selections : List Selection) : Prop :=
  ∃ definition type arguments, container.field? head.name = some definition ∧
    scope.schema.type? definition.type.underlying = some type ∧
    (type.isLeaf = true ∧ selections = [] ∨ type.isComposite = true ∧ selections ≠ []) ∧
    bindArguments scope.variableValues head definition.arguments = .ok arguments

/-- Whether a selection fits its container. The name of an object's type can be
asked for on every container, whatever the container declares. -/
def WellFormed (scope : Scope) (container : TypeDefinition) : Selection → Prop
  | .field head selections =>
    if head.name = typenameField then head.arguments = [] ∧ selections = []
    else scope.Declared container head selections
  | .spread _ name =>
    ∃ fragment, scope.fragment? name = some fragment ∧ scope.Conditional fragment.condition
  | .inlineFragment none _ => True
  | .inlineFragment (some condition) _ => scope.Conditional condition

variable {scope : Scope} {container target : TypeDefinition} {selections : List Selection}
  {selection : Selection}

theorem reaches_cons {first : Selection} :
    scope.Reaches container (first :: selections) target selection ↔
      scope.Reaches container [first] target selection ∨
        scope.Reaches container selections target selection := by
  constructor
  · intro h
    cases h with
    | here member =>
      rcases List.mem_cons.mp member with rfl | member
      · exact .inl (.here (by simp))
      · exact .inr (.here member)
    | inside member opens reached =>
      rcases List.mem_cons.mp member with rfl | member
      · exact .inl (.inside (by simp) opens reached)
      · exact .inr (.inside member opens reached)
  · rintro (h | h)
    · cases h with
      | here member => exact .here (by simp_all)
      | inside member opens reached => exact .inside (by simp_all) opens reached
    · cases h with
      | here member => exact .here (List.mem_cons_of_mem _ member)
      | inside member opens reached => exact .inside (List.mem_cons_of_mem _ member) opens reached

theorem reaches_singleton {first : Selection} :
    scope.Reaches container [first] target selection ↔
      target = container ∧ selection = first ∨
        ∃ type inner, scope.Opens container first type inner ∧
          scope.Reaches type inner target selection := by
  constructor
  · intro h
    cases h with
    | here member => exact .inl ⟨rfl, by simpa using member⟩
    | inside member opens reached =>
      cases List.mem_singleton.mp member
      exact .inr ⟨_, _, opens, reached⟩
  · rintro (⟨rfl, rfl⟩ | ⟨type, inner, opens, reached⟩)
    · exact .here (by simp)
    · exact .inside (by simp) opens reached

theorem not_reaches_nil : ¬ scope.Reaches container [] target selection := by
  intro h
  cases h <;> simp_all

/-- All selections that one comes to fit their containers. -/
def AllWellFormed (scope : Scope) (container : TypeDefinition) (selections : List Selection) :
    Prop :=
  ∀ target selection, scope.Reaches container selections target selection →
    scope.WellFormed target selection

theorem allWellFormed_nil : scope.AllWellFormed container [] :=
  fun _ _ h => absurd h not_reaches_nil

theorem allWellFormed_cons {first : Selection} :
    scope.AllWellFormed container (first :: selections) ↔
      scope.AllWellFormed container [first] ∧ scope.AllWellFormed container selections := by
  constructor
  · intro h
    exact ⟨fun target selection reached => h _ _ (reaches_cons.mpr (.inl reached)),
      fun target selection reached => h _ _ (reaches_cons.mpr (.inr reached))⟩
  · rintro ⟨one, all⟩ target selection reached
    rcases reaches_cons.mp reached with reached | reached
    · exact one _ _ reached
    · exact all _ _ reached

theorem allWellFormed_singleton {first : Selection} :
    scope.AllWellFormed container [first] ↔ scope.WellFormed container first ∧
      ∀ type inner, scope.Opens container first type inner → scope.AllWellFormed type inner := by
  constructor
  · intro h
    refine ⟨h _ _ (.here (by simp)), fun type inner opens target selection reached => ?_⟩
    exact h _ _ (.inside (by simp) opens reached)
  · rintro ⟨own, inside⟩ target selection reached
    rcases reaches_singleton.mp reached with ⟨rfl, rfl⟩ | ⟨type, inner, opens, reached⟩
    · exact own
    · exact inside type inner opens target selection reached

end Scope

theorem Inlines.allWellFormed {scope : Scope} {container : TypeDefinition}
    {conditions active : List String} {selections : List Selection}
    {fields : List SelectedField} (h : Inlines scope container conditions active selections fields) :
    scope.AllWellFormed container selections := by
  induction h with
  | nil => exact Scope.allWellFormed_nil
  | cons _ _ one all => exact Scope.allWellFormed_cons.mpr ⟨one, all⟩
  | typename named plain =>
    refine Scope.allWellFormed_singleton.mpr ⟨?_, ?_⟩
    · simp [Scope.WellFormed, named, plain]
    · rintro type inner ⟨-, -⟩
      exact Scope.allWellFormed_nil
  | leaf named declared defined kind bound =>
    refine Scope.allWellFormed_singleton.mpr ⟨?_, ?_⟩
    · rw [Scope.WellFormed, if_neg named]
      exact ⟨_, _, _, declared, defined, .inl ⟨kind, rfl⟩, bound⟩
    · rintro type inner ⟨-, -⟩
      exact Scope.allWellFormed_nil
  | composite named declared defined kind nonempty _ bound below =>
    refine Scope.allWellFormed_singleton.mpr ⟨?_, ?_⟩
    · rw [Scope.WellFormed, if_neg named]
      exact ⟨_, _, _, declared, defined, .inr ⟨kind, nonempty⟩, bound⟩
    · rintro type inner ⟨declared', defined'⟩
      cases declared.symm.trans declared'
      cases defined.symm.trans defined'
      exact below
  | spread _ found defined kind _ inside =>
    refine Scope.allWellFormed_singleton.mpr ⟨⟨_, found, _, defined, kind⟩, ?_⟩
    rintro type inner opens
    cases opens with
    | spread found' defined' =>
      cases found.symm.trans found'
      cases defined.symm.trans defined'
      exact inside
  | unconditional _ inside =>
    refine Scope.allWellFormed_singleton.mpr ⟨trivial, ?_⟩
    rintro type inner ⟨⟩
    exact inside
  | conditional defined kind _ inside =>
    refine Scope.allWellFormed_singleton.mpr ⟨⟨_, defined, kind⟩, ?_⟩
    rintro type inner opens
    cases opens with
    | conditional defined' =>
      cases defined.symm.trans defined'
      exact inside

/-- The converse: where all selections fit and no fragment comes back to itself,
there is a derivation. A spread name cannot be on the stack, and inside its
fragment it is not met again, since the fragment would reach itself. -/
theorem exists_inlines (scope : Scope) (container : TypeDefinition)
    (conditions active : List String) (selections : List Selection)
    (fit : scope.AllWellFormed container selections)
    (fresh : ∀ name, scope.SpreadsFrom selections name → name ∉ active ∧ ¬ scope.Recursive name) :
    ∃ fields, Inlines scope container conditions active selections fields := by
  revert fit fresh
  refine inlineSelections.induct scope
    (fun container conditions active selections => scope.AllWellFormed container selections →
      (∀ name, scope.SpreadsFrom selections name → name ∉ active ∧ ¬ scope.Recursive name) →
        ∃ fields, Inlines scope container conditions active selections fields)
    (fun container conditions active selection => scope.AllWellFormed container [selection] →
      (∀ name, scope.SpreadsFrom [selection] name → name ∉ active ∧ ¬ scope.Recursive name) →
        ∃ fields, Inlines scope container conditions active [selection] fields)
    ?nil ?cons ?typename ?field ?cycle ?missing ?spread ?unconditional ?conditional
    container conditions active selections
  case nil => exact fun _ _ _ _ _ => ⟨_, .nil⟩
  case cons =>
    intro container conditions active selection rest one all fit fresh
    obtain ⟨fitOne, fitAll⟩ := Scope.allWellFormed_cons.mp fit
    obtain ⟨a, ha⟩ := one fitOne fun name h => fresh name (Scope.spreadsFrom_cons.mpr (.inl h))
    obtain ⟨b, hb⟩ := all fitAll fun name h => fresh name (Scope.spreadsFrom_cons.mpr (.inr h))
    exact ⟨_, .cons ha hb⟩
  case typename =>
    intro container conditions active head selections named fit fresh
    have own := (Scope.allWellFormed_singleton.mp fit).1
    rw [Scope.WellFormed, if_pos named] at own
    obtain ⟨plain, rfl⟩ := own
    exact ⟨_, .typename named plain⟩
  case field =>
    intro container conditions active head selections named below fit fresh
    obtain ⟨own, inside⟩ := Scope.allWellFormed_singleton.mp fit
    rw [Scope.WellFormed, if_neg named] at own
    obtain ⟨definition, type, arguments, declared, defined, kind, bound⟩ := own
    rcases kind with ⟨kind, rfl⟩ | ⟨kind, nonempty⟩
    · exact ⟨_, .leaf named declared defined kind bound⟩
    · obtain ⟨subfields, hs⟩ := below type (inside _ _ (.field declared defined))
        fun name h => fresh name (Scope.spreadsFrom_field.mpr h)
      exact ⟨_, .composite named declared defined kind nonempty hs bound⟩
  case cycle =>
    intro container conditions active position name known fit fresh
    obtain ⟨fragment, found, -⟩ := (Scope.allWellFormed_singleton.mp fit).1
    exact absurd known (fresh name ((Scope.spreadsFrom_spread found).mpr (.inl rfl))).1
  case missing =>
    intro container conditions active position name _ missing fit
    obtain ⟨fragment, found, -⟩ := (Scope.allWellFormed_singleton.mp fit).1
    rw [missing] at found
    cases found
  case spread =>
    intro container conditions active position name new fragment found inside fit fresh
    obtain ⟨⟨fragment', found', type, defined, kind⟩, fitInside⟩ :=
      Scope.allWellFormed_singleton.mp fit
    cases found.symm.trans found'
    have acyclic := (fresh name ((Scope.spreadsFrom_spread found).mpr (.inl rfl))).2
    obtain ⟨fields, hf⟩ := inside type (fitInside _ _ (.spread found defined)) fun other h => by
      obtain ⟨old, acyclicOther⟩ := fresh other ((Scope.spreadsFrom_spread found).mpr (.inr h))
      refine ⟨fun known => ?_, acyclicOther⟩
      rcases List.mem_cons.mp known with rfl | known
      · exact acyclic ((Scope.recursive_iff found).mpr h)
      · exact old known
    exact ⟨_, .spread new found defined kind hf⟩
  case unconditional =>
    intro container conditions active selections inside fit fresh
    obtain ⟨fields, hf⟩ := inside ((Scope.allWellFormed_singleton.mp fit).2 _ _ .unconditional)
      fun name h => fresh name (Scope.spreadsFrom_inlineFragment.mpr h)
    exact ⟨_, .unconditional hf⟩
  case conditional =>
    intro container conditions active condition selections inside fit fresh
    obtain ⟨⟨type, defined, kind⟩, fitInside⟩ := Scope.allWellFormed_singleton.mp fit
    obtain ⟨fields, hf⟩ := inside type (fitInside _ _ (.conditional defined))
      fun name h => fresh name (Scope.spreadsFrom_inlineFragment.mpr h)
    exact ⟨_, .conditional defined kind hf⟩

/-- Inlining succeeds exactly on selections that fit, from which no fragment is
spread that is on the stack or reaches itself. -/
theorem exists_inlines_iff {scope : Scope} {container : TypeDefinition}
    {conditions active : List String} {selections : List Selection} :
    (∃ fields, Inlines scope container conditions active selections fields) ↔
      scope.AllWellFormed container selections ∧
        ∀ name, scope.SpreadsFrom selections name → name ∉ active ∧ ¬ scope.Recursive name := by
  constructor
  · rintro ⟨fields, h⟩
    exact ⟨h.allWellFormed, fun name => h.acyclic⟩
  · rintro ⟨fit, fresh⟩
    exact exists_inlines scope container conditions active selections fit fresh

end WebhookPayload
