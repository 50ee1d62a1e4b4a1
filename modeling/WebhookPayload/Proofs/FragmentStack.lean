import Mathlib.Data.List.Perm.Subperm
import WebhookPayload.Proofs.ArgumentBinding
import WebhookPayload.Proofs.Shop
import WebhookPayload.Proofs.Validity

/-! # The stack of active fragments

The names of the fragments that are being inlined are kept on a stack that all
calls of the check share. A spread pushes its name, has the fragment checked and
pops a name, whatever came of the check. `Scope.Checks` follows a call with the
stack in hand: how the call finds it and leaves it, and which stacks are met on
the way; a call that does not end has no derivation. Every call has one, leaves
the stack as it finds it, and comes to what `inlineSelections` gives, which only
passes names down (`Scope.exists_checks`, `Scope.Checks.restores`). A cycle is
reported of a fragment that is reached and reaches itself (`Scope.Checks.cycle_of_error`). -/

namespace WebhookPayload

open GraphQL

namespace Scope

/-! ## Calls with a stack -/

/-- The definition of a selected field, and the type that its selections stand on
unless its values are leaves. -/
def opening (scope : Scope) (container : TypeDefinition) (head : FieldHead)
    (selections : List Selection) :
    Except QueryError (FieldDefinition × Option TypeDefinition) := do
  let definition ← Scope.fieldDefinition container head
  let type ← scope.fieldType head definition
  if type.isLeaf then
    if selections.isEmpty then return (definition, none)
    else .error (.scalarWithFields head.name head.position)
  else if selections.isEmpty then .error (.objectWithoutFields head.name head.position)
  else return (definition, some type)

/-- A field whose selections are checked; its arguments are bound last. -/
def select (scope : Scope) (conditions : List String) (head : FieldHead)
    (definition : FieldDefinition) (subfields : List SelectedField) :
    Except QueryError (List SelectedField) := do
  let arguments ← bindArguments scope.variableValues head definition.arguments
  return [head.selected conditions arguments subfields]

/-- A call that finds one stack, gives a result and leaves another, and the stacks
that it and the calls inside it find. -/
inductive Checks (scope : Scope) : TypeDefinition → List String → List Selection →
    List String → Except QueryError (List SelectedField) → List String → List (List String) → Prop
  | nil {container conditions stack} :
      Checks scope container conditions [] stack (.ok []) stack [stack]
  | next {container conditions selection rest before between after fields result met metLater}
      (first : Checks scope container conditions [selection] before (.ok fields) between met)
      (later : Checks scope container conditions rest between result after metLater) :
      Checks scope container conditions (selection :: rest) before ((fields ++ ·) <$> result) after
        (met ++ metLater)
  | stop {container conditions selection rest before after error met}
      (first : Checks scope container conditions [selection] before (.error error) after met) :
      Checks scope container conditions (selection :: rest) before (.error error) after met
  | typename {container conditions head selections stack} (named : head.name = typenameField) :
      Checks scope container conditions [.field head selections] stack
        ((fun field => [field]) <$> selectTypename conditions head selections) stack [stack]
  | refused {container conditions head selections stack error} (named : head.name ≠ typenameField)
      (refused : scope.opening container head selections = .error error) :
      Checks scope container conditions [.field head selections] stack (.error error) stack [stack]
  | leaf {container conditions head selections stack definition}
      (named : head.name ≠ typenameField)
      (opened : scope.opening container head selections = .ok (definition, none)) :
      Checks scope container conditions [.field head selections] stack
        (scope.select conditions head definition []) stack [stack]
  | composite {container conditions head selections before after result definition type met}
      (named : head.name ≠ typenameField)
      (opened : scope.opening container head selections = .ok (definition, some type))
      (inside : Checks scope type [] selections before result after met) :
      Checks scope container conditions [.field head selections] before
        (result >>= scope.select conditions head definition) after (before :: met)
  | cycle {container conditions position name stack} (active : name ∈ stack) :
      Checks scope container conditions [.spread position name] stack
        (.error (.fragmentCycle name position)) stack [stack]
  | missing {container conditions position name stack} (fresh : name ∉ stack)
      (missing : scope.fragment? name = none) :
      Checks scope container conditions [.spread position name] stack
        (.error (.fragmentNotFound name position)) stack [stack]
  /-- The name is pushed before the call and popped after it, also on an error. -/
  | spread {container conditions position name fragment before after result met}
      (fresh : name ∉ before) (found : scope.fragment? name = some fragment)
      (inside : Checks scope container conditions
        [.inlineFragment (some fragment.condition) fragment.selections] (name :: before) result
        after met) :
      Checks scope container conditions [.spread position name] before result after.tail
        (before :: met)
  | unconditional {container conditions selections before after result met}
      (inside : Checks scope container conditions selections before result after met) :
      Checks scope container conditions [.inlineFragment none selections] before result after
        (before :: met)
  | unmet {container conditions condition selections stack error}
      (refused : scope.conditionType condition = .error error) :
      Checks scope container conditions [.inlineFragment (some condition) selections] stack
        (.error error) stack [stack]
  | conditional {container conditions condition selections type before after result met}
      (defined : scope.conditionType condition = .ok type)
      (inside : Checks scope type (narrow container conditions condition) selections before result
        after met) :
      Checks scope container conditions [.inlineFragment (some condition) selections] before
        result after (before :: met)

variable {scope : Scope} {container : TypeDefinition} {conditions stack before after : List String}
  {selections : List Selection} {result : Except QueryError (List SelectedField)}
  {met : List (List String)}

/-! ## What the calls come to -/

theorem inlineSelection_field {head : FieldHead} (named : head.name ≠ typenameField) :
    inlineSelection scope container conditions stack (.field head selections) =
      scope.opening container head selections >>= fun opened =>
        (match opened.2 with
          | none => .ok []
          | some type => inlineSelections scope type [] stack selections) >>=
          scope.select conditions head opened.1 := by
  rw [inlineSelection, if_neg named, opening]
  cases Scope.fieldDefinition container head with
  | error error => rfl
  | ok definition =>
    rw [ok_bind, ok_bind]
    cases scope.fieldType head definition with
    | error error => rfl
    | ok type =>
      rw [ok_bind, ok_bind]
      cases type.isLeaf <;> cases selections <;> rfl

/-- Every call leaves the stack as it finds it, with a result or with an error, and
gives what inlining gives when the stack is only read. -/
theorem Checks.restores (h : scope.Checks container conditions selections before result after met) :
    after = before ∧ result = inlineSelections scope container conditions before selections := by
  induction h with
  | nil => exact ⟨rfl, by rw [inlineSelections]⟩
  | next _ _ one all =>
    obtain ⟨rfl, one⟩ := one
    obtain ⟨rfl, rfl⟩ := all
    rw [inlineSelections_singleton] at one
    rw [inlineSelections, ← one]
    exact ⟨rfl, rfl⟩
  | stop _ one =>
    obtain ⟨rfl, one⟩ := one
    rw [inlineSelections_singleton] at one
    rw [inlineSelections, ← one]
    exact ⟨rfl, rfl⟩
  | typename named =>
    rw [inlineSelections_singleton, inlineSelection, if_pos named]
    exact ⟨rfl, rfl⟩
  | refused named refused =>
    rw [inlineSelections_singleton, inlineSelection_field named, refused]
    exact ⟨rfl, rfl⟩
  | leaf named opened =>
    rw [inlineSelections_singleton, inlineSelection_field named, opened]
    exact ⟨rfl, rfl⟩
  | composite named opened _ inside =>
    obtain ⟨rfl, rfl⟩ := inside
    rw [inlineSelections_singleton, inlineSelection_field named, opened]
    exact ⟨rfl, rfl⟩
  | cycle active =>
    rw [inlineSelections_singleton, inlineSelection_cycle active]
    exact ⟨rfl, rfl⟩
  | missing fresh missing =>
    rw [inlineSelections_singleton, inlineSelection_missing fresh missing]
    exact ⟨rfl, rfl⟩
  | spread fresh found _ inside =>
    obtain ⟨rfl, rfl⟩ := inside
    rw [inlineSelections_singleton, inlineSelections_singleton, inlineSelection_spread fresh found]
    exact ⟨rfl, rfl⟩
  | unconditional _ inside =>
    obtain ⟨rfl, rfl⟩ := inside
    rw [inlineSelections_singleton, inlineSelection]
    exact ⟨rfl, rfl⟩
  | unmet refused =>
    rw [inlineSelections_singleton, inlineSelection, refused]
    exact ⟨rfl, rfl⟩
  | conditional defined _ inside =>
    obtain ⟨rfl, rfl⟩ := inside
    rw [inlineSelections_singleton, inlineSelection, defined]
    exact ⟨rfl, rfl⟩

/-- Every call ends. -/
theorem exists_checks (scope : Scope) (container : TypeDefinition)
    (conditions stack : List String) (selections : List Selection) :
    ∃ met, scope.Checks container conditions selections stack
      (inlineSelections scope container conditions stack selections) stack met := by
  refine inlineSelections.induct scope
    (fun container conditions stack selections => ∃ met,
      scope.Checks container conditions selections stack
        (inlineSelections scope container conditions stack selections) stack met)
    (fun container conditions stack selection => ∃ met,
      scope.Checks container conditions [selection] stack
        (inlineSelection scope container conditions stack selection) stack met)
    ?nil ?cons ?typename ?field ?cycle ?missing ?spread ?unconditional ?conditional
    container conditions stack selections
  case nil =>
    intro container conditions stack
    rw [inlineSelections]
    exact ⟨_, .nil⟩
  case cons =>
    intro container conditions stack selection rest one all
    obtain ⟨met, one⟩ := one
    obtain ⟨metLater, all⟩ := all
    rw [inlineSelections]
    cases given : inlineSelection scope container conditions stack selection with
    | error error =>
      rw [given] at one
      exact ⟨_, .stop one⟩
    | ok fields =>
      rw [given] at one
      exact ⟨_, .next one all⟩
  case typename =>
    intro container conditions stack head selections named
    rw [inlineSelection, if_pos named]
    exact ⟨_, .typename named⟩
  case field =>
    intro container conditions stack head selections named below
    rw [inlineSelection_field named]
    cases opened : scope.opening container head selections with
    | error error => exact ⟨_, .refused named opened⟩
    | ok opening =>
      obtain ⟨definition, type?⟩ := opening
      cases type? with
      | none => exact ⟨_, .leaf named opened⟩
      | some type =>
        obtain ⟨met, inside⟩ := below type
        exact ⟨_, .composite named opened inside⟩
  case cycle =>
    intro container conditions stack position name active
    rw [inlineSelection_cycle active]
    exact ⟨_, .cycle active⟩
  case missing =>
    intro container conditions stack position name fresh missing
    rw [inlineSelection_missing fresh missing]
    exact ⟨_, .missing fresh missing⟩
  case spread =>
    intro container conditions stack position name fresh fragment found inside
    rw [inlineSelection_spread fresh found, inlineSelection]
    cases defined : scope.conditionType fragment.condition with
    | error error => exact ⟨_, .spread fresh found (.unmet defined)⟩
    | ok type =>
      obtain ⟨met, inside⟩ := inside type
      exact ⟨_, .spread fresh found (.conditional defined inside)⟩
  case unconditional =>
    intro container conditions stack selections inside
    obtain ⟨met, inside⟩ := inside
    rw [inlineSelection]
    exact ⟨_, .unconditional inside⟩
  case conditional =>
    intro container conditions stack condition selections inside
    rw [inlineSelection]
    cases defined : scope.conditionType condition with
    | error error => exact ⟨_, .unmet defined⟩
    | ok type =>
      obtain ⟨met, inside⟩ := inside type
      exact ⟨_, .conditional defined inside⟩

/-! ## The names on the stack -/

/-- What is on the stack: different names, of fragments that are defined. -/
structure Active (scope : Scope) (stack : List String) : Prop where
  distinct : stack.Nodup
  defined : ∀ name ∈ stack, ∃ fragment, scope.fragment? name = some fragment

theorem active_nil (scope : Scope) : scope.Active [] := ⟨List.nodup_nil, nofun⟩

theorem Active.push {name : String} {fragment : FragmentDefinition} (h : scope.Active stack)
    (fresh : name ∉ stack) (found : scope.fragment? name = some fragment) :
    scope.Active (name :: stack) :=
  ⟨List.nodup_cons.mpr ⟨fresh, h.distinct⟩, List.forall_mem_cons.mpr ⟨⟨fragment, found⟩, h.defined⟩⟩

/-- The stack is never longer than the list of the definitions. -/
theorem Active.length_le (h : scope.Active stack) : stack.length ≤ scope.fragments.length := by
  have known : stack ⊆ scope.fragments.map Prod.fst := by
    intro name member
    obtain ⟨fragment, found⟩ := h.defined name member
    exact List.mem_map_of_mem (mem_of_fragment? found)
  have short := (h.distinct.subperm known).length_le
  rwa [List.length_map] at short

/-- The stacks that are met have different names of defined fragments, as the first has. -/
theorem Checks.active
    (h : scope.Checks container conditions selections before result after met)
    (start : scope.Active before) : ∀ stack ∈ met, scope.Active stack := by
  induction h with
  | nil | typename | refused | leaf | cycle | missing | unmet =>
    exact List.forall_mem_singleton.mpr start
  | next first _ one all =>
    rw [first.restores.1] at all
    exact List.forall_mem_append.mpr ⟨one start, all start⟩
  | stop _ one => exact one start
  | composite _ _ _ inside => exact List.forall_mem_cons.mpr ⟨start, inside start⟩
  | spread fresh found _ inside =>
    exact List.forall_mem_cons.mpr ⟨start, inside (start.push fresh found)⟩
  | unconditional _ inside => exact List.forall_mem_cons.mpr ⟨start, inside start⟩
  | conditional _ _ inside => exact List.forall_mem_cons.mpr ⟨start, inside start⟩

end Scope

/-! ## Where spreads stand -/

mutual

/-- The spreads in a selection, however deep inside it, with their positions. -/
def GraphQL.Selection.sites : Selection → List (Position × String)
  | .field _ selections => sitesOf selections
  | .spread position name => [(position, name)]
  | .inlineFragment _ selections => sitesOf selections

def GraphQL.Selection.sitesOf : List Selection → List (Position × String)
  | [] => []
  | selection :: rest => sites selection ++ sitesOf rest

end

namespace Scope

variable {scope : Scope} {selections : List Selection} {name : String} {position : Position}

/-- A fragment is spread at a position, in the selections or in a fragment that one comes to
from them. -/
def SpreadsAt (scope : Scope) (selections : List Selection) (name : String)
    (position : Position) : Prop :=
  (position, name) ∈ Selection.sitesOf selections ∨
    ∃ outer fragment, scope.SpreadsFrom selections outer ∧ scope.fragment? outer = some fragment ∧
      (position, name) ∈ Selection.sitesOf fragment.selections

theorem spreadsAt_cons {selection : Selection} {rest : List Selection} :
    scope.SpreadsAt (selection :: rest) name position ↔
      scope.SpreadsAt [selection] name position ∨ scope.SpreadsAt rest name position := by
  have either {outer : String} : scope.SpreadsFrom (selection :: rest) outer ↔
      scope.SpreadsFrom [selection] outer ∨ scope.SpreadsFrom rest outer := spreadsFrom_cons
  simp only [SpreadsAt, either, Selection.sitesOf, List.append_nil, List.mem_append, or_and_right,
    exists_or]
  exact or_or_or_comm

theorem spreadsAt_field {head : FieldHead} :
    scope.SpreadsAt [.field head selections] name position ↔
      scope.SpreadsAt selections name position := by
  simp only [SpreadsAt, spreadsFrom_field, Selection.sitesOf, Selection.sites, List.append_nil]

theorem spreadsAt_inlineFragment {condition? : Option TypeCondition} :
    scope.SpreadsAt [.inlineFragment condition? selections] name position ↔
      scope.SpreadsAt selections name position := by
  simp only [SpreadsAt, spreadsFrom_inlineFragment, Selection.sitesOf, Selection.sites,
    List.append_nil]

theorem SpreadsAt.of_fragment {spread : String} {place : Position} {fragment : FragmentDefinition}
    (found : scope.fragment? spread = some fragment)
    (h : scope.SpreadsAt fragment.selections name position) :
    scope.SpreadsAt [.spread place spread] name position := by
  have reaches {other : String} : scope.SpreadsFrom [.spread place spread] other ↔
      other = spread ∨ scope.SpreadsFrom fragment.selections other := spreadsFrom_spread found
  rcases h with here | ⟨outer, definition, reached, defined, there⟩
  · exact .inr ⟨spread, fragment, reaches.mpr (.inl rfl), found, here⟩
  · exact .inr ⟨outer, definition, reaches.mpr (.inr reached), defined, there⟩

end Scope

/-! ## Errors that are no cycles -/

theorem map_eq_error_iff {ε α β : Type} {f : α → β} {x : Except ε α} {e : ε} :
    f <$> x = .error e ↔ x = .error e := by
  cases x <;> simp [Functor.map, Except.map]

theorem bind_eq_error_iff {ε α β : Type} {x : Except ε α} {f : α → Except ε β} {e : ε} :
    (x >>= f) = .error e ↔ x = .error e ∨ ∃ a, x = .ok a ∧ f a = .error e := by
  cases x <;> simp [Bind.bind, Except.bind]

section

variable {name : String} {position : Position} {head : FieldHead}

theorem bindFrom_ne_cycle {known : Variables} {supplied : List Argument}
    {bound : List (String × Literal)} {definitions : List ArgumentDefinition} :
    bindFrom known head supplied bound definitions ≠ .error (.fragmentCycle name position) := by
  induction definitions generalizing supplied bound with
  | nil =>
    rw [bindFrom]
    split <;> simp
  | cons definition rest ih =>
    rw [bindFrom]
    intro h
    rcases bind_eq_error_iff.mp h with lacking | ⟨value?, -, h⟩
    · unfold argumentValue? at lacking
      split at lacking
      · rw [map_eq_error_iff, resolveVariables_eq, Variables.whenDefined] at lacking
        split at lacking <;> cases lacking
      · cases lacking
    · dsimp only at h
      split at h
      · cases h
      · split at h <;> exact ih h

theorem addDefaults_ne_cycle {known : Variables} {definitions : List VariableDefinition} :
    addDefaults known definitions ≠ .error (.fragmentCycle name position) := by
  induction definitions generalizing known with
  | nil => simp [addDefaults]
  | cons definition rest ih =>
    rw [addDefaults]
    split
    · exact ih
    · split
      · exact ih
      · simp

theorem Scope.select_ne_cycle {scope : Scope} {conditions : List String}
    {definition : FieldDefinition} {subfields : List SelectedField} :
    scope.select conditions head definition subfields ≠ .error (.fragmentCycle name position) := by
  intro h
  rcases bind_eq_error_iff.mp h with unbound | ⟨_, -, h⟩
  · exact bindFrom_ne_cycle unbound
  · cases h

theorem Scope.opening_ne_cycle {scope : Scope} {container : TypeDefinition}
    {selections : List Selection} :
    scope.opening container head selections ≠ .error (.fragmentCycle name position) := by
  intro h
  rcases bind_eq_error_iff.mp h with undeclared | ⟨definition, -, h⟩
  · unfold Scope.fieldDefinition at undeclared
    split at undeclared <;> cases undeclared
  · rcases bind_eq_error_iff.mp h with undefined | ⟨type, -, h⟩
    · unfold Scope.fieldType at undefined
      dsimp only at undefined
      split at undefined <;> cases undefined
    · split at h <;> split at h <;> cases h

theorem Scope.conditionType_ne_cycle {scope : Scope} {condition : TypeCondition} :
    scope.conditionType condition ≠ .error (.fragmentCycle name position) := by
  unfold Scope.conditionType
  split <;> simp

theorem selectTypename_ne_cycle {conditions : List String} {selections : List Selection} :
    selectTypename conditions head selections ≠ .error (.fragmentCycle name position) := by
  unfold selectTypename
  split
  · simp
  · split <;> simp

end

/-! ## What a cycle is reported of -/

namespace Scope

/-- A fragment is spread from the selections, at the position among others, and reaches itself. -/
structure HasCycle (scope : Scope) (selections : List Selection) (name : String)
    (position : Position) : Prop where
  reached : scope.SpreadsFrom selections name
  recursive : scope.Recursive name
  place : scope.SpreadsAt selections name position

variable {scope : Scope} {container : TypeDefinition} {conditions before after : List String}
  {selections : List Selection} {result : Except QueryError (List SelectedField)}
  {met : List (List String)} {name : String} {position : Position}

/-- The fragment of a reported cycle is on the stack that the call finds, or it reaches
itself. Inside a fragment that is on the stack only since its own spread, the first
gives the second. -/
theorem Checks.cycle_of_error
    (h : scope.Checks container conditions selections before result after met)
    (cycle : result = .error (.fragmentCycle name position)) :
    scope.SpreadsFrom selections name ∧ (name ∈ before ∨ scope.Recursive name) ∧
      scope.SpreadsAt selections name position := by
  induction h with
  | nil => cases cycle
  | next first _ _ all =>
    obtain ⟨reached, recursive, place⟩ := all (map_eq_error_iff.mp cycle)
    rw [first.restores.1] at recursive
    exact ⟨spreadsFrom_cons.mpr (.inr reached), recursive, spreadsAt_cons.mpr (.inr place)⟩
  | stop _ one =>
    obtain ⟨reached, recursive, place⟩ := one cycle
    exact ⟨spreadsFrom_cons.mpr (.inl reached), recursive, spreadsAt_cons.mpr (.inl place)⟩
  | typename named => exact absurd (map_eq_error_iff.mp cycle) selectTypename_ne_cycle
  | refused named refused =>
    cases cycle
    exact absurd refused opening_ne_cycle
  | leaf named opened => exact absurd cycle select_ne_cycle
  | composite named opened _ inside =>
    rcases bind_eq_error_iff.mp cycle with cycle | ⟨_, -, unbound⟩
    · obtain ⟨reached, recursive, place⟩ := inside cycle
      exact ⟨spreadsFrom_field.mpr reached, recursive, spreadsAt_field.mpr place⟩
    · exact absurd unbound select_ne_cycle
  | cycle active =>
    cases cycle
    refine ⟨⟨name, ?_, .refl⟩, .inl active, .inl ?_⟩
    · simp [Selection.spreadsOf, Selection.spreads]
    · simp [Selection.sitesOf, Selection.sites]
  | missing => cases cycle
  | spread fresh found _ inside =>
    obtain ⟨reached, recursive, place⟩ := inside cycle
    have reached := spreadsFrom_inlineFragment.mp reached
    refine ⟨(spreadsFrom_spread found).mpr (.inr reached), ?_,
      .of_fragment found (spreadsAt_inlineFragment.mp place)⟩
    rcases recursive with active | recursive
    · rcases List.mem_cons.mp active with rfl | active
      · exact .inr ((recursive_iff found).mpr reached)
      · exact .inl active
    · exact .inr recursive
  | unconditional _ inside =>
    obtain ⟨reached, recursive, place⟩ := inside cycle
    exact ⟨spreadsFrom_inlineFragment.mpr reached, recursive, spreadsAt_inlineFragment.mpr place⟩
  | unmet refused =>
    cases cycle
    exact absurd refused conditionType_ne_cycle
  | conditional _ _ inside =>
    obtain ⟨reached, recursive, place⟩ := inside cycle
    exact ⟨spreadsFrom_inlineFragment.mpr reached, recursive, spreadsAt_inlineFragment.mpr place⟩

/-- Of a call that finds the stack empty. -/
theorem Checks.hasCycle
    (h : scope.Checks container conditions selections [] (.error (.fragmentCycle name position))
      after met) : scope.HasCycle selections name position := by
  obtain ⟨reached, active | recursive, place⟩ := h.cycle_of_error rfl
  · cases active
  · exact ⟨reached, recursive, place⟩

end Scope

/-- Validation reports cycles only of the fragments of its operation. -/
theorem hasCycle_of_validate {schema : Schema} {document : Document} {name : String}
    {position : Position}
    (h : schema.validate document = .error (.fragmentCycle name position)) :
    ∃ name? operation, document.singleSubscription? = some (name?, operation) ∧
      (operationScope schema document operation).HasCycle operation.selections name position := by
  unfold Schema.validate Schema.validateWith at h
  split at h
  · cases h
  · rename_i name? operation single
    split at h
    · cases h
    · rename_i root rooted
      rcases bind_eq_error_iff.mp h with lacking | ⟨values, given, h⟩
      · exact absurd lacking addDefaults_ne_cycle
      · obtain ⟨-, rfl⟩ := addDefaults_eq_ok_iff.mp given
        refine ⟨name?, operation, single, ?_⟩
        rcases bind_eq_error_iff.mp h with cycle | ⟨fields, -, h⟩
        · obtain ⟨met, checks⟩ := (operationScope schema document operation).exists_checks root
            [] [] operation.selections
          unfold operationScope at checks ⊢
          rw [cycle] at checks
          exact checks.hasCycle
        · rcases bind_eq_error_iff.mp h with several | ⟨field, -, h⟩
          · unfold Schema.singleField at several
            split at several <;> cases several
          · split at h <;> cases h

/-- The check of selections ends, from every stack, and leaves the stack as it finds
it, with a result or with an error. From the empty stack it only meets stacks of
different names of defined fragments, of which there are no more than definitions, and
a cycle that it reports is there: the fragment is reached and reaches itself, and is
spread at the position. So are the cycles that validation reports of an operation. -/
theorem check_ends :
    (∀ (scope : Scope) container conditions selections before, ∃ result after met,
      scope.Checks container conditions selections before result after met) ∧
    (∀ (scope : Scope) container conditions selections before result after met,
      scope.Checks container conditions selections before result after met →
        after = before ∧
          result = inlineSelections scope container conditions before selections) ∧
    (∀ (scope : Scope) container conditions selections result after met,
      scope.Checks container conditions selections [] result after met →
        (∀ stack ∈ met, scope.Active stack ∧ stack.length ≤ scope.fragments.length) ∧
          ∀ name position, result = .error (.fragmentCycle name position) →
            scope.HasCycle selections name position) ∧
    ∀ (schema : Schema) document name position,
      schema.validate document = .error (.fragmentCycle name position) →
        ∃ name? operation, document.singleSubscription? = some (name?, operation) ∧
          (operationScope schema document operation).HasCycle operation.selections name
            position := by
  refine ⟨?ends, ?restores, ?active, fun _ _ _ _ => hasCycle_of_validate⟩
  case ends =>
    intro scope container conditions selections before
    exact ⟨_, _, scope.exists_checks container conditions before selections⟩
  case restores => exact fun _ _ _ _ _ _ _ _ checks => checks.restores
  case active =>
    intro scope container conditions selections result after met checks
    refine ⟨fun stack member => ?_, ?_⟩
    · have active := checks.active scope.active_nil stack member
      exact ⟨active, active.length_le⟩
    · rintro name position rfl
      exact checks.hasCycle

namespace Shop

/-- `fragment number on Order { number ...contents }` -/
def numberFragment : FragmentDefinition :=
  { position := ⟨2, 1⟩
    condition := condition 20 "Order"
    selections := [.field (head 28 "number") [], .spread ⟨2, 35⟩ "contents"] }

/-- `fragment contents on Order { lines { sku } ... on Order { ...number } }` -/
def contentsFragment : FragmentDefinition :=
  { position := ⟨3, 1⟩
    condition := condition 22 "Order"
    selections := [.field (head 30 "lines") [.field (head 38 "sku") []],
      .inlineFragment (some (condition 48 "Order")) [.spread ⟨3, 58⟩ "number"]] }

/-- `subscription { event { ... on OrderCreated { order { ...number } } } }` -/
def recursiveOperation : OperationDefinition :=
  { kind := .subscription, position := .start, variableDefinitions := []
    selections := [.field (head 16 "event") [.inlineFragment (some (condition 24 "OrderCreated"))
      [.field (head 46 "order") [.spread ⟨1, 54⟩ "number"]]]] }

def recursiveDocument : Document :=
  { operations := .anonymous recursiveOperation
    fragments := [("number", numberFragment), ("contents", contentsFragment)] }

end Shop

/-- The cycle is found where the second fragment spreads the first. -/
theorem check_ends_on_recursiveDocument :
    Shop.schema.validate Shop.recursiveDocument = .error (.fragmentCycle "number" ⟨3, 58⟩) ∧
      ∃ name? operation,
        Shop.recursiveDocument.singleSubscription? = some (name?, operation) ∧
        (operationScope Shop.schema Shop.recursiveDocument operation).HasCycle operation.selections
          "number" ⟨3, 58⟩ := by
  have reported : Shop.schema.validate Shop.recursiveDocument =
      .error (.fragmentCycle "number" ⟨3, 58⟩) := by cbv
  exact ⟨reported, check_ends.2.2.2 _ _ _ _ reported⟩

end WebhookPayload
