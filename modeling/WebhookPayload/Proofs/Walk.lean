import WebhookPayload.Execution.Collection
import WebhookPayload.Proofs.Inlining
import WebhookPayload.Proofs.Shop

/-! # Selections without inlining

`Scope.Walks` reads selections as they are written: from left to right, with
fragments entered or passed over by their conditions. The fields that inlining
gives, less those whose recorded conditions are not met, are the fields of such
a walk (`Inlines.matches`). A condition on the container is not recorded, so this
rests on the container being implied by what is recorded. -/

namespace WebhookPayload

open GraphQL

/-- The alias, the name and the place of a field. -/
def GraphQL.FieldHead.origin (head : FieldHead) : Option String × String × Position :=
  (head.alias?, head.name, head.position)

def SelectedField.origin (field : SelectedField) : Option String × String × Position :=
  (field.alias?, field.name, field.position)

/-- The fields that are met in selections when a fragment is entered if it has no
condition or `enters` its condition, and else passed over. -/
inductive Scope.Walks (scope : Scope) (enters : String → Bool) :
    List Selection → List FieldHead → Prop
  | nil : Walks scope enters [] []
  | field {head selections rest others} (later : Walks scope enters rest others) :
      Walks scope enters (.field head selections :: rest) (head :: others)
  | enterSpread {position name fragment rest heads others}
      (found : scope.fragment? name = some fragment)
      (entered : enters fragment.condition.typeName = true)
      (inside : Walks scope enters fragment.selections heads)
      (later : Walks scope enters rest others) :
      Walks scope enters (.spread position name :: rest) (heads ++ others)
  | passSpread {position name fragment rest others}
      (found : scope.fragment? name = some fragment)
      (passed : enters fragment.condition.typeName = false)
      (later : Walks scope enters rest others) :
      Walks scope enters (.spread position name :: rest) others
  | unconditional {selections rest heads others} (inside : Walks scope enters selections heads)
      (later : Walks scope enters rest others) :
      Walks scope enters (.inlineFragment none selections :: rest) (heads ++ others)
  | enter {condition selections rest heads others}
      (entered : enters condition.typeName = true) (inside : Walks scope enters selections heads)
      (later : Walks scope enters rest others) :
      Walks scope enters (.inlineFragment (some condition) selections :: rest) (heads ++ others)
  | pass {condition selections rest others} (passed : enters condition.typeName = false)
      (later : Walks scope enters rest others) :
      Walks scope enters (.inlineFragment (some condition) selections :: rest) others

namespace Scope.Walks

variable {scope : Scope} {enters : String → Bool} {selections more : List Selection}
  {heads others : List FieldHead}

theorem append (h : scope.Walks enters selections heads) (h' : scope.Walks enters more others) :
    scope.Walks enters (selections ++ more) (heads ++ others) := by
  induction h with
  | nil => exact h'
  | field _ later => exact .field later
  | enterSpread found entered inside _ _ later =>
    rw [List.append_assoc]
    exact .enterSpread found entered inside later
  | passSpread found passed _ later => exact .passSpread found passed later
  | unconditional inside _ _ later =>
    rw [List.append_assoc]
    exact .unconditional inside later
  | enter entered inside _ _ later =>
    rw [List.append_assoc]
    exact .enter entered inside later
  | pass passed _ later => exact .pass passed later

/-- A walk meets the same fields every time. -/
theorem unique (h : scope.Walks enters selections heads)
    (h' : scope.Walks enters selections others) : heads = others := by
  induction h generalizing others with
  | nil =>
    cases h'
    rfl
  | field _ later =>
    cases h' with
    | field later' => rw [later later']
  | enterSpread found entered _ _ inside later =>
    cases h' with
    | enterSpread found' _ inside' later' =>
      cases found.symm.trans found'
      rw [inside inside', later later']
    | passSpread found' passed' _ =>
      cases found.symm.trans found'
      simp [entered] at passed'
  | passSpread found passed _ later =>
    cases h' with
    | enterSpread found' entered' _ _ =>
      cases found.symm.trans found'
      simp [passed] at entered'
    | passSpread _ _ later' => exact later later'
  | unconditional _ _ inside later =>
    cases h' with
    | unconditional inside' later' => rw [inside inside', later later']
  | enter entered _ _ inside later =>
    cases h' with
    | enter _ inside' later' => rw [inside inside', later later']
    | pass passed' _ => simp [entered] at passed'
  | pass passed _ later =>
    cases h' with
    | enter entered' _ _ => simp [passed] at entered'
    | pass _ later' => exact later later'

end Scope.Walks

/-! ## Recorded conditions -/

theorem subset_narrow (container : TypeDefinition) (conditions : List String)
    (condition : TypeCondition) : conditions ⊆ narrow container conditions condition := by
  unfold narrow
  split
  · exact fun _ h => h
  · exact List.subset_append_left _ _

/-- Every field inlined inside fragments has the conditions recorded there. -/
theorem Inlines.conditions_subset {scope : Scope} {container : TypeDefinition}
    {conditions active : List String} {selections : List Selection}
    {fields : List SelectedField} (h : Inlines scope container conditions active selections fields) :
    ∀ field ∈ fields, conditions ⊆ field.conditions := by
  induction h with
  | nil => simp
  | cons _ _ one all =>
    intro field member
    rcases List.mem_append.mp member with member | member
    · exact one field member
    · exact all field member
  | typename _ _ | leaf _ _ _ _ _ | composite _ _ _ _ _ _ _ _ =>
    intro field member
    cases List.mem_singleton.mp member
    exact fun _ h => h
  | unconditional _ inside => exact inside
  | spread _ _ _ _ _ inside | conditional _ _ _ inside =>
    exact fun field member => List.Subset.trans (subset_narrow _ _ _) (inside field member)

/-- The step into a fragment: if the container and all that is recorded outside is
admitted, then all that is recorded inside is exactly if the condition is. -/
theorem narrow_all {admits : String → Bool} {container : TypeDefinition}
    {conditions : List String} (condition : TypeCondition) (own : admits container.name = true)
    (outer : conditions.all admits = true) :
    (narrow container conditions condition).all admits = admits condition.typeName := by
  unfold narrow
  split
  · rename_i same
    rw [outer, same, own]
  · simp [List.all_append, outer]

/-- Fields that carry a condition that is not admitted do not remain. -/
theorem filter_eq_nil_of_conditions {admits : String → Bool} {conditions : List String}
    {fields : List SelectedField} (carried : ∀ field ∈ fields, conditions ⊆ field.conditions)
    (passed : conditions.all admits = false) : fields.filter (·.conditions.all admits) = [] := by
  obtain ⟨condition, member, refused⟩ := List.all_eq_false.mp passed
  refine List.filter_eq_nil_iff.mpr fun field hf all => refused ?_
  exact List.all_eq_true.mp all condition (carried field hf member)

/-- A walk of the selections meets the fields whose conditions are all admitted. -/
def Scope.Matches (scope : Scope) (admits : String → Bool) (selections : List Selection)
    (fields : List SelectedField) : Prop :=
  ∃ heads, scope.Walks admits selections heads ∧
    (fields.filter (·.conditions.all admits)).map SelectedField.origin =
      heads.map FieldHead.origin

/-- A fragment is either entered, with its fields as they are met there, or passed
over, and then none of its fields remains. -/
theorem Inlines.entered_or_passed {scope : Scope} {container type : TypeDefinition}
    {conditions active : List String} {condition : TypeCondition} {selections : List Selection}
    {fields : List SelectedField} {admits : String → Bool}
    (inlined : Inlines scope type (narrow container conditions condition) active selections fields)
    (defined : scope.schema.type? condition.typeName = some type)
    (own : admits container.name = true) (outer : conditions.all admits = true)
    (inside : admits type.name = true → (narrow container conditions condition).all admits = true →
      scope.Matches admits selections fields) :
    admits condition.typeName = true ∧ scope.Matches admits selections fields ∨
      admits condition.typeName = false ∧ fields.filter (·.conditions.all admits) = [] := by
  have step := narrow_all condition own outer
  cases h : admits condition.typeName with
  | true =>
    refine .inl ⟨rfl, inside ?_ (step.trans h)⟩
    rw [Schema.name_of_type? defined, h]
  | false =>
    exact .inr ⟨rfl, filter_eq_nil_of_conditions inlined.conditions_subset (step.trans h)⟩

/-- Inlined fields whose conditions are all admitted are the fields of a walk that
enters the fragments with admitted conditions. The container must be admitted
too; every container inside is, since it is named by a condition that is. -/
theorem Inlines.matches {scope : Scope} {container : TypeDefinition}
    {conditions active : List String} {selections : List Selection}
    {fields : List SelectedField}
    (h : Inlines scope container conditions active selections fields) (admits : String → Bool)
    (own : admits container.name = true) (outer : conditions.all admits = true) :
    scope.Matches admits selections fields := by
  induction h with
  | nil => exact ⟨[], .nil, rfl⟩
  | cons _ _ one all =>
    obtain ⟨heads, walk, same⟩ := one own outer
    obtain ⟨others, walk', same'⟩ := all own outer
    refine ⟨heads ++ others, walk.append walk', ?_⟩
    rw [List.filter_append, List.map_append, same, same', List.map_append]
  | typename _ _ | leaf _ _ _ _ _ | composite _ _ _ _ _ _ _ _ =>
    refine ⟨_, .field .nil, ?_⟩
    simp [FieldHead.selected, outer, SelectedField.origin, FieldHead.origin]
  | spread _ found defined _ inlined inside =>
    rcases inlined.entered_or_passed defined own outer inside with
      ⟨entered, heads, walk, same⟩ | ⟨passed, none⟩
    · exact ⟨heads ++ [], .enterSpread found entered walk .nil, by rw [List.append_nil, same]⟩
    · exact ⟨[], .passSpread found passed .nil, by rw [none]; rfl⟩
  | unconditional _ inside =>
    obtain ⟨heads, walk, same⟩ := inside own outer
    exact ⟨heads ++ [], .unconditional walk .nil, by rw [List.append_nil, same]⟩
  | conditional defined _ inlined inside =>
    rcases inlined.entered_or_passed defined own outer inside with
      ⟨entered, heads, walk, same⟩ | ⟨passed, none⟩
    · exact ⟨heads ++ [], .enter entered walk .nil, by rw [List.append_nil, same]⟩
    · exact ⟨[], .pass passed .nil, by rw [none]; rfl⟩

/-! ## Inlining keeps what selections mean -/

/-- On an object type that may stand for the container, the inlined fields that
apply are the fields of the selections as written: in order, with the same alias,
name and place, and with a fragment entered exactly if it has no condition or the
type meets it. -/
theorem inlineSelections_walks {scope : Scope} {container : TypeDefinition}
    {active : List String} {selections : List Selection} {fields : List SelectedField}
    (inlined : inlineSelections scope container [] active selections = .ok fields)
    {objectType : String} (possible : scope.schema.isPossible container.name objectType = true) :
    ∃ heads,
      (∀ walked, scope.Walks (scope.schema.isPossible · objectType) selections walked ↔
        walked = heads) ∧
      (fields.filter (·.applies scope.schema objectType)).map SelectedField.origin =
        heads.map FieldHead.origin := by
  obtain ⟨heads, walk, same⟩ := (inlineSelections_eq_ok_iff.mp inlined).matches
    (scope.schema.isPossible · objectType) possible rfl
  refine ⟨heads, fun walked => ⟨fun h => h.unique walk, ?_⟩, same⟩
  rintro rfl
  exact walk

namespace Shop

/-- `fragment origin on Event { issuedAt ... on OrderPaid { issuer { __typename } } }` -/
def originFragment : FragmentDefinition :=
  { position := ⟨1, 60⟩
    condition := condition 80 "Event"
    selections := [.field (head 88 "issuedAt") [],
      .inlineFragment (some (condition 100 "OrderPaid"))
        [.field (head 112 "issuer") [.field (head 121 "__typename") []]]] }

def scope : Scope :=
  { schema, variableValues := [], fragments := [("origin", originFragment)] }

/-- `... on OrderCreated { order { number } ...origin }` and then `...origin` -/
def selections : List Selection :=
  [.inlineFragment (some (condition 8 "OrderCreated"))
      [.field (head 23 "order") [.field (head 31 "number") []], .spread ⟨1, 40⟩ "origin"],
    .spread ⟨1, 52⟩ "origin"]

def inlined : List SelectedField :=
  let issuer (conditions : List String) := (head 112 "issuer").selected conditions []
    [(head 121 "__typename").selected [] [] []]
  [(head 23 "order").selected ["OrderCreated"] [] [(head 31 "number").selected [] [] []],
    (head 88 "issuedAt").selected ["OrderCreated", "Event"] [] [],
    issuer ["OrderCreated", "Event", "OrderPaid"],
    (head 88 "issuedAt").selected [] [] [],
    issuer ["OrderPaid"]]

end Shop

theorem inlineSelections_walks_on_orderCreated :
    inlineSelections Shop.scope Shop.event [] [] Shop.selections = .ok Shop.inlined ∧
    Shop.schema.isPossible "Event" "OrderCreated" = true ∧
    ∃ heads,
      (∀ walked, Shop.scope.Walks (Shop.schema.isPossible · "OrderCreated") Shop.selections
        walked ↔ walked = heads) ∧
      (Shop.inlined.filter (·.applies Shop.schema "OrderCreated")).map SelectedField.origin =
        heads.map FieldHead.origin :=
  have inlined : inlineSelections Shop.scope Shop.event [] [] Shop.selections = .ok Shop.inlined :=
    by cbv
  have possible : Shop.schema.isPossible "Event" "OrderCreated" = true := by decide
  ⟨inlined, possible, inlineSelections_walks inlined possible⟩

end WebhookPayload
