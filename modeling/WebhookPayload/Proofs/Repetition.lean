import WebhookPayload.Proofs.Containment

/-! # Repeated selections

A field that is selected again is merged into the first selection, and so its
subfields are selected again one level below. Nothing comes of it there either: if
resolvers do not look at what is selected below their field, an object is answered
as if every repetition were left out (`answerFields_append_of_subset`). -/

namespace WebhookPayload

open GraphQL

/-- No field resolver looks at what is selected below its field. -/
def Registry.IgnoresSubfields (registry : Registry) : Prop :=
  ∀ typeName parent (field : SelectedField) subfields context,
    (registry.fieldResolver typeName field.name parent { field with subfields }).run context =
      (registry.fieldResolver typeName field.name parent field).run context

/-! ## What is collected -/

section Collected

variable {fields repeated : List SelectedField}

theorem outputNames_append_of_subset (h : repeated ⊆ fields) :
    outputNames (fields ++ repeated) = outputNames fields := by
  have known : (repeated.map SelectedField.outputName).removeAll
      (fields.map SelectedField.outputName) = [] := by
    refine List.filter_eq_nil_iff.mpr fun name member => ?_
    simpa using List.map_subset _ h member
  rw [outputNames, List.map_append, List.eraseDups_append, known, outputNames]
  exact List.append_nil _

/-- Under a name that is selected again, what is selected below is selected again. -/
theorem mergedField?_append_of_subset (h : repeated ⊆ fields) {name : String}
    {field again : SelectedField} (merged : mergedField? name fields = some field)
    (merged' : mergedField? name (fields ++ repeated) = some again) :
    ∃ below ⊆ field.subfields, again = { field with subfields := field.subfields ++ below } := by
  obtain ⟨first, found, rfl⟩ := Option.map_eq_some_iff.mp merged
  rw [mergedField?, List.find?_append, found, Option.some_or, Option.map_some, Option.some_inj,
    List.filter_append, List.flatMap_append] at merged'
  refine ⟨_, ?_, merged'.symm⟩
  intro sub selected
  obtain ⟨field, member, selected⟩ := List.mem_flatMap.mp selected
  obtain ⟨member, named⟩ := List.mem_filter.mp member
  exact List.mem_flatMap.mpr ⟨field, List.mem_filter.mpr ⟨h member, named⟩, selected⟩

/-- Fields that are collected under the same names, in the same order, are in step. -/
theorem forall₂_collectFields {schema : Schema} {typeName : String}
    {others : List SelectedField} {R : SelectedField → SelectedField → Prop}
    (names : outputNames (applicable schema typeName fields) =
      outputNames (applicable schema typeName others))
    (merged : ∀ name field other,
      mergedField? name (applicable schema typeName fields) = some field →
      mergedField? name (applicable schema typeName others) = some other → R field other) :
    List.Forall₂ R (collectFields schema typeName fields)
      (collectFields schema typeName others) := by
  rw [← outputNames_collectFields, ← outputNames_collectFields, ← List.forall₂_eq_eq_eq,
    List.forall₂_map_left_iff, List.forall₂_map_right_iff, List.forall₂_iff_zip] at names
  refine List.forall₂_iff_zip.mpr ⟨names.1, fun {field other} paired => ?_⟩
  obtain ⟨member, member'⟩ := List.of_mem_zip paired
  have found := mergedField?_of_mem member'
  rw [← names.2 paired] at found
  exact merged _ field other (mergedField?_of_mem member) found

/-- With repetitions the same fields are collected, with repetitions below. -/
theorem collectFields_append_of_subset (schema : Schema) (typeName : String)
    (h : repeated ⊆ fields) :
    List.Forall₂
      (fun field again => ∃ below ⊆ field.subfields,
        again = { field with subfields := field.subfields ++ below })
      (collectFields schema typeName fields)
      (collectFields schema typeName (fields ++ repeated)) := by
  have known : applicable schema typeName repeated ⊆ applicable schema typeName fields :=
    List.filter_subset _ h
  refine forall₂_collectFields ?names ?merged
  case names => rw [applicable_append, outputNames_append_of_subset known]
  case merged =>
    intro name field again merged merged'
    rw [applicable_append] at merged'
    exact mergedField?_append_of_subset known merged merged'

end Collected

/-! ## What is answered -/

/-- What is selected below a field matters to its values only where objects are answered. -/
theorem Completion.complete_subfields (schema : Schema) (answer : ObjectAnswer)
    (field : SelectedField) (subfields : List SelectedField) (path : Path) (type : TypeRef)
    (resolved : Resolved) :
    complete schema answer { field with subfields } path type resolved =
      complete schema answer field path type resolved := by
  induction type generalizing path resolved with
  | named typeName nullable => rfl
  | list itemType nullable ih =>
    simp only [complete, ih]
    rfl

namespace Engine

variable {engine : Engine}

theorem resolve_subfields (ignores : engine.resolvers.IgnoresSubfields) (object : TypeDefinition)
    (parent : Json) (path : Path) (field : SelectedField) (subfields : List SelectedField) :
    engine.resolve object parent path { field with subfields } =
      engine.resolve object parent path field := by
  have runs : Exec.ofProgram (engine.resolvers.fieldResolver object.name field.name parent
        { field with subfields }) =
      Exec.ofProgram (engine.resolvers.fieldResolver object.name field.name parent field) := by
    funext context
    rw [Exec.ofProgram, Exec.ofProgram, ignores]
  unfold resolve
  exact congrArg _ (funext fun _ => runs)

theorem answerField_subfields (ignores : engine.resolvers.IgnoresSubfields)
    {field : SelectedField} {subfields : List SelectedField}
    (same : engine.answerFields subfields = engine.answerFields field.subfields)
    (object : TypeDefinition) (parent : Json) (path : Path) :
    engine.answerField object parent path { field with subfields } =
      engine.answerField object parent path field := by
  unfold answerField fieldValue
  simp only [same, resolve_subfields ignores, Completion.complete_subfields]
  rfl

/-- Selections that are repeated add nothing: members, errors, calls and context are
those without them. By induction on the heights of the fields, since a repetition
comes again one level below. -/
theorem answerFields_append_of_subset (ignores : engine.resolvers.IgnoresSubfields)
    {fields repeated : List SelectedField} (h : repeated ⊆ fields) (object : TypeDefinition)
    (parent : Json) (path : Path) (context : Context) :
    engine.answerFields (fields ++ repeated) object parent path context =
      engine.answerFields fields object parent path context := by
  rw [answerFields_eq, answerFields_eq]
  obtain ⟨length, again⟩ := List.forall₂_iff_zip.mp
    (collectFields_append_of_subset engine.schema object.name h)
  refine (congrFun (Exec.traverse_congr (List.forall₂_iff_zip.mpr ⟨length, ?_⟩)) context).symm
  intro field other paired
  obtain ⟨below, known, rfl⟩ := again paired
  have collected := (List.of_mem_zip paired).1
  have same : engine.answerFields (field.subfields ++ below) =
      engine.answerFields field.subfields := by
    funext object parent path context
    exact answerFields_append_of_subset ignores known object parent path context
  exact (answerField_subfields ignores same object parent path).symm
termination_by SelectedField.heights fields
decreasing_by exact SelectedField.heights_subfields_lt collected

end Engine

/-! ## An order that is selected again -/

namespace Shop

/-- Without `lines`, as in a fragment that is spread once more. -/
def numberField : SelectedField :=
  (head 40 "order").selected ["OrderCreated"] [] [(head 48 "number").selected [] [] []]

def orderFields : List SelectedField := numberField :: subscription.field.subfields

theorem guarded_ignoresSubfields : guarded.IgnoresSubfields := by
  intro typeName parent field subfields context
  have found : guarded.fieldResolver typeName field.name = numberResolver ∨
      guarded.fieldResolver typeName field.name = propertyResolver := by
    rw [Registry.fieldResolver, guarded, Registry.addField, List.lookup_cons]
    split
    · exact .inl rfl
    · exact .inr rfl
  rcases found with found | found <;> rw [found] <;> rfl

end Shop

theorem answerFields_append_of_subset_on_created :
    Shop.guarded.IgnoresSubfields ∧
      [Shop.numberField, Shop.numberField] ⊆ Shop.orderFields ∧
      (Engine.mk Shop.schema Shop.guarded).answerFields
          (Shop.orderFields ++ [Shop.numberField, Shop.numberField]) Shop.orderCreated
          Shop.created.value [.field "event"] (Shop.context.attachApp (some Shop.feed)) =
        (Engine.mk Shop.schema Shop.guarded).answerFields Shop.orderFields Shop.orderCreated
          Shop.created.value [.field "event"] (Shop.context.attachApp (some Shop.feed)) ∧
      ((Engine.mk Shop.schema Shop.guarded).answerFields Shop.orderFields Shop.orderCreated
          Shop.created.value [.field "event"] (Shop.context.attachApp (some Shop.feed))).value? =
        some [("order", .null), ("__typename", .string "OrderCreated")] := by
  have known : [Shop.numberField, Shop.numberField] ⊆ Shop.orderFields := by
    simp [Shop.orderFields]
  refine ⟨Shop.guarded_ignoresSubfields, known, ?_, ?_⟩
  · exact Engine.answerFields_append_of_subset Shop.guarded_ignoresSubfields known _ _ _ _
  · cbv

end WebhookPayload
