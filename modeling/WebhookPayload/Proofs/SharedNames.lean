import WebhookPayload.Proofs.Progress

/-! # Selections that share an output name

Nothing keeps a query from giving one output name to different fields, or to one
field with different arguments. Objects answer such selections together: the
first that applies decides the field and its arguments, and the others add what
they select below. A selection is answered by its own field exactly if it agrees
with the first, in name and arguments. -/

namespace WebhookPayload

open GraphQL

/-- The selections that stand side by side somewhere in a tree of selected
fields, as they are or after fields are merged for objects of a type. -/
inductive SelectionScope (schema : Schema) (root : SelectedField) : List SelectedField → Prop
  | top : SelectionScope schema root [root]
  | inside {fields field} (outer : SelectionScope schema root fields) (member : field ∈ fields) :
      SelectionScope schema root field.subfields
  | merged {fields typeName field} (outer : SelectionScope schema root fields)
      (collected : field ∈ collectFields schema typeName fields) :
      SelectionScope schema root field.subfields

/-- Selections that share an output name on an object are of one field, with equal arguments. -/
def ConflictFree (schema : Schema) (subscription : Subscription) : Prop :=
  ∀ fields, SelectionScope schema subscription.field fields →
    ∀ object, schema.type? object.name = some object → object.IsObject →
      ∀ a ∈ applicable schema object.name fields, ∀ b ∈ applicable schema object.name fields,
        a.outputName = b.outputName → a.name = b.name ∧ a.arguments = b.arguments

/-- A field answers a selection as its own field, by which its name and its arguments are
meant: both are equal. The answer stands under the same output name, and with all that
the selection selects below. -/
structure SelectedField.Serves (answer selection : SelectedField) : Prop where
  output : answer.outputName = selection.outputName
  name : answer.name = selection.name
  arguments : answer.arguments = selection.arguments
  below : selection.subfields ⊆ answer.subfields

/-- What an object of a type answers under the output name of a selection: the
first selection of that name that applies, with the subfields of all of them. -/
structure AnsweredBy (schema : Schema) (typeName : String) (fields : List SelectedField)
    (selection first answer : SelectedField) : Prop where
  leading : (applicable schema typeName fields).find? (·.outputName = selection.outputName) =
    some first
  collected : answer ∈ collectFields schema typeName fields
  alone : ∀ other ∈ collectFields schema typeName fields,
    other.outputName = selection.outputName → other = answer
  output : answer.outputName = selection.outputName
  name : answer.name = first.name
  arguments : answer.arguments = first.arguments
  below : answer.subfields = ((applicable schema typeName fields).filter
    (·.outputName = selection.outputName)).flatMap SelectedField.subfields

section

variable {schema : Schema} {typeName : String} {fields : List SelectedField}
  {selection first answer : SelectedField}

theorem exists_answeredBy (h : selection ∈ applicable schema typeName fields) :
    ∃ first answer, AnsweredBy schema typeName fields selection first answer := by
  have named : selection.outputName ∈ outputNames (applicable schema typeName fields) :=
    List.mem_eraseDups.mpr (List.mem_map_of_mem h)
  rw [← outputNames_collectFields] at named
  obtain ⟨answer, collected, output⟩ := List.mem_map.mp named
  obtain ⟨first, found, merged⟩ := exists_first_of_mem collected
  rw [output] at found merged
  refine ⟨first, answer, found, collected, ?_, output, by rw [merged], by rw [merged],
    by rw [merged]⟩
  intro other among same
  have distinct := nodup_collectFields schema typeName fields
  exact List.inj_on_of_nodup_map distinct among collected (same.trans output.symm)

/-- The answer has the name and the arguments of the first selection. So it is the own field
of just those selections that agree with the first, and they find below it all that they
select. -/
theorem AnsweredBy.serves_iff (h : AnsweredBy schema typeName fields selection first answer)
    (applies : selection ∈ applicable schema typeName fields) :
    answer.Serves selection ↔
      selection.name = first.name ∧ selection.arguments = first.arguments := by
  constructor
  · intro serves
    exact ⟨serves.name.symm.trans h.name, serves.arguments.symm.trans h.arguments⟩
  · rintro ⟨name, arguments⟩
    refine ⟨h.output, h.name.trans name.symm, h.arguments.trans arguments.symm, ?_⟩
    intro sub member
    rw [h.below]
    refine List.mem_flatMap.mpr ⟨selection, ?_, member⟩
    exact List.mem_filter.mpr ⟨applies, decide_eq_true rfl⟩

end

namespace Engine

variable {engine : Engine} {place : Place} {object : TypeDefinition} {parent : Json}
  {members : Members}

/-- An object at a position has the members that its fields are answered with. -/
theorem answerFields_of_answersObject (answers : engine.AnswersObject place object parent)
    (h : (engine.complete place).value? = some (.object members)) :
    ∃ context, (engine.answerFields place.field.subfields object parent place.path
      context).value? = some members := by
  obtain ⟨type, resolved, content, shape⟩ := answers
  unfold complete at h
  rw [content] at h
  rcases value?_completeField_eq_some.mp h with ⟨built, -⟩ | ⟨-, -, null⟩
  · unfold Engine.built at built
    rw [shape, build, Exec.value?_map] at built
    obtain ⟨found, out, same⟩ := Option.map_eq_some_iff.mp built
    cases same
    exact ⟨place.context, out⟩
  · cases null

/-- Under the output name of a selection is what its answer is completed to. -/
theorem exists_member_of_answeredBy (answers : engine.AnswersObject place object parent)
    (value : (engine.complete place).value? = some (.object members))
    {selection first answer : SelectedField}
    (answered : AnsweredBy engine.schema object.name place.field.subfields selection first
      answer) :
    ∃ context value, Members.get? members selection.outputName = some value ∧
      (engine.complete (engine.member object parent place.path answer context)).value? =
        some value := by
  obtain ⟨context, out⟩ := answerFields_of_answersObject answers value
  have keys : Members.keys members =
      (collectFields engine.schema object.name place.field.subfields).map
        SelectedField.outputName := by
    rw [keys_of_value? out, outputNames_collectFields]
  have present : selection.outputName ∈ Members.keys members := by
    rw [keys, ← answered.output]
    exact List.mem_map_of_mem answered.collected
  have distinct : (Members.keys members).Nodup := by
    rw [keys]
    exact nodup_collectFields _ _ _
  obtain ⟨⟨name, value⟩, held, same⟩ := List.mem_map.mp present
  obtain ⟨⟨other, after⟩, met, output, out⟩ := turn_of_member out held
  have collected := (Exec.turns_initial (engine.answerField object parent place.path) _ _).subset
    (List.mem_map_of_mem met)
  have answer := answered.alone other collected (output.trans same)
  subst answer
  refine ⟨after, value, ?_, out⟩
  rw [← same]
  exact Members.get?_of_mem distinct held

/-- Whatever is selected, an object answers all selections of an output name by
the first of them that applies to it. -/
theorem answered_by_first (engine : Engine) :
    (∀ typeName fields, ∀ selection ∈ applicable engine.schema typeName fields,
      ∃ first answer, AnsweredBy engine.schema typeName fields selection first answer ∧
        (answer.Serves selection ↔
          selection.name = first.name ∧ selection.arguments = first.arguments)) ∧
    ∀ place object parent members, engine.AnswersObject place object parent →
      (engine.complete place).value? = some (.object members) →
      ∀ selection first answer,
        AnsweredBy engine.schema object.name place.field.subfields selection first answer →
        ∃ context value, Members.get? members selection.outputName = some value ∧
          (engine.complete (engine.member object parent place.path answer context)).value? =
            some value := by
  constructor
  · intro typeName fields selection applies
    obtain ⟨first, answer, answered⟩ := exists_answeredBy applies
    exact ⟨first, answer, answered, answered.serves_iff applies⟩
  · intro place object parent members answers value selection first answer answered
    exact exists_member_of_answeredBy answers value answered

end Engine

/-! ## A conflict -/

namespace Shop

/-- The time of issue and the issuer are both called `label`. -/
def labelQuery : String :=
  "subscription { event { label: issuedAt label: issuer { ... on App { name } } } }"

def labelled (column : Nat) (name : String) (subfields : List SelectedField) : SelectedField :=
  { (head column name).selected [] [] subfields with alias? := some "label" }

def issuedAtField : SelectedField := labelled 24 "issuedAt" []

def issuerField : SelectedField :=
  labelled 40 "issuer" [(head 69 "name").selected ["App"] [] []]

def labelSubscription : Subscription :=
  { name? := none, field := (head 16 "event").selected [] [] [issuedAtField, issuerField] }

def issued : Event :=
  { eventType := "ORDER_CREATED"
    value := .object [("issuedAt", .string "09:30"),
      ("issuer", .object [("__typename", .string "App"), ("name", .string "Till")])] }

end Shop

theorem applicable_labels : applicable Shop.schema "OrderCreated"
    [Shop.issuedAtField, Shop.issuerField] = [Shop.issuedAtField, Shop.issuerField] := by
  rfl

/-- An accepted query may select two fields under one output name, and then its
second selection is lost. -/
theorem conflicting_labels :
    Shop.engine.prepare Shop.labelQuery = .ok Shop.labelSubscription ∧
      ¬ ConflictFree Shop.schema Shop.labelSubscription ∧
      (Shop.engine.generate Shop.issued Shop.labelQuery Shop.context none).payload? =
        some [("event", .object [("label", .string "09:30")])] := by
  have prepared : Shop.engine.prepare Shop.labelQuery = .ok Shop.labelSubscription := by cbv
  refine ⟨prepared, ?_, ?_⟩
  · intro free
    have scope : SelectionScope Shop.schema Shop.labelSubscription.field
        [Shop.issuedAtField, Shop.issuerField] := .inside .top (List.mem_singleton_self _)
    have known : Shop.schema.type? "OrderCreated" = some Shop.orderCreated := by rfl
    have agree := free _ scope Shop.orderCreated known ⟨_, _, rfl⟩
    rw [show Shop.orderCreated.name = "OrderCreated" from rfl, applicable_labels] at agree
    have same := (agree Shop.issuedAtField (by simp) Shop.issuerField (by simp) rfl).1
    exact absurd same (by decide)
  · unfold Engine.generate Engine.generatePrepared
    simp only [prepared]
    cbv

namespace Shop

/-- The position of the event in the response. -/
def issuedPlace : Place :=
  { field := labelSubscription.field
    path := [.field "event"]
    content := .declared (.named "Event" true) (.ok (.typed "OrderCreated" issued.value))
    context }

end Shop

theorem answered_by_first_on_labels :
    Shop.engine.AnswersObject Shop.issuedPlace Shop.orderCreated Shop.issued.value ∧
      (Shop.engine.complete Shop.issuedPlace).value? =
        some (.object [("label", .string "09:30")]) ∧
      ∃ answer context value,
        AnsweredBy Shop.schema "OrderCreated" [Shop.issuedAtField, Shop.issuerField]
          Shop.issuerField Shop.issuedAtField answer ∧
        ¬ answer.Serves Shop.issuerField ∧
        Members.get? [("label", .string "09:30")] "label" = some value ∧
        (Shop.engine.complete (Shop.engine.member Shop.orderCreated Shop.issued.value
          [.field "event"] answer context)).value? = some value := by
  have answers : Shop.engine.AnswersObject Shop.issuedPlace Shop.orderCreated Shop.issued.value :=
    ⟨_, _, rfl, rfl⟩
  have value : (Shop.engine.complete Shop.issuedPlace).value? =
      some (.object [("label", .string "09:30")]) := by cbv
  have applies : Shop.issuerField ∈
      applicable Shop.schema "OrderCreated" [Shop.issuedAtField, Shop.issuerField] := by
    simp [applicable_labels]
  obtain ⟨all, delivered⟩ := Engine.answered_by_first Shop.engine
  obtain ⟨first, answer, answered, serves⟩ := all _ _ _ applies
  have leading : first = Shop.issuedAtField := by
    have found : (applicable Shop.schema "OrderCreated" [Shop.issuedAtField,
        Shop.issuerField]).find? (·.outputName = "label") = some first := answered.leading
    rw [applicable_labels] at found
    exact (Option.some.inj found).symm
  subst leading
  have lost : ¬ answer.Serves Shop.issuerField := fun h => absurd (serves.mp h).1 (by decide)
  obtain ⟨context, found, held, out⟩ := delivered _ _ _ _ answers value _ _ _ answered
  exact ⟨answers, value, answer, context, found, answered, lost, held, out⟩

end WebhookPayload
