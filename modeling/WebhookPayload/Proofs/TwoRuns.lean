import WebhookPayload.Proofs.Likeness
import WebhookPayload.Proofs.Turns

/-! # Two runs side by side

Two programs run alike if in every context their answers are related and leave the same
context behind. Computations that complete parts of a response run alike if they come to
related values and record alike errors, and every way to combine computations respects
that. So resolvers that run alike make executions that end alike
(`Engine.execute_runsAlike`), whatever the likeness is. -/

namespace WebhookPayload

open GraphQL

variable {α β γ δ : Type} {R : α → β → Prop} {S : γ → δ → Prop}

/-- Items that are related stay so with their indices. -/
theorem forall₂_zipIdx {α β : Type} {R : α → β → Prop} {items : List α} {others : List β}
    (h : List.Forall₂ R items others) (start : Nat) :
    List.Forall₂ (fun item other => R item.1 other.1 ∧ item.2 = other.2) (items.zipIdx start)
      (others.zipIdx start) := by
  induction h generalizing start with
  | nil => exact .nil
  | cons first _ ih => exact .cons ⟨first, rfl⟩ (ih (start + 1))

/-! ## Programs -/

/-- In every context the answers are related and the contexts afterwards are the same. -/
def Program.RunsAlike (R : α → β → Prop) (program : Program α) (other : Program β) : Prop :=
  ∀ context, R (program.run context).answer (other.run context).answer ∧
    (program.run context).context = (other.run context).context

namespace Program

theorem RunsAlike.of_eq {program : Program α} {other : Program β} (h : program.RunsAlike R other)
    {context context' : Context} (same : context = context') :
    R (program.run context).answer (other.run context').answer ∧
      (program.run context).context = (other.run context').context := by
  subst same
  exact h context

theorem runsAlike_done {a : α} {b : β} (h : R a b) : RunsAlike R (done a) (done b) :=
  fun _ => ⟨h, rfl⟩

/-- Programs that ask for the same thing and go on alike. -/
theorem runsAlike_perform {op : Operation} {next : op.Answer → Program α}
    {next' : op.Answer → Program β} (h : ∀ answer, RunsAlike R (next answer) (next' answer)) :
    RunsAlike R (perform op next) (perform op next') := by
  intro context
  exact h (context.perform op).answer (context.perform op).context

theorem runsAlike_bind {program : Program α} {other : Program β} {f : α → Program γ}
    {g : β → Program δ} (h : RunsAlike R program other)
    (next : ∀ a b, R a b → RunsAlike S (f a) (g b)) :
    RunsAlike S (program.bind f) (other.bind g) := by
  intro context
  obtain ⟨answers, after⟩ := h context
  rw [run_bind, run_bind]
  exact (next _ _ answers).of_eq after

end Program

/-! ## Computations -/

/-- Errors at one position, for the same places of the query and for alike causes. -/
structure ExecutionError.Alike (likeness : Likeness) (error other : ExecutionError) : Prop where
  cause : likeness.cause error.cause other.cause
  path : error.path = other.path
  locations : error.locations = other.locations

/-- Related values, alike errors and the same context afterwards. -/
structure Outcome.Alike (likeness : Likeness) (R : α → β → Prop) (outcome : Outcome α)
    (other : Outcome β) : Prop where
  value? : Option.Rel R outcome.value? other.value?
  errors : List.Forall₂ (ExecutionError.Alike likeness) outcome.errors other.errors
  context : outcome.context = other.context

variable {likeness : Likeness}

theorem Outcome.Alike.value?_eq {outcome other : Outcome α} (h : outcome.Alike likeness Eq other) :
    outcome.value? = other.value? := by
  obtain ⟨values, -, -⟩ := h
  generalize outcome.value? = value?, other.value? = other? at values ⊢
  cases values with
  | none => rfl
  | some same => rw [same]

def Exec.RunsAlike (likeness : Likeness) (R : α → β → Prop) (x : Exec α) (y : Exec β) : Prop :=
  ∀ context, (x context).Alike likeness R (y context)

namespace Exec

variable {x : Exec α} {y : Exec β}

theorem runsAlike_pure {a : α} {b : β} (h : R a b) :
    RunsAlike likeness R (Exec.pure a) (Exec.pure b) :=
  fun _ => { value? := .some h, errors := .nil, context := rfl }

theorem runsAlike_fail {error other : ExecutionError} (h : error.Alike likeness other) :
    RunsAlike likeness R (Exec.fail error) (Exec.fail other) :=
  fun _ => { value? := .none, errors := .cons h .nil, context := rfl }

theorem runsAlike_record {error other : ExecutionError} (h : error.Alike likeness other) :
    RunsAlike likeness Eq (Exec.record error) (Exec.record other) :=
  fun _ => { value? := .some rfl, errors := .cons h .nil, context := rfl }

theorem runsAlike_note (entries others : Trace) :
    RunsAlike likeness Eq (Exec.note entries) (Exec.note others) :=
  fun _ => { value? := .some rfl, errors := .nil, context := rfl }

theorem runsAlike_ofProgram {program : Program α} {other : Program β}
    (h : program.RunsAlike R other) :
    RunsAlike likeness R (Exec.ofProgram program) (Exec.ofProgram other) :=
  fun context => { value? := .some (h context).1, errors := .nil, context := (h context).2 }

theorem runsAlike_bind {f : α → Exec γ} {g : β → Exec δ} (h : RunsAlike likeness R x y)
    (next : ∀ a b, R a b → RunsAlike likeness S (f a) (g b)) :
    RunsAlike likeness S (x.bind f) (y.bind g) := by
  intro context
  obtain ⟨values, errors, after⟩ := h context
  generalize left : (x context).value? = value?, right : (y context).value? = other? at values
  cases values with
  | none =>
    rw [bind_of_none left, bind_of_none right]
    exact { value? := .none, errors, context := after }
  | some related =>
    rw [bind_of_some left, bind_of_some right, after]
    obtain ⟨values, others, last⟩ := next _ _ related (y context).context
    exact { value? := values, errors := List.rel_append errors others, context := last }

theorem runsAlike_map {f : α → γ} {g : β → δ} (h : RunsAlike likeness R x y)
    (values : ∀ a b, R a b → S (f a) (g b)) : RunsAlike likeness S (f <$> x) (g <$> y) :=
  runsAlike_bind h fun a b related => runsAlike_pure (values a b related)

theorem runsAlike_traverse {f : α → Exec γ} {g : β → Exec γ} {items : List α} {others : List β}
    (h : List.Forall₂ (fun a b => RunsAlike likeness Eq (f a) (g b)) items others) :
    RunsAlike likeness Eq (Exec.traverse f items) (Exec.traverse g others) := by
  induction h with
  | nil => exact runsAlike_pure rfl
  | cons first _ ih =>
    refine runsAlike_bind first fun value _ same => ?_
    subst same
    refine runsAlike_bind ih fun values _ same => ?_
    subst same
    exact runsAlike_pure rfl

/-- What a position allows depends on the value alone. -/
theorem runsAlike_atPosition (nullable : Bool) {error other : ExecutionError}
    (errors : error.Alike likeness other) {x y : Exec Json} (h : RunsAlike likeness Eq x y) :
    RunsAlike likeness Eq (Exec.atPosition nullable error x)
      (Exec.atPosition nullable other y) := by
  intro context
  have values := (h context).value?_eq
  refine { value? := ?_, errors := ?_, context := ?_ }
  · rw [value?_atPosition, value?_atPosition, values]
    generalize (if nullable then _ else _) = value?
    cases value? with
    | none => exact .none
    | some value => exact .some rfl
  · rw [errors_atPosition, errors_atPosition, values]
    refine List.rel_append (h context).errors ?_
    split
    · exact .cons errors .nil
    · exact .nil
  · rw [context_atPosition, context_atPosition, (h context).context]

end Exec

/-! ## Executions -/

/-- Field resolvers, subscribers and the items of their streams run alike. -/
structure Registry.RunsAlike (likeness : Likeness) (registry other : Registry) : Prop where
  fields : ∀ typeName fieldName parent field,
    (registry.fieldResolver typeName fieldName parent field).RunsAlike likeness.resolved
      (other.fieldResolver typeName fieldName parent field)
  subscriptions : ∀ fieldName event field,
    (registry.subscriber fieldName event field).RunsAlike
      (BothSettle likeness.cause (List.Forall₂ (Program.RunsAlike likeness.resolved)))
      (other.subscriber fieldName event field)

namespace Registry

variable {registry other : Registry}

theorem runsAlike_empty : RunsAlike likeness empty empty where
  fields _ _ _ _ := Program.runsAlike_done (likeness.json _)
  subscriptions _ _ _ := Program.runsAlike_done
    (.ok (.cons (Program.runsAlike_done (likeness.typed _ _)) .nil))

theorem RunsAlike.addField (h : registry.RunsAlike likeness other) (typeName fieldName : String)
    {resolver resolver' : FieldResolver}
    (alike : ∀ parent field, (resolver parent field).RunsAlike likeness.resolved
      (resolver' parent field)) :
    (registry.addField typeName fieldName resolver).RunsAlike likeness
      (other.addField typeName fieldName resolver') where
  fields name fieldName' parent field := by
    unfold fieldResolver Registry.addField
    rw [List.lookup_cons, List.lookup_cons]
    split
    · exact alike parent field
    · exact h.fields name fieldName' parent field
  subscriptions := h.subscriptions

theorem RunsAlike.addSubscription (h : registry.RunsAlike likeness other) (fieldName : String)
    {subscriber subscriber' : Subscriber}
    (alike : ∀ event field, (subscriber event field).RunsAlike
      (BothSettle likeness.cause (List.Forall₂ (Program.RunsAlike likeness.resolved)))
      (subscriber' event field)) :
    (registry.addSubscription fieldName subscriber).RunsAlike likeness
      (other.addSubscription fieldName subscriber') where
  fields := h.fields
  subscriptions name event field := by
    unfold Registry.subscriber Registry.addSubscription
    rw [List.lookup_cons, List.lookup_cons]
    split
    · exact alike event field
    · exact h.subscriptions name event field

end Registry

/-- The same data, with alike errors. -/
structure Response.Alike (likeness : Likeness) (response other : Response) : Prop where
  data? : response.data? = other.data?
  errors : List.Forall₂ (ExecutionError.Alike likeness) response.errors other.errors

theorem SelectedField.errorAt_alike (field : SelectedField) (path : Path) {cause other : ErrorCause}
    (h : likeness.cause cause other) :
    (field.errorAt path cause).Alike likeness (field.errorAt path other) :=
  ⟨h, rfl, rfl⟩

namespace Engine

/-- With both registries, objects answer the given fields alike. -/
def AnswersAlike (likeness : Likeness) (schema : Schema) (registry other : Registry)
    (fields : List SelectedField) : Prop :=
  ∀ object parent path,
    ((Engine.mk schema registry).answerFields fields object parent path).RunsAlike likeness Eq
      ((Engine.mk schema other).answerFields fields object parent path)

/-- With both registries, alike values of the given type are completed alike. -/
def CompletesAlike (likeness : Likeness) (schema : Schema) (registry other : Registry)
    (field : SelectedField) (type : TypeRef) : Prop :=
  ∀ path resolved resolved', likeness.resolved resolved resolved' →
    ((Engine.mk schema registry).completeField type field path resolved).RunsAlike likeness Eq
      ((Engine.mk schema other).completeField type field path resolved')

variable {schema : Schema} {registry other : Registry} {field : SelectedField} {type : TypeRef}

theorem build_runsAlike {path : Path} {shape shape' : Shape} (same : shape.Alike likeness shape')
    (items : ∀ itemType values, shape = .list itemType values →
      CompletesAlike likeness schema registry other field itemType)
    (members : AnswersAlike likeness schema registry other field.subfields) :
    ((Engine.mk schema registry).build field path shape).RunsAlike likeness Eq
      ((Engine.mk schema other).build field path shape') := by
  cases same with
  | failure alike => exact Exec.runsAlike_fail (field.errorAt_alike path alike)
  | leaf data => exact Exec.runsAlike_pure rfl
  | list itemType alike =>
    refine Exec.runsAlike_map (Exec.runsAlike_traverse ?_) fun _ _ same => congrArg Json.array same
    refine (forall₂_zipIdx alike 0).imp fun item item' ⟨value, index⟩ => ?_
    unfold completeItem
    rw [index]
    exact items itemType _ rfl _ _ _ value
  | object type value =>
    exact Exec.runsAlike_map (members type value path) fun _ _ same => congrArg Json.object same

/-- A position is completed alike if its items and its members are. -/
theorem completesAlike_of_parts
    (items : ∀ itemType nullable, type = .list itemType nullable →
      CompletesAlike likeness schema registry other field itemType)
    (members : AnswersAlike likeness schema registry other field.subfields) :
    CompletesAlike likeness schema registry other field type := by
  intro path resolved resolved' alike
  rw [completeField_eq, completeField_eq]
  refine Exec.runsAlike_atPosition _ (field.errorAt_alike path (likeness.same _)) ?_
  refine Exec.runsAlike_bind (Exec.runsAlike_note _ _) fun _ _ _ => ?_
  refine build_runsAlike (schema.shape_alike field.name type alike) ?_ members
  intro itemType values shown
  obtain ⟨nullable, same⟩ := Schema.eq_list_of_shape shown
  exact items itemType nullable same

/-- By induction on the type, whose lists are inside each other. -/
theorem completesAlike (members : AnswersAlike likeness schema registry other field.subfields) :
    CompletesAlike likeness schema registry other field type := by
  induction type with
  | named typeName nullable => exact completesAlike_of_parts nofun members
  | list itemType nullable ih =>
    refine completesAlike_of_parts (fun _ _ same => ?_) members
    cases same
    exact ih

theorem answerField_runsAlike (alike : registry.RunsAlike likeness other) (object : TypeDefinition)
    (parent : Json) (path : Path)
    (members : AnswersAlike likeness schema registry other field.subfields) :
    ((Engine.mk schema registry).answerField object parent path field).RunsAlike likeness Eq
      ((Engine.mk schema other).answerField object parent path field) := by
  refine Exec.runsAlike_map (f := fun value => (field.outputName, value)) ?_
    fun _ _ same => congrArg (Prod.mk field.outputName) same
  unfold fieldValue
  split
  · exact Exec.runsAlike_pure rfl
  · cases object.field? field.name with
    | none =>
      refine Exec.runsAlike_bind
        (Exec.runsAlike_record (field.errorAt_alike _ (likeness.same _))) ?_
      exact fun _ _ _ => Exec.runsAlike_pure rfl
    | some definition =>
      refine Exec.runsAlike_bind (R := likeness.resolved) ?_ fun _ _ same => ?_
      · unfold resolve
        refine Exec.runsAlike_bind (Exec.runsAlike_note _ _) fun _ _ _ => ?_
        exact Exec.runsAlike_ofProgram (alike.fields object.name field.name parent field)
      · exact completesAlike members _ _ _ same

/-- By induction on the heights of the fields. -/
theorem answersAlike (alike : registry.RunsAlike likeness other) (fields : List SelectedField) :
    AnswersAlike likeness schema registry other fields := by
  intro object parent path
  rw [answerFields_eq, answerFields_eq]
  refine Exec.runsAlike_traverse (List.forall₂_same.mpr fun field collected => ?_)
  exact answerField_runsAlike alike object parent path (answersAlike alike field.subfields)
termination_by SelectedField.heights fields
decreasing_by exact SelectedField.heights_subfields_lt collected

/-- How executions may differ: both fail to subscribe, both give nothing, or
their responses are alike. -/
inductive EndsAlike (likeness : Likeness) : Except ExecutionError (Option Response) →
    Except ExecutionError (Option Response) → Prop
  | failed {error other : ExecutionError} (alike : error.Alike likeness other) :
    EndsAlike likeness (.error error) (.error other)
  | empty : EndsAlike likeness (.ok none) (.ok none)
  | answered {response other : Response} (alike : response.Alike likeness other) :
    EndsAlike likeness (.ok (some response)) (.ok (some other))

theorem respond_runsAlike (schema : Schema) (alike : registry.RunsAlike likeness other)
    (type : TypeRef) (field : SelectedField) {item item' : Program Resolved}
    (items : item.RunsAlike likeness.resolved item') :
    ((Engine.mk schema registry).respond type field item).RunsAlike likeness Eq
      ((Engine.mk schema other).respond type field item') := by
  unfold respond
  refine Exec.runsAlike_bind (Exec.runsAlike_note _ _) fun _ _ _ => ?_
  refine Exec.runsAlike_bind (Exec.runsAlike_ofProgram items) fun _ _ same => ?_
  refine Exec.runsAlike_bind (completesAlike (answersAlike alike _) _ _ _ same) ?_
  intro value _ same
  subst same
  exact Exec.runsAlike_pure rfl

theorem execute_runsAlike (schema : Schema) (alike : registry.RunsAlike likeness other)
    (subscription : Subscription) (event : Event) (context : Context) :
    EndsAlike likeness ((Engine.mk schema registry).execute subscription event context).result
      ((Engine.mk schema other).execute subscription event context).result := by
  unfold execute
  dsimp only
  cases schema.subscriptionType?.bind (·.field? subscription.field.name) with
  | none => exact .failed (subscription.field.errorAt_alike _ (likeness.same _))
  | some definition =>
    have started := alike.subscriptions subscription.field.name event subscription.field context
    generalize (registry.subscriber _ _ _).run context = start,
      (other.subscriber _ _ _).run context = start' at started ⊢
    obtain ⟨answer, trace, after⟩ := start
    obtain ⟨answer', trace', after'⟩ := start'
    obtain ⟨answers, same⟩ := started
    dsimp only at answers same ⊢
    subst same
    cases answers with
    | error alike => exact .failed (subscription.field.errorAt_alike _ alike)
    | ok streams =>
      cases streams with
      | nil => exact .empty
      | cons items _ =>
        have outcome :=
          respond_runsAlike schema alike definition.type subscription.field items after
        exact .answered { data? := outcome.value?_eq, errors := outcome.errors }

end Engine

end WebhookPayload
