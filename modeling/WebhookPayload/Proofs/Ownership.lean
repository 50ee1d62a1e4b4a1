import WebhookPayload.Proofs.Completion

/-! # The owner of a payload stays

Resolvers look up hosts, start services and load values, and thereby change the
context for those after them. None of it changes the app that the payload is for:
every computation of a run leaves the owner that it finds. -/

namespace WebhookPayload

open GraphQL

theorem Context.headers_app? (context : Context) (key : String) :
    (context.headers key).context.app? = context.app? := by
  unfold headers
  split <;> rfl

theorem Context.perform_app? (context : Context) (op : Operation) :
    (context.perform op).context.app? = context.app? := by
  cases op with
  | headers key | header key => exact context.headers_app? key
  | _ => rfl

theorem Program.run_app? {α : Type} (program : Program α) (context : Context) :
    (program.run context).context.app? = context.app? := by
  induction program generalizing context with
  | done value => rfl
  | perform op next ih => exact (ih _ _).trans (context.perform_app? op)

/-- A computation that leaves the owner of the payload as it finds it. -/
def Exec.KeepsOwner {α : Type} (x : Exec α) : Prop :=
  ∀ context, (x context).context.app? = context.app?

namespace Exec

variable {α β : Type} {x : Exec α}

theorem keepsOwner_pure (value : α) : KeepsOwner (Exec.pure value) := fun _ => rfl

theorem keepsOwner_fail (error : ExecutionError) : KeepsOwner (Exec.fail error : Exec α) :=
  fun _ => rfl

theorem keepsOwner_record (error : ExecutionError) : KeepsOwner (Exec.record error) := fun _ => rfl

theorem keepsOwner_note (entries : Trace) : KeepsOwner (Exec.note entries) := fun _ => rfl

theorem keepsOwner_ofProgram (program : Program α) : KeepsOwner (Exec.ofProgram program) :=
  program.run_app?

theorem keepsOwner_bind {f : α → Exec β} (h : KeepsOwner x) (next : ∀ a, KeepsOwner (f a)) :
    KeepsOwner (x.bind f) := by
  intro context
  cases found : (x context).value? with
  | none =>
    rw [bind_of_none found]
    exact h context
  | some a =>
    rw [bind_of_some found]
    exact (next a _).trans (h context)

theorem keepsOwner_map {f : α → β} (h : KeepsOwner x) : KeepsOwner (f <$> x) :=
  keepsOwner_bind h fun a => keepsOwner_pure (f a)

theorem keepsOwner_traverse {f : α → Exec β} {items : List α} (h : ∀ a ∈ items, KeepsOwner (f a)) :
    KeepsOwner (Exec.traverse f items) := by
  induction items with
  | nil => exact keepsOwner_pure []
  | cons a rest ih =>
    refine keepsOwner_bind (h a (by simp)) fun b => ?_
    exact keepsOwner_map (ih fun other member => h other (by simp [member]))

theorem keepsOwner_atPosition (nullable : Bool) (error : ExecutionError) {x : Exec Json}
    (h : KeepsOwner x) : KeepsOwner (Exec.atPosition nullable error x) := by
  intro context
  rw [context_atPosition]
  exact h context

/-- The elements of a traversal are computed for one owner. -/
theorem app?_of_turn {f : α → Exec β} {items : List α} (h : ∀ a ∈ items, KeepsOwner (f a))
    {context : Context} {turn : α × Context} (met : turn ∈ turns f items context) :
    turn.2.app? = context.app? := by
  induction items generalizing context with
  | nil => cases met
  | cons a rest ih =>
    rw [turns] at met
    rcases List.mem_cons.mp met with rfl | later
    · rfl
    · split at later
      · rw [ih (fun other member => h other (by simp [member])) later]
        exact h a (by simp) context
      · cases later

end Exec

namespace Engine

variable {engine : Engine} {field : SelectedField} {type : TypeRef}

/-- Answers of objects keep the owner. -/
def AnswersKeepOwner (engine : Engine) (fields : List SelectedField) : Prop :=
  ∀ object parent path, (engine.answerFields fields object parent path).KeepsOwner

theorem build_keepsOwner {shape : Shape}
    (items : ∀ itemType values, shape = .list itemType values →
      ∀ path resolved, (engine.completeField itemType field path resolved).KeepsOwner)
    (members : engine.AnswersKeepOwner field.subfields) (path : Path) :
    (engine.build field path shape).KeepsOwner := by
  cases shape with
  | failure cause => exact Exec.keepsOwner_fail _
  | leaf data => exact Exec.keepsOwner_pure data
  | list itemType values =>
    refine Exec.keepsOwner_map (Exec.keepsOwner_traverse fun item _ => ?_)
    exact items itemType values rfl _ _
  | object object parent => exact Exec.keepsOwner_map (members object parent path)

theorem completeField_keepsOwner_of_parts
    (items : ∀ itemType nullable, type = .list itemType nullable →
      ∀ path resolved, (engine.completeField itemType field path resolved).KeepsOwner)
    (members : engine.AnswersKeepOwner field.subfields) (path : Path) (resolved : Resolved) :
    (engine.completeField type field path resolved).KeepsOwner := by
  rw [completeField_eq]
  refine Exec.keepsOwner_atPosition _ _ (Exec.keepsOwner_bind (Exec.keepsOwner_note _) fun _ => ?_)
  refine build_keepsOwner (fun itemType values shown => ?_) members path
  obtain ⟨nullable, same⟩ := Schema.eq_list_of_shape shown
  exact items itemType nullable same

/-- By induction on the type, whose lists are inside each other. -/
theorem completeField_keepsOwner (members : engine.AnswersKeepOwner field.subfields) (path : Path)
    (resolved : Resolved) : (engine.completeField type field path resolved).KeepsOwner := by
  induction type generalizing path resolved with
  | named typeName nullable =>
    refine completeField_keepsOwner_of_parts (fun _ _ same => ?_) members path resolved
    cases same
  | list itemType nullable ih =>
    refine completeField_keepsOwner_of_parts (fun _ _ same => ?_) members path resolved
    cases same
    exact ih

theorem answerField_keepsOwner (members : engine.AnswersKeepOwner field.subfields)
    (object : TypeDefinition) (parent : Json) (path : Path) :
    (engine.answerField object parent path field).KeepsOwner := by
  refine Exec.keepsOwner_map (f := fun value => (field.outputName, value)) ?_
  unfold fieldValue
  split
  · exact Exec.keepsOwner_pure _
  · cases object.field? field.name with
    | none =>
      refine Exec.keepsOwner_bind (Exec.keepsOwner_record _) fun _ => ?_
      exact Exec.keepsOwner_pure Json.null
    | some definition =>
      refine Exec.keepsOwner_bind ?_ fun resolved => completeField_keepsOwner members _ resolved
      unfold resolve
      exact Exec.keepsOwner_bind (Exec.keepsOwner_note _) fun _ => Exec.keepsOwner_ofProgram _

/-- By induction on the heights of the fields. -/
theorem answersKeepOwner (engine : Engine) (fields : List SelectedField) :
    engine.AnswersKeepOwner fields := by
  intro object parent path
  rw [answerFields_eq]
  refine Exec.keepsOwner_traverse fun field collected => ?_
  exact answerField_keepsOwner (answersKeepOwner engine field.subfields) object parent path
termination_by SelectedField.heights fields
decreasing_by exact SelectedField.heights_subfields_lt collected

end Engine

end WebhookPayload
