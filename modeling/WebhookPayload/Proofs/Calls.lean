import WebhookPayload.Proofs.Positions
import WebhookPayload.Proofs.Sessions

/-! # Calls on the way through a response

Before a field of an object is completed, its resolver is called and may ask the
context for something. The legs of a position are the positions right below it,
each with what is noted and asked before it is completed. The trace of a position
consists of its legs (`Engine.trace_complete`), and so does the session that the
calls at it and below it are for the context (`Engine.complete_performs`). An
execution calls the subscription resolver, computes the first item of its stream and
completes the root of the response (`Engine.execute_runs`). -/

namespace WebhookPayload

open GraphQL

/-- The tags of the pending values at a position, which are waited for before all below it. -/
def Place.pendingTags (place : Place) : List (Option String) :=
  match place.content with
  | .declared _ resolved => resolved.pendingTags
  | _ => []

/-- A position right below another, with what comes before it is completed. -/
structure Leg where
  segment : PathSegment
  place : Place
  /-- What is noted on the way. -/
  noted : Trace
  /-- What is asked of the context on the way. -/
  asked : List Operation

namespace Engine

/-- What is noted and asked for a field of an object: a declared field is resolved. -/
def lead (engine : Engine) (object : TypeDefinition) (parent : Json) (path : Path)
    (field : SelectedField) (context : Context) : Trace × List Operation :=
  if field.name = typenameField then ([], [])
  else
    match object.field? field.name with
    | none => ([], [])
    | some _ =>
      let program := engine.resolvers.fieldResolver object.name field.name parent field
      (.fieldResolved (path ++ [.field field.outputName]) object.name field.name ::
        (program.run context).trace, program.operations context)

/-- The legs of what is built, in the order in which they are gone. -/
def legs (engine : Engine) (field : SelectedField) (path : Path) (context : Context) :
    Shape → List Leg
  | .list itemType items =>
    (Exec.turns (engine.completeItem field path itemType) items.zipIdx context).map fun turn =>
      { segment := .index turn.1.2, place := item field path itemType turn.1 turn.2
        noted := [], asked := [] }
  | .object object parent =>
    (Exec.turns (engine.answerField object parent path)
        (collectFields engine.schema object.name field.subfields) context).map fun turn =>
      { segment := .field turn.1.outputName
        place := engine.member object parent path turn.1 turn.2
        noted := (engine.lead object parent path turn.1 turn.2).1
        asked := (engine.lead object parent path turn.1 turn.2).2 }
  | _ => []

def legsOf (engine : Engine) (place : Place) : List Leg :=
  match place.content with
  | .declared type resolved =>
    engine.legs place.field place.path place.context
      (engine.schema.shape place.field.name type resolved)
  | _ => []

variable {engine : Engine} {place : Place}

theorem partsOf_eq (engine : Engine) (place : Place) :
    engine.partsOf place = (engine.legsOf place).map fun leg => (leg.segment, leg.place) := by
  unfold partsOf legsOf
  cases place.content with
  | typename object | undeclared object => rfl
  | declared type resolved =>
    dsimp only
    cases engine.schema.shape place.field.name type resolved <;>
      simp [parts, legs, Function.comp_def]

theorem mem_partsOf_of_leg {leg : Leg} (h : leg ∈ engine.legsOf place) :
    (leg.segment, leg.place) ∈ engine.partsOf place := by
  rw [partsOf_eq]
  exact List.mem_map_of_mem h

theorem exists_leg_of_mem_partsOf {part : PathSegment × Place} (h : part ∈ engine.partsOf place) :
    ∃ leg ∈ engine.legsOf place, (leg.segment, leg.place) = part := by
  rw [partsOf_eq] at h
  exact List.mem_map.mp h

/-! ## Traces -/

theorem trace_answerField (engine : Engine) (object : TypeDefinition) (parent : Json) (path : Path)
    (field : SelectedField) (context : Context) :
    (engine.answerField object parent path field context).trace =
      (engine.lead object parent path field context).1 ++
        (engine.complete (engine.member object parent path field context)).trace := by
  refine (Exec.trace_map _ _ _).trans ?_
  unfold fieldValue lead member content
  by_cases typename : field.name = typenameField
  · rw [if_pos typename, if_pos typename, if_pos typename]
    rfl
  · rw [if_neg typename, if_neg typename, if_neg typename]
    cases object.field? field.name with
    | none => rfl
    | some definition => rfl

theorem context_answerField (engine : Engine) (object : TypeDefinition) (parent : Json)
    (path : Path) (field : SelectedField) (context : Context) :
    (engine.answerField object parent path field context).context =
      (engine.complete (engine.member object parent path field context)).context := by
  refine (Exec.context_map _ _ _).trans ?_
  unfold fieldValue member content
  by_cases typename : field.name = typenameField
  · rw [if_pos typename, if_pos typename]
    rfl
  · rw [if_neg typename, if_neg typename]
    cases object.field? field.name with
    | none => rfl
    | some definition => rfl

/-- Waiting for the pending values at a position. -/
def pendingAt (place : Place) : Trace :=
  place.pendingTags.map (TraceEntry.deferredComputed place.path)

theorem trace_build (engine : Engine) (field : SelectedField) (path : Path) (shape : Shape)
    (context : Context) :
    (engine.build field path shape context).trace =
      (engine.legs field path context shape).flatMap fun leg =>
        leg.noted ++ (engine.complete leg.place).trace := by
  cases shape with
  | failure cause => rfl
  | leaf data => rfl
  | list itemType items =>
    rw [build, Exec.trace_map, Exec.trace_traverse, legs, List.flatMap_map]
    rfl
  | object object parent =>
    rw [build, Exec.trace_map, answerFields_eq, Exec.trace_traverse, legs, List.flatMap_map]
    simp only [trace_answerField]

/-- What happens at a position and below it. -/
theorem trace_complete (engine : Engine) (place : Place) :
    (engine.complete place).trace = pendingAt place ++
      (engine.legsOf place).flatMap fun leg => leg.noted ++ (engine.complete leg.place).trace := by
  unfold complete pendingAt Place.pendingTags legsOf
  cases place.content with
  | typename object => rfl
  | undeclared object => rfl
  | declared type resolved =>
    exact (engine.trace_completeField _ _ _ _ _).trans (congrArg _ (engine.trace_build _ _ _ _))

end Engine

/-! ## Sessions -/

/-- A computation leaves what a session leaves. -/
structure Outcome.Performs {α : Type} (outcome : Outcome α) (start : Context)
    (ops : List Operation) : Prop where
  trace : outcome.trace.filter TraceEntry.isOperation = (start.performAll ops).trace
  context : outcome.context = (start.performAll ops).context

namespace Exec

variable {α β : Type}

theorem map_performs (g : α → β) {x : Exec α} {context start : Context} {ops : List Operation}
    (h : (x context).Performs start ops) : ((g <$> x) context).Performs start ops :=
  ⟨(congrArg _ (trace_map g x context)).trans h.trace, (context_map g x context).trans h.context⟩

/-- A traversal performs what its turns perform, one after another. -/
theorem traverse_performs {f : α → Exec β} {items : List α} {context : Context}
    {asked : α × Context → List Operation}
    (each : ∀ turn ∈ turns f items context, (f turn.1 turn.2).Performs turn.2 (asked turn)) :
    (traverse f items context).Performs context ((turns f items context).flatMap asked) := by
  induction items generalizing context with
  | nil => exact ⟨rfl, rfl⟩
  | cons a rest ih =>
    have first : (f a context).Performs context (asked (a, context)) :=
      each (a, context) (by simp [turns])
    rw [turns] at each ⊢
    rw [List.flatMap_cons]
    cases h : (f a context).value? with
    | none =>
      constructor
      · rw [trace_traverse_cons, h]
        simp [first.trace]
      · rw [context_traverse_cons, h]
        simp [first.context]
    | some b =>
      rw [h] at each
      have others := ih fun turn met => each turn (List.mem_cons_of_mem _ met)
      constructor
      · rw [trace_traverse_cons, h, (Context.performAll_append _ _ _).1, List.filter_append,
          first.trace, ← first.context]
        exact congrArg _ others.trace
      · rw [context_traverse_cons, h, (Context.performAll_append _ _ _).2, ← first.context]
        exact others.context

end Exec

namespace Engine

variable {engine : Engine}

/-- What is asked of the context while a position and all below it are completed. -/
def operationsAt (engine : Engine) (place : Place) : List Operation :=
  (engine.legsOf place).attach.flatMap fun leg =>
    leg.val.asked ++ engine.operationsAt leg.val.place
termination_by (SelectedField.heights place.field.subfields, place.depth)
decreasing_by exact (partOf_of_mem_partsOf (mem_partsOf_of_leg leg.property)).smaller

theorem operationsAt_eq (engine : Engine) (place : Place) :
    engine.operationsAt place =
      (engine.legsOf place).flatMap fun leg => leg.asked ++ engine.operationsAt leg.place := by
  rw [operationsAt]
  simp

/-- What is asked for a field is what its resolver performs. -/
theorem lead_performs (engine : Engine) (object : TypeDefinition) (parent : Json) (path : Path)
    (field : SelectedField) (context : Context) :
    (engine.lead object parent path field context).1.filter TraceEntry.isOperation =
        (context.performAll (engine.lead object parent path field context).2).trace ∧
      (engine.member object parent path field context).context =
        (context.performAll (engine.lead object parent path field context).2).context := by
  unfold lead member content
  by_cases typename : field.name = typenameField
  · rw [if_pos typename, if_pos typename]
    exact ⟨rfl, rfl⟩
  · rw [if_neg typename, if_neg typename]
    cases object.field? field.name with
    | none => exact ⟨rfl, rfl⟩
    | some definition =>
      obtain ⟨trace, after⟩ := Program.run_performs
        (engine.resolvers.fieldResolver object.name field.name parent field) context
      refine ⟨?_, after⟩
      dsimp only
      rw [List.filter_cons_of_neg (by simp [TraceEntry.isOperation]), trace]
      exact context.filter_performAll _

theorem answerField_performs {object : TypeDefinition} {parent : Json} {path : Path}
    {field : SelectedField} {context : Context}
    (below : (engine.complete (engine.member object parent path field context)).Performs
      (engine.member object parent path field context).context
      (engine.operationsAt (engine.member object parent path field context))) :
    (engine.answerField object parent path field context).Performs context
      ((engine.lead object parent path field context).2 ++
        engine.operationsAt (engine.member object parent path field context)) := by
  obtain ⟨noted, start⟩ := engine.lead_performs object parent path field context
  constructor
  · rw [trace_answerField, List.filter_append, noted, below.trace,
      (Context.performAll_append _ _ _).1, start]
  · rw [context_answerField, below.context, (Context.performAll_append _ _ _).2, start]

/-- What is built leaves what its legs ask for, if everything below does. -/
theorem build_performs {field : SelectedField} {path : Path} {context : Context} {shape : Shape}
    (below : ∀ leg ∈ engine.legs field path context shape,
      (engine.complete leg.place).Performs leg.place.context (engine.operationsAt leg.place)) :
    (engine.build field path shape context).Performs context
      ((engine.legs field path context shape).flatMap fun leg =>
        leg.asked ++ engine.operationsAt leg.place) := by
  cases shape with
  | failure cause => exact ⟨rfl, rfl⟩
  | leaf data => exact ⟨rfl, rfl⟩
  | list itemType items =>
    rw [legs] at below ⊢
    rw [List.flatMap_map]
    refine Exec.map_performs _ (Exec.traverse_performs fun turn met => ?_)
    exact below _ (List.mem_map_of_mem met)
  | object object parent =>
    rw [legs] at below ⊢
    rw [List.flatMap_map, build, answerFields_eq]
    refine Exec.map_performs _ (Exec.traverse_performs fun turn met => ?_)
    exact answerField_performs (below _ (List.mem_map_of_mem met))

/-- Completing a position leaves what the calls at it and below it ask for. -/
theorem complete_performs (engine : Engine) (place : Place) :
    (engine.complete place).Performs place.context (engine.operationsAt place) := by
  induction place using engine.place_induction with
  | step place below =>
    rw [operationsAt_eq]
    have below : ∀ leg ∈ engine.legsOf place, (engine.complete leg.place).Performs
        leg.place.context (engine.operationsAt leg.place) :=
      fun leg met => below _ (mem_partsOf_of_leg met)
    obtain ⟨field, path, content, context⟩ := place
    cases content with
    | typename object => exact ⟨rfl, rfl⟩
    | undeclared object => exact ⟨rfl, rfl⟩
    | declared type resolved =>
      obtain ⟨trace, after⟩ := engine.build_performs below
      constructor
      · -- waiting for pending values asks for nothing
        have waits : (resolved.pendingTags.map (TraceEntry.deferredComputed path)).filter
            TraceEntry.isOperation = [] := by
          simp [TraceEntry.isOperation]
        show (engine.completeField type field path resolved context).trace.filter _ = _
        rw [trace_completeField, List.filter_append, waits]
        exact trace
      · exact (engine.context_completeField type field path resolved context).trans after

/-! ## Executions -/

section Execution

variable {subscription : Subscription} {event : Event} {context : Context}

/-- What an item of the stream gives is completed after the item is computed. -/
theorem respond_apply (engine : Engine) (type : TypeRef) (field : SelectedField)
    (item : Program Resolved) (context : Context) :
    let run := item.run context
    let completed :=
      engine.completeField type field [.field field.outputName] run.answer run.context
    (engine.respond type field item context).trace =
        .itemTaken 0 :: (run.trace ++ completed.trace) ∧
      (engine.respond type field item context).context = completed.context :=
  ⟨congrArg (fun trace => TraceEntry.itemTaken 0 :: ((item.run context).trace ++ trace))
      (Exec.trace_map _ _ _), Exec.context_map _ _ _⟩

/-- What is asked of the context while a subscription is executed: by its resolver, for
the first item of its stream, and for the response. -/
def operations (engine : Engine) (subscription : Subscription) (event : Event)
    (context : Context) : List Operation :=
  match engine.schema.subscriptionType?.bind (·.field? subscription.field.name) with
  | none => []
  | some _ =>
    let call := engine.resolvers.subscriber subscription.field.name event subscription.field
    call.operations context ++
      match (call.run context).answer, engine.root? subscription event context with
      | .ok (item :: _), some root =>
        item.operations (call.run context).context ++ engine.operationsAt root
      | _, _ => []

/-- How an execution goes: the subscription resolver is called, the first item of its
stream is computed, and the root of the response is completed, as far as it comes.
Related are the trace, the context at the end, and what was asked. -/
inductive Runs (engine : Engine) (subscription : Subscription) (event : Event)
    (context : Context) : Trace → Context → List Operation → Prop
  | nothing (rootless : engine.root? subscription event context = none) :
      Runs engine subscription event context [] context []
  | subscribed {early : Trace} {after : Context} {asked : List Operation}
      (rootless : engine.root? subscription event context = none)
      (trace : early = (context.performAll asked).trace)
      (afterwards : after = (context.performAll asked).context) :
      Runs engine subscription event context (.subscribed subscription.field.name :: early) after
        asked
  | answered {root : Place} {early late : Trace} {asked : List Operation}
      (rooted : engine.root? subscription event context = some root)
      (trace : early ++ late = (context.performAll asked).trace)
      (afterwards : root.context = (context.performAll asked).context) :
      Runs engine subscription event context
        (.subscribed subscription.field.name ::
          (early ++ .itemTaken 0 :: (late ++ (engine.complete root).trace)))
        (engine.complete root).context (asked ++ engine.operationsAt root)

theorem execute_runs (engine : Engine) (subscription : Subscription) (event : Event)
    (context : Context) :
    let execution := engine.execute subscription event context
    engine.Runs subscription event context execution.trace execution.context
      (engine.operations subscription event context) := by
  let call := engine.resolvers.subscriber subscription.field.name event subscription.field
  obtain ⟨trace, after⟩ := call.run_performs context
  cases declared : engine.schema.subscriptionType?.bind (·.field? subscription.field.name) with
  | none =>
    have rootless : engine.root? subscription event context = none := by
      unfold root?
      dsimp only
      rw [declared]
    unfold execute operations
    dsimp only
    rw [declared]
    exact .nothing rootless
  | some definition =>
    have rootless (given : ∀ item rest, (call.run context).answer ≠ .ok (item :: rest)) :
        engine.root? subscription event context = none := by
      unfold root?
      dsimp only
      rw [declared]
      split
      · rename_i item rest _ found
        exact absurd found (given _ _)
      · rfl
    have failed (given : ∀ item rest, (call.run context).answer ≠ .ok (item :: rest)) :
        engine.Runs subscription event context
          (.subscribed subscription.field.name :: (call.run context).trace)
          (call.run context).context (call.operations context) :=
      .subscribed (rootless given) trace after
    unfold execute operations
    dsimp only
    rw [declared]
    dsimp only
    split
    · rename_i error given
      rw [given, List.append_nil]
      exact failed fun _ _ other => by cases given.symm.trans other
    · rename_i given
      rw [given, List.append_nil]
      exact failed fun _ _ other => by cases given.symm.trans other
    · rename_i item rest given
      obtain ⟨trace', after'⟩ := item.run_performs (call.run context).context
      have rooted : engine.root? subscription event context = some {
          field := subscription.field
          path := [.field subscription.field.outputName]
          content := .declared definition.type (item.run (call.run context).context).answer
          context := (item.run (call.run context).context).context } := by
        unfold root?
        dsimp only
        rw [declared, given]
      obtain ⟨trace'', after''⟩ := engine.respond_apply definition.type subscription.field item
        (call.run context).context
      obtain ⟨trace₂, after₂⟩ := context.performAll_append (call.operations context)
        (item.operations (call.run context).context)
      rw [← trace, ← after, ← trace'] at trace₂
      rw [← after, ← after'] at after₂
      rw [given, rooted, trace'', after'', ← List.append_assoc]
      exact .answered rooted trace₂.symm after₂.symm

variable {trace : Trace} {after : Context} {asked : List Operation}

theorem Runs.performs (h : engine.Runs subscription event context trace after asked) :
    trace.filter TraceEntry.isOperation = (context.performAll asked).trace ∧
      after = (context.performAll asked).context := by
  cases h with
  | nothing => exact ⟨rfl, rfl⟩
  | subscribed rootless trace after =>
    refine ⟨?_, after⟩
    rw [List.filter_cons_of_neg (by simp [TraceEntry.isOperation]), trace]
    exact context.filter_performAll _
  | @answered root early late asked rooted trace start =>
    obtain ⟨below, after⟩ := engine.complete_performs root
    have quiet : (early ++ late).filter TraceEntry.isOperation = early ++ late := by
      rw [trace]
      exact context.filter_performAll _
    rw [(Context.performAll_append _ _ _).1, (Context.performAll_append _ _ _).2, ← trace, ← start,
      ← below, ← quiet]
    refine ⟨?_, after⟩
    simp [TraceEntry.isOperation]

/-- An execution leaves what it asks of the context. -/
theorem execute_performs (engine : Engine) (subscription : Subscription) (event : Event)
    (context : Context) :
    let execution := engine.execute subscription event context
    let asked := context.performAll (engine.operations subscription event context)
    execution.trace.filter TraceEntry.isOperation = asked.trace ∧
      execution.context = asked.context :=
  (engine.execute_runs subscription event context).performs

end Execution

end Engine

end WebhookPayload
