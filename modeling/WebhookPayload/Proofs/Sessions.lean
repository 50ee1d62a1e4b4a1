import WebhookPayload.Resolver.Program

/-! # Sessions with a context

A session is a list of operations that are performed one after another on a
context. Whatever a program does is a session: which operation comes next may
depend on the answers so far, but what is left of them, the trace and the context,
depends on the operations alone (`Program.run_performs`). -/

namespace WebhookPayload

/-- Performs operations one after another. -/
def Context.performAll (context : Context) : List Operation → Traced Unit
  | [] => context.reply ()
  | op :: rest =>
    let first := context.perform op
    let others := first.context.performAll rest
    { others with trace := first.trace ++ others.trace }

/-- What is performed later finds the context that is left by what was performed earlier. -/
theorem Context.performAll_append (context : Context) (earlier later : List Operation) :
    (context.performAll (earlier ++ later)).trace =
        (context.performAll earlier).trace ++
          ((context.performAll earlier).context.performAll later).trace ∧
      (context.performAll (earlier ++ later)).context =
        ((context.performAll earlier).context.performAll later).context := by
  induction earlier generalizing context with
  | nil => exact ⟨rfl, rfl⟩
  | cons op rest ih =>
    obtain ⟨trace, after⟩ := ih (context.perform op).context
    refine ⟨?_, after⟩
    rw [List.cons_append, performAll, performAll, trace, List.append_assoc]

/-- The operations that a program performs, in order. -/
def Program.operations {α : Type} : Program α → Context → List Operation
  | .done _, _ => []
  | .perform op next, context =>
    op :: (next (context.perform op).answer).operations (context.perform op).context

/-- A program leaves what its operations leave. -/
theorem Program.run_performs {α : Type} (program : Program α) (context : Context) :
    (program.run context).trace = (context.performAll (program.operations context)).trace ∧
      (program.run context).context =
        (context.performAll (program.operations context)).context := by
  induction program generalizing context with
  | done value => exact ⟨rfl, rfl⟩
  | perform op next ih =>
    obtain ⟨trace, after⟩ := ih (context.perform op).answer (context.perform op).context
    exact ⟨congrArg _ trace, after⟩

/-! ## Traces of sessions -/

/-- Whether an entry is left by an operation on a context. -/
def TraceEntry.isOperation : TraceEntry → Bool
  | hostLookup | load _ _ => true
  | _ => false

theorem Context.perform_trace (context : Context) (op : Operation) :
    ∀ entry ∈ (context.perform op).trace, entry.isOperation = true := by
  have lookUp : ∀ entry ∈ context.request.lookUpTrace, entry.isOperation = true := by
    unfold Request.lookUpTrace
    split <;> simp [TraceEntry.isOperation]
  have headers (key : String) :
      ∀ entry ∈ (context.headers key).trace, entry.isOperation = true := by
    unfold Context.headers
    split
    · exact nofun
    · exact lookUp
    · exact nofun
  cases op with
  | serverName | absoluteUri location => exact lookUp
  | headers key | header key => exact headers key
  | load key loader => exact List.forall_mem_singleton.mpr rfl
  | _ => exact nofun

theorem Context.performAll_trace (context : Context) (ops : List Operation) :
    ∀ entry ∈ (context.performAll ops).trace, entry.isOperation = true := by
  induction ops generalizing context with
  | nil => exact nofun
  | cons op rest ih =>
    exact List.forall_mem_append.mpr ⟨context.perform_trace op, ih (context.perform op).context⟩

theorem Context.filter_performAll (context : Context) (ops : List Operation) :
    (context.performAll ops).trace.filter TraceEntry.isOperation =
      (context.performAll ops).trace :=
  List.filter_eq_self.mpr (context.performAll_trace ops)

/-- Programs leave nothing but operations. -/
theorem Program.run_trace {α : Type} (program : Program α) (context : Context) :
    ∀ entry ∈ (program.run context).trace, entry.isOperation = true := by
  rw [(program.run_performs context).1]
  exact context.performAll_trace _

end WebhookPayload
