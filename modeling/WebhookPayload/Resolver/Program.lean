import WebhookPayload.Context

/-! What a resolver does: a computation that asks its context for one thing
after another and goes on with the answers. -/

namespace WebhookPayload

inductive Program (α : Type) where
  | done (value : α)
  | perform (op : Operation) (next : op.Answer → Program α)

namespace Program

variable {α β γ : Type}

def bind (program : Program α) (f : α → Program β) : Program β :=
  match program with
  | done value => f value
  | perform op next => perform op fun answer => (next answer).bind f

instance : Monad Program where
  pure := done
  bind := bind

def run (program : Program α) (context : Context) : Traced α :=
  match program with
  | done value => context.reply value
  | perform op next =>
    let first := context.perform op
    let rest := (next first.answer).run first.context
    { rest with trace := first.trace ++ rest.trace }

/-- Goes on only if the owner of the payload holds one of the permissions. -/
def requirePermissions (permissions : List String) : Program (Except FieldError Unit) :=
  perform .app fun app? => done (checkPermissions app? permissions)

@[simp] theorem run_done (value : α) (context : Context) :
    (done value).run context = context.reply value := rfl

theorem bind_done (program : Program α) : program.bind done = program := by
  induction program with
  | done value => rfl
  | perform op next ih => simp [bind, ih]

theorem bind_assoc (program : Program α) (f : α → Program β) (g : β → Program γ) :
    (program.bind f).bind g = program.bind fun a => (f a).bind g := by
  induction program with
  | done value => rfl
  | perform op next ih => simp [bind, ih]

instance : LawfulMonad Program :=
  LawfulMonad.mk' Program bind_done (fun _ _ => rfl) bind_assoc

theorem run_bind (program : Program α) (f : α → Program β) (context : Context) :
    (program.bind f).run context =
      let first := program.run context
      let rest := (f first.answer).run first.context
      { rest with trace := first.trace ++ rest.trace } := by
  induction program generalizing context with
  | done value => simp [bind, Context.reply]
  | perform op next ih => simp [bind, run, ih]

end Program

end WebhookPayload
