import WebhookPayload.Resolver.Program

/-! Computations that complete parts of a response. Such a computation records
errors and goes on, or it has no value, and then a null must take the place of
something around it. -/

namespace WebhookPayload

/-- How a computation ends: with a value or without one, and in any case with the
errors that were recorded, what happened, and the context afterwards. -/
structure Outcome (α : Type) where
  value? : Option α
  errors : List ExecutionError
  trace : Trace
  context : Context

def Exec (α : Type) := Context → Outcome α

namespace Exec

variable {α β γ : Type}

def pure (value : α) : Exec α := fun context =>
  { value? := some value, errors := [], trace := [], context }

/-- Goes on with the value; without one, what follows does not happen. -/
def bind (x : Exec α) (f : α → Exec β) : Exec β := fun context =>
  let first := x context
  match first.value? with
  | none => { first with value? := none }
  | some value =>
    let rest := f value first.context
    { rest with errors := first.errors ++ rest.errors, trace := first.trace ++ rest.trace }

instance : Monad Exec where
  pure := pure
  bind := bind

/-- Records an error and goes on. -/
def record (error : ExecutionError) : Exec Unit := fun context =>
  { value? := some (), errors := [error], trace := [], context }

/-- Records an error and has no value. -/
def fail (error : ExecutionError) : Exec α := fun context =>
  { value? := none, errors := [error], trace := [], context }

def note (entries : Trace) : Exec Unit := fun context =>
  { value? := some (), errors := [], trace := entries, context }

def ofProgram (program : Program α) : Exec α := fun context =>
  let run := program.run context
  { value? := some run.answer, errors := [], trace := run.trace, context := run.context }

/-- Computes one value for each element, in order; the first that is missing ends it. -/
def traverse (f : α → Exec β) : List α → Exec (List β)
  | [] => pure []
  | a :: rest => bind (f a) fun b => bind (traverse f rest) fun others => pure (b :: others)

/-- At a position that may be null, a missing value becomes null. At any other,
a null is an error and leaves no value. -/
def atPosition (nullable : Bool) (nullError : ExecutionError) (x : Exec Json) : Exec Json :=
  fun context =>
    let outcome := x context
    match nullable, outcome.value? with
    | true, none => { outcome with value? := some .null }
    | false, some .null =>
      { outcome with value? := none, errors := outcome.errors ++ [nullError] }
    | _, _ => outcome

theorem pure_bind (a : α) (f : α → Exec β) : (pure a).bind f = f a := by
  funext context
  simp [pure, bind]

theorem bind_pure (x : Exec α) : x.bind pure = x := by
  funext context
  unfold bind pure
  generalize x context = first
  obtain ⟨value?, errors, trace, after⟩ := first
  cases value? <;> simp

/-- The errors, like what happened, are in order however the parts are grouped. -/
theorem bind_assoc (x : Exec α) (f : α → Exec β) (g : β → Exec γ) :
    (x.bind f).bind g = x.bind fun a => (f a).bind g := by
  funext context
  unfold bind
  cases hx : (x context).value? with
  | none => simp [hx]
  | some a =>
    cases hf : (f a (x context).context).value? with
    | none => simp [hx, hf]
    | some b => simp [hx, hf]

instance : LawfulMonad Exec :=
  LawfulMonad.mk' Exec bind_pure pure_bind bind_assoc

theorem traverse_map (f : β → Exec γ) (g : α → β) (items : List α) :
    traverse f (items.map g) = traverse (fun a => f (g a)) items := by
  induction items with
  | nil => rfl
  | cons a rest ih => simp [traverse, ih]

/-- That an element is one of the list makes no difference to what is computed of it. -/
theorem traverse_attach (f : α → Exec β) (items : List α) :
    traverse (fun a : { a // a ∈ items } => f a.val) items.attach = traverse f items := by
  rw [← traverse_map f Subtype.val, List.attach_map_subtype_val]

end Exec

end WebhookPayload
