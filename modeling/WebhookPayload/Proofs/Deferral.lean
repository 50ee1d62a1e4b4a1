import WebhookPayload.Proofs.Shop
import WebhookPayload.Proofs.TwoRuns

/-! # Deferral is transparent

A value may be put off: then it is the last of a chain of pending values. Any value that a
resolver gives may be, the items of lists at any depth among them, and any error. This is a
likeness under which causes of errors are the same (`Likeness.awaited`), so nothing in a
response tells what was put off. -/

namespace WebhookPayload

open GraphQL

/-! ## Values -/

namespace FieldValue

/-- The value, at the end of a chain of pending values with the given tags. -/
def deferredBy (tags : List (Option String)) (value : FieldValue) : FieldValue :=
  tags.foldr deferred value

theorem settle_deferredBy (tags : List (Option String)) (value : FieldValue) :
    (value.deferredBy tags).settle = value.settle := by
  induction tags with
  | nil => rfl
  | cons tag? tags ih => exact ih

/-- Values that differ, at any depth, in what is put off and by how long a chain. -/
inductive SameAwaited : FieldValue → FieldValue → Prop
  | same (value : FieldValue) : SameAwaited value value
  | list {items others : List FieldValue} (same : items.length = others.length)
    (each : ∀ item other, (item, other) ∈ items.zip others → SameAwaited item other) :
    SameAwaited (.list items) (.list others)
  | rejected (tag? other? : Option String) (error : FieldError) :
    SameAwaited (.rejected tag? error) (.rejected other? error)
  | putOff (tags others : List (Option String)) {value other : FieldValue}
    (h : SameAwaited value other) :
    SameAwaited (value.deferredBy tags) (other.deferredBy others)

theorem sameAwaited_deferredBy (tags : List (Option String)) (value : FieldValue) :
    value.SameAwaited (value.deferredBy tags) :=
  .putOff [] tags (.same value)

end FieldValue

/-- Waiting for the values comes to one error, or to values with items that differ in this
way again. -/
theorem FieldValue.SameAwaited.settle {value other : FieldValue} (h : value.SameAwaited other) :
    BothSettle Eq (SettledValue.Related SameAwaited) value.settle other.settle := by
  induction h with
  | same value =>
    cases value.settle with
    | error error => exact .error rfl
    | ok settled => exact .ok (.same .same settled)
  | list same each _ => exact .ok (.list (List.forall₂_iff_zip.mpr ⟨same, each _ _⟩))
  | rejected _ _ error => exact .error rfl
  | putOff tags others _ ih => rwa [settle_deferredBy, settle_deferredBy]

/-! ## What resolvers give -/

namespace Resolved

/-- An error as a pending value, which turns out to fail with it. -/
def pending : Resolved → FieldValue
  | .ok value => value
  | .error error => .rejected none error

theorem settle_pending (resolved : Resolved) : resolved.pending.settle = resolved.settle := by
  cases resolved <;> rfl

/-- Values that differ in what is put off, where one error may be raised or put off. -/
def SameAwaited (resolved other : Resolved) : Prop :=
  resolved.pending.SameAwaited other.pending

/-- A chain that ends in the error stands for it. -/
theorem sameAwaited_error (tags : List (Option String)) (tag? : Option String)
    (error : FieldError) :
    SameAwaited (.error error) (.ok (.deferredBy tags (.rejected tag? error))) :=
  .putOff [] tags (.rejected none tag? error)

end Resolved

/-- What programs give may be put off, and nothing else may differ. -/
def Likeness.awaited : Likeness where
  cause := Eq
  resolved := Resolved.SameAwaited
  same _ := rfl
  json _ := .same _
  typed _ _ := .same _
  settle first other alike := by
    rw [← first.settle_pending, ← other.settle_pending]
    exact FieldValue.SameAwaited.settle alike

/-- Puts off what the program gives, whether it is a value or an error. -/
def Program.putOff (tags : List (Option String)) (program : Program Resolved) : Program Resolved :=
  program.bind fun resolved => .done (.ok (resolved.pending.deferredBy tags))

theorem Program.runsAlike_putOff (tags : List (Option String)) (program : Program Resolved) :
    program.RunsAlike Likeness.awaited.resolved (program.putOff tags) := by
  intro context
  rw [putOff, run_bind]
  exact ⟨FieldValue.sameAwaited_deferredBy tags _, rfl⟩

/-! ## Responses -/

theorem ExecutionError.Alike.eq {error other : ExecutionError} (h : error.Alike .awaited other) :
    error = other := by
  obtain ⟨cause, path, locations⟩ := error
  obtain ⟨rfl, rfl, rfl⟩ := h
  rfl

theorem errors_eq_of_awaited {errors others : List ExecutionError}
    (h : List.Forall₂ (ExecutionError.Alike .awaited) errors others) : errors = others := by
  rw [← List.forall₂_eq_eq_eq]
  exact h.imp fun _ _ alike => alike.eq

namespace Engine

theorem EndsAlike.eq {result other : Except ExecutionError (Option Response)}
    (h : EndsAlike .awaited result other) : result = other := by
  cases h with
  | failed alike => rw [alike.eq]
  | empty => rfl
  | @answered response other alike =>
    obtain ⟨data?, errors⟩ := response
    obtain ⟨others?, others⟩ := other
    obtain ⟨rfl, same⟩ := alike
    cases errors_eq_of_awaited same
    rfl

/-- With resolvers that put off what others give, every position has the same value with the
same errors, and every execution ends with the same result. -/
theorem deferral_transparent (schema : Schema) {registry other : Registry}
    (h : registry.RunsAlike .awaited other) :
    (∀ (type : TypeRef) (field : SelectedField) (path : Path) (resolved resolved' : Resolved)
      (context : Context), resolved.SameAwaited resolved' →
        let outcome := (Engine.mk schema registry).completeField type field path resolved context
        let outcome' := (Engine.mk schema other).completeField type field path resolved' context
        outcome.value? = outcome'.value? ∧ outcome.errors = outcome'.errors ∧
          outcome.context = outcome'.context) ∧
      ∀ (subscription : Subscription) (event : Event) (context : Context),
        ((Engine.mk schema registry).execute subscription event context).result =
          ((Engine.mk schema other).execute subscription event context).result := by
  constructor
  · intro type field path resolved resolved' context same
    have members : AnswersAlike .awaited schema registry other field.subfields :=
      answersAlike h field.subfields
    have completed : CompletesAlike .awaited schema registry other field type :=
      completesAlike members
    have alike := completed path resolved resolved' same context
    exact ⟨alike.value?_eq, errors_eq_of_awaited alike.errors, alike.context⟩
  · exact fun subscription event context =>
      (execute_runsAlike schema h subscription event context).eq

end Engine

/-! ## Lines that are looked up -/

namespace Shop

def unlisted : FieldValue := .json (.object [("price", .string "3.50")])

def linesWith (second : FieldValue) : FieldResolver := fun _ _ =>
  .done (.ok (.list [.json (.object [("sku", .string "A1")]), second]))

def lookedUpSku : FieldResolver := fun parent _ =>
  match parent.property? "sku" with
  | some sku => .done (.ok (.json sku))
  | none => .done (.error (.graphql "not listed"))

def tardySubscriber : Subscriber := fun event _ =>
  .done (.ok [(Program.done (.ok (.typed "OrderCreated" event.value))).putOff
    [none, some "event"]])

def prompt : Registry :=
  ((Registry.empty.addSubscription "event" subscriber).addField "Order" "lines"
    (linesWith unlisted)).addField "Line" "sku" lookedUpSku

/-- The event, the second line and every `sku` are put off, the failing one too. -/
def tardy : Registry :=
  ((Registry.empty.addSubscription "event" tardySubscriber).addField "Order" "lines"
    (linesWith (unlisted.deferredBy [some "line", none]))).addField "Line" "sku"
      fun parent field => (lookedUpSku parent field).putOff [some "sku"]

theorem linesWith_runsAlike (tags : List (Option String)) (second : FieldValue) (parent : Json)
    (field : SelectedField) :
    (linesWith second parent field).RunsAlike Likeness.awaited.resolved
      (linesWith (second.deferredBy tags) parent field) := by
  refine Program.runsAlike_done (.list rfl fun item item' member => ?_)
  simp only [List.zip_cons_cons, List.zip_nil_right, List.mem_cons, Prod.mk.injEq,
    List.not_mem_nil, or_false] at member
  obtain ⟨rfl, rfl⟩ | ⟨rfl, rfl⟩ := member
  · exact .same _
  · exact FieldValue.sameAwaited_deferredBy tags _

theorem prompt_runsAlike_tardy : prompt.RunsAlike .awaited tardy := by
  refine Registry.RunsAlike.addField ?_ "Line" "sku" fun parent field =>
    Program.runsAlike_putOff [some "sku"] _
  refine Registry.RunsAlike.addField ?_ "Order" "lines" (linesWith_runsAlike _ unlisted)
  refine Registry.runsAlike_empty.addSubscription "event" fun event field => ?_
  exact Program.runsAlike_done
    (.ok (.cons (Program.runsAlike_putOff [none, some "event"] _) .nil))

def unlistedResponse : Response :=
  { response with errors := [{
      cause := .raised (.graphql "not listed"), locations := [⟨1, 63⟩]
      path := [.field "event", .field "order", .field "lines", .index 1, .field "sku"] }] }

end Shop

theorem deferral_transparent_on_lines :
    Shop.prompt.RunsAlike .awaited Shop.tardy ∧
      ((Engine.mk Shop.schema Shop.prompt).execute Shop.subscription Shop.created
        Shop.context).result = .ok (some Shop.unlistedResponse) ∧
      ((Engine.mk Shop.schema Shop.tardy).execute Shop.subscription Shop.created
        Shop.context).result = .ok (some Shop.unlistedResponse) ∧
      ((Engine.mk Shop.schema Shop.tardy).completeField (.named "Line" true) Shop.linesField []
        (.ok (.deferredBy [none, none] (.rejected none (.graphql "not listed"))))
        Shop.context).errors =
          [Shop.linesField.errorAt [] (.raised (.graphql "not listed"))] := by
  have alike := Shop.prompt_runsAlike_tardy
  have transparent := Engine.deferral_transparent Shop.schema alike
  have executed : ((Engine.mk Shop.schema Shop.prompt).execute Shop.subscription Shop.created
      Shop.context).result = .ok (some Shop.unlistedResponse) := by cbv
  have late := (transparent.2 Shop.subscription Shop.created Shop.context).symm.trans executed
  have failed := (transparent.1 (.named "Line" true) Shop.linesField [] _ _ Shop.context
    (Resolved.sameAwaited_error [none, none] none (.graphql "not listed"))).2.1
  exact ⟨alike, executed, late, failed.symm.trans (by rw [Engine.errors_completeField]; rfl)⟩

end WebhookPayload
