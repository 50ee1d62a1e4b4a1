import WebhookPayload.Proofs.PayloadContents
import WebhookPayload.Proofs.Redaction

/-! # The texts of internal errors stay inside

Two registries are alike if their resolvers run alike: what they give, at any
depth and by any way, differs in the texts of internal errors at most. Then the
executions differ in such texts at most as well, and the payloads do not differ. -/

namespace WebhookPayload

open GraphQL

variable {α β : Type} {R : α → β → Prop}

/-! ## Loads -/

/-- A value of an earlier load is the same; a loader that runs gives the same or fails alike. -/
inductive LoadOutcome.Alike : LoadOutcome → LoadOutcome → Prop
  | reused (value : Json) : Alike (.reused value) (.reused value)
  | ran {result other : Except FieldError Json} (alike : BothGive Eq result other) :
    Alike (.ran result) (.ran other)

theorem LoadOutcome.Alike.result {outcome other : LoadOutcome} (h : outcome.Alike other) :
    BothGive Eq outcome.result other.result := by
  cases h with
  | reused value => exact .ok rfl
  | ran alike => exact alike

/-- The services keep the same values, whatever a failed loader says. -/
theorem Services.load_alike (services : Services) (key : String) {loader other : Loader}
    (h : BothGive Eq loader other) :
    (services.load key loader).1.Alike (services.load key other).1 ∧
      (services.load key loader).2 = (services.load key other).2 := by
  unfold load
  cases services.loaded? key with
  | some value => exact ⟨.reused value, rfl⟩
  | none =>
    cases h with
    | error alike => exact ⟨.ran (.error alike), rfl⟩
    | ok same =>
      subst same
      exact ⟨.ran (.ok rfl), rfl⟩

theorem Context.load_alike (context : Context) (key : String) {loader other : Loader}
    (h : BothGive Eq loader other) :
    (context.load key loader).answer.Alike (context.load key other).answer ∧
      (context.load key loader).context = (context.load key other).context := by
  obtain ⟨outcome, services⟩ := context.services.load_alike key h
  exact ⟨outcome, congrArg (fun services => { context with services? := some services }) services⟩

/-- Programs that load by alike loaders, and go on alike from alike outcomes. -/
theorem Program.runsAlike_load {key : String} {loader other : Loader}
    (loaders : BothGive Eq loader other)
    {next : LoadOutcome → Program α} {next' : LoadOutcome → Program β}
    (h : ∀ outcome outcome', outcome.Alike outcome' →
      (next outcome).RunsAlike R (next' outcome')) :
    RunsAlike R (perform (.load key loader) next) (perform (.load key other) next') := by
  intro context
  obtain ⟨outcome, after⟩ := context.load_alike key loaders
  exact (h _ _ outcome).of_eq after

/-! ## Resolvers -/

/-- Field resolvers, subscribers and the items of their streams run alike. -/
structure Registry.Alike (registry other : Registry) : Prop where
  fields : ∀ typeName fieldName parent field,
    (registry.fieldResolver typeName fieldName parent field).RunsAlike Resolved.Alike
      (other.fieldResolver typeName fieldName parent field)
  subscriptions : ∀ fieldName event field,
    (registry.subscriber fieldName event field).RunsAlike
      (BothGive (List.Forall₂ (Program.RunsAlike Resolved.Alike)))
      (other.subscriber fieldName event field)

namespace Registry

variable {registry other : Registry}

/-- How a subscriber may fail or answer alike, in both ways of saying it. -/
theorem bothGive_iff {result : Except FieldError α} {result' : Except FieldError β} :
    BothGive R result result' ↔ BothSettle ErrorCause.Alike R result result' := by
  constructor
  · rintro (alike | related)
    · exact .error (.raised alike)
    · exact .ok related
  · rintro (alike | related)
    · cases alike with
      | same => exact .error (.same _)
      | raised alike => exact .error alike
    · exact .ok related

theorem alike_iff : registry.Alike other ↔ registry.RunsAlike .redacted other := by
  constructor
  · exact fun h => ⟨h.fields, fun fieldName event field context =>
      (h.subscriptions fieldName event field context).imp_left bothGive_iff.mp⟩
  · exact fun h => ⟨h.fields, fun fieldName event field context =>
      (h.subscriptions fieldName event field context).imp_left bothGive_iff.mpr⟩

theorem alike_empty : Alike empty empty := alike_iff.mpr runsAlike_empty

theorem Alike.addField (h : registry.Alike other) (typeName fieldName : String)
    {resolver resolver' : FieldResolver}
    (alike : ∀ parent field, (resolver parent field).RunsAlike Resolved.Alike
      (resolver' parent field)) :
    (registry.addField typeName fieldName resolver).Alike
      (other.addField typeName fieldName resolver') :=
  alike_iff.mpr ((alike_iff.mp h).addField typeName fieldName alike)

theorem Alike.addSubscription (h : registry.Alike other) (fieldName : String)
    {subscriber subscriber' : Subscriber}
    (alike : ∀ event field, (subscriber event field).RunsAlike
      (BothGive (List.Forall₂ (Program.RunsAlike Resolved.Alike))) (subscriber' event field)) :
    (registry.addSubscription fieldName subscriber).Alike
      (other.addSubscription fieldName subscriber') :=
  alike_iff.mpr ((alike_iff.mp h).addSubscription fieldName fun event field context =>
    (alike event field context).imp_left bothGive_iff.mp)

end Registry

namespace Engine

/-- Executions end alike, up to the texts of internal errors. -/
theorem execute_endsAlike (schema : Schema) {registry other : Registry}
    (alike : registry.Alike other) (subscription : Subscription) (event : Event)
    (context : Context) :
    EndsAlike .redacted ((Engine.mk schema registry).execute subscription event context).result
      ((Engine.mk schema other).execute subscription event context).result :=
  execute_runsAlike schema (Registry.alike_iff.mp alike) subscription event context

/-- A payload does not depend on the texts of internal errors, by whatever way
they are raised, nor does whether there is one. -/
theorem payload_eq_of_alike (schema : Schema) {registry other : Registry}
    (alike : registry.Alike other) (event : Event) (query : String) (context : Context)
    (owner? : Option App) :
    ((Engine.mk schema registry).generate event query context owner?).payload? =
      ((Engine.mk schema other).generate event query context owner?).payload? := by
  have prepared : (Engine.mk schema registry).prepare query =
      (Engine.mk schema other).prepare query := rfl
  unfold generate generatePrepared
  rw [prepared]
  cases (Engine.mk schema other).prepare query with
  | error error => rfl
  | ok subscription =>
    have ends := execute_endsAlike schema alike subscription event (context.attachApp owner?)
    unfold Generation.payload?
    dsimp only
    generalize ((Engine.mk schema registry).execute _ _ _).result = result,
      ((Engine.mk schema other).execute _ _ _).result = result' at ends ⊢
    cases ends with
    | failed alike => rfl
    | empty => rfl
    | answered alike => exact congrArg some alike.payload_eq

end Engine

/-! ## A warehouse that cannot be reached -/

namespace Shop

def loadLines (text : String) : Program (Except FieldError Json) :=
  .perform (.hasPlugin "warehouse") fun _ =>
    .perform (.load "lines" (.error (.internal text))) fun outcome => .done outcome.result

def pending : Except FieldError Json → FieldValue
  | .ok value => .deferred none (.json value)
  | .error error => .deferred none (.rejected none error)

/-- The first line is known, and the second is what the warehouse says. -/
def linesResolver (text : String) : FieldResolver := fun _ _ =>
  (loadLines text).bind fun result =>
    .done (.ok (.list [.json (.object [("sku", .string "A1")]), pending result]))

def unreachable (text : String) : Registry :=
  (Registry.empty.addSubscription "event" subscriber).addField "Order" "lines" (linesResolver text)

/-- Of the failed load nothing is told. -/
def redactedPayload : Members :=
  [("event", orderLines), ("errors", .array [.object redactedRecord])]

theorem loadLines_runsAlike (text other : String) :
    (loadLines text).RunsAlike (BothGive Eq) (loadLines other) := by
  refine Program.runsAlike_perform fun _ => ?_
  refine Program.runsAlike_load (.error (.internal text other)) fun _ _ outcome => ?_
  exact Program.runsAlike_done outcome.result

theorem pending_alike {result other : Except FieldError Json} (h : BothGive Eq result other) :
    (pending result).Alike (pending other) := by
  cases h with
  | error alike => exact .deferred none (.rejected none alike)
  | ok same => exact same ▸ .deferred none (.json _)

theorem linesResolver_runsAlike (text other : String) (parent : Json) (field : SelectedField) :
    (linesResolver text parent field).RunsAlike Resolved.Alike
      (linesResolver other parent field) := by
  refine Program.runsAlike_bind (loadLines_runsAlike text other) fun _ _ result => ?_
  refine Program.runsAlike_done (.ok (.list rfl fun item item' member => ?_))
  simp only [List.zip_cons_cons, List.zip_nil_right, List.mem_cons, Prod.mk.injEq,
    List.not_mem_nil, or_false] at member
  obtain ⟨rfl, rfl⟩ | ⟨rfl, rfl⟩ := member
  · exact .json _
  · exact pending_alike result

theorem unreachable_alike (text other : String) : (unreachable text).Alike (unreachable other) := by
  refine (Registry.alike_empty.addSubscription "event" fun event field => ?_).addField "Order"
    "lines" (linesResolver_runsAlike text other)
  exact Program.runsAlike_done (.ok (.cons (Program.runsAlike_done (.ok (.typed _ _))) .nil))

end Shop

theorem payload_eq_on_unreachable :
    (Shop.unreachable "no route to 10.0.0.7").Alike (Shop.unreachable "wrong password") ∧
      ((Engine.mk Shop.schema (Shop.unreachable "no route to 10.0.0.7")).generate Shop.created
        Shop.eventQuery Shop.context none).payload? = some Shop.redactedPayload ∧
      ((Engine.mk Shop.schema (Shop.unreachable "wrong password")).generate Shop.created
        Shop.eventQuery Shop.context none).payload? = some Shop.redactedPayload := by
  have alike := Shop.unreachable_alike "no route to 10.0.0.7" "wrong password"
  have same := Engine.payload_eq_of_alike Shop.schema alike Shop.created Shop.eventQuery
    Shop.context none
  have first : ((Engine.mk Shop.schema (Shop.unreachable "wrong password")).generate
      Shop.created Shop.eventQuery Shop.context none).payload? = some Shop.redactedPayload := by
    have prepared : (Engine.mk Shop.schema (Shop.unreachable "wrong password")).prepare
        Shop.eventQuery = .ok (Shop.linesSubscription none 0) := Shop.prepare_eventQuery
    unfold Engine.generate Engine.generatePrepared
    simp only [prepared]
    cbv
  exact ⟨alike, same.trans first, first⟩

end WebhookPayload
