import WebhookPayload.Event
import WebhookPayload.Subscription
import WebhookPayload.Resolver.FieldValue
import WebhookPayload.Resolver.Program

/-! Resolvers by the fields they are for. A field without one is read from the
property of its name; a subscription field without one emits the event itself. -/

namespace WebhookPayload

/-- What becomes of a field or of an item of a stream. -/
abbrev Resolved := Except FieldError FieldValue

/-- Resolves a field on the value of the object around it. -/
abbrev FieldResolver := Json → SelectedField → Program Resolved

/-- The items of a subscription, none of which is computed before it is taken. -/
abbrev Stream := List (Program Resolved)

abbrev Subscriber := Event → SelectedField → Program (Except FieldError Stream)

structure Registry where
  /-- Resolvers by type and field, the latest first. -/
  fields : List ((String × String) × FieldResolver)
  /-- Subscribers by field, the latest first. -/
  subscriptions : List (String × Subscriber)

/-- The property of the field's name, or null. -/
def propertyResolver : FieldResolver := fun parent field =>
  .done (.ok (.json ((parent.property? field.name).getD .null)))

/-- The event itself, as a value of the type that represents it. -/
def eventSubscriber : Subscriber := fun event _ =>
  .done (.ok [.done (.ok (.typed event.typeName event.value))])

namespace Registry

def empty : Registry := { fields := [], subscriptions := [] }

/-- A later resolver for the same field replaces the earlier one. -/
def addField (registry : Registry) (typeName fieldName : String) (resolver : FieldResolver) :
    Registry :=
  { registry with fields := ((typeName, fieldName), resolver) :: registry.fields }

def addSubscription (registry : Registry) (fieldName : String) (subscriber : Subscriber) :
    Registry :=
  { registry with subscriptions := (fieldName, subscriber) :: registry.subscriptions }

def hasField (registry : Registry) (typeName fieldName : String) : Bool :=
  (registry.fields.lookup (typeName, fieldName)).isSome

def hasSubscription (registry : Registry) (fieldName : String) : Bool :=
  (registry.subscriptions.lookup fieldName).isSome

def fieldResolver (registry : Registry) (typeName fieldName : String) : FieldResolver :=
  (registry.fields.lookup (typeName, fieldName)).getD propertyResolver

def subscriber (registry : Registry) (fieldName : String) : Subscriber :=
  (registry.subscriptions.lookup fieldName).getD eventSubscriber

end Registry

end WebhookPayload
