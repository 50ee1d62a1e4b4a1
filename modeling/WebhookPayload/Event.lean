import WebhookPayload.Json
import WebhookPayload.Text.UpperCamel

/-! The event that a payload tells of. -/

namespace WebhookPayload

structure Event where
  /-- For instance `ORDER_CREATED`. -/
  eventType : String
  value : Json

/-- The object type that represents the event: `ORDER_CREATED` is an `OrderCreated`. -/
def Event.typeName (event : Event) : String := Text.upperCamel event.eventType

end WebhookPayload
