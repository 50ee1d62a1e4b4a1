import WebhookPayload.Json
import WebhookPayload.Failure

/-! What happens, step by step, while a context is used and a payload is
generated: calls to the host source, loads, and the work of resolvers. -/

namespace WebhookPayload

/-- How a load is answered: from an earlier load of the key, or by its own loader. -/
inductive LoadOutcome where
  | reused (value : Json)
  | ran (result : Except FieldError Json)

def LoadOutcome.result : LoadOutcome → Except FieldError Json
  | reused value => .ok value
  | ran result => result

def LoadOutcome.loaderRan : LoadOutcome → Bool
  | reused _ => false
  | ran _ => true

inductive TraceEntry where
  | hostLookup
  | load (key : String) (outcome : LoadOutcome)
  | subscribed (field : String)
  /-- An item is taken from the stream of a subscription. -/
  | itemTaken (index : Nat)
  /-- The resolver of a field starts, for the given response position. -/
  | fieldResolved (path : Path) (typeName fieldName : String)
  /-- A pending value is computed; the tag is the one it was created with. -/
  | deferredComputed (path : Path) (tag? : Option String)

abbrev Trace := List TraceEntry

end WebhookPayload
