import WebhookPayload.Json
import WebhookPayload.Failure

/-! The values that resolvers give. A value may still have to be computed; what
comes of it is fixed when it is made, and only asking for it is left. -/

namespace WebhookPayload

inductive FieldValue where
  | json (value : Json)
  /-- A value of a known object type. -/
  | typed (typeName : String) (value : Json)
  | list (items : List FieldValue)
  /-- A pending value, which turns out to be the given one. -/
  | deferred (tag? : Option String) (value : FieldValue)
  /-- A pending value, which turns out to fail. -/
  | rejected (tag? : Option String) (error : FieldError)

/-- A value that is not pending, although items of it may be. -/
inductive SettledValue where
  | json (value : Json)
  | typed (typeName : String) (value : Json)
  | list (items : List FieldValue)

namespace FieldValue

/-- Waits for a pending value, and for what it turns out to be in turn. -/
def settle : FieldValue → Except FieldError SettledValue
  | json value => .ok (.json value)
  | typed typeName value => .ok (.typed typeName value)
  | list items => .ok (.list items)
  | deferred _ value => value.settle
  | rejected _ error => .error error

/-- The tags of the pending values that are waited for, in order. -/
def pendingTags : FieldValue → List (Option String)
  | deferred tag? value => tag? :: value.pendingTags
  | rejected tag? _ => [tag?]
  | _ => []

end FieldValue

namespace SettledValue

/-- Whether the value is a plain null. -/
def isNull : SettledValue → Bool
  | json value => value.isNull
  | _ => false

/-- The items of a list, or of a plain array. -/
def items? : SettledValue → Option (List FieldValue)
  | list items => some items
  | json (.array items) => some (items.map FieldValue.json)
  | _ => none

/-- The JSON value, unless it is a list. -/
def data? : SettledValue → Option Json
  | json value => some value
  | typed _ value => some value
  | list _ => none

/-- The object type that the value says it is of. -/
def typeName? : SettledValue → Option String
  | json value => (value.property? "__typename").bind Json.asString?
  | typed typeName _ => some typeName
  | list _ => none

end SettledValue

end WebhookPayload
