/-! References to types, as fields, arguments and variables declare them: a
name or a list, either of which may exclude null. -/

namespace WebhookPayload.GraphQL

inductive TypeRef where
  | named (name : String) (nullable : Bool)
  | list (item : TypeRef) (nullable : Bool)
  deriving DecidableEq

namespace TypeRef

def nullable : TypeRef → Bool
  | named _ nullable => nullable
  | list _ nullable => nullable

/-- The name inside all lists. -/
def underlying : TypeRef → String
  | named name _ => name
  | list item _ => item.underlying

/-- How many lists are nested around the name. -/
def listDepth : TypeRef → Nat
  | named _ _ => 0
  | list item _ => item.listDepth + 1

def bang (nullable : Bool) : String := if nullable then "" else "!"

def text : TypeRef → String
  | named name nullable => name ++ bang nullable
  | list item nullable => "[" ++ item.text ++ "]" ++ bang nullable

end TypeRef

end WebhookPayload.GraphQL
