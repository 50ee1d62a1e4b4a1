import WebhookPayload.Json

/-! Values that are written in GraphQL. In a query a value may contain
variables; a literal is a value without any. -/

namespace WebhookPayload.GraphQL

/-- A value whose variables are named by `ν`. Keys of an object are distinct. -/
inductive Value (ν : Type) where
  | var (name : ν)
  | null
  | boolean (value : Bool)
  | number (value : Number)
  | string (value : String)
  | enum (name : String)
  | list (items : List (Value ν))
  | object (members : List (String × Value ν))

abbrev Literal := Value Empty

namespace Value

variable {ν ε : Type}

/-- Adds a member; a repeated key keeps its first place and takes the last value. -/
def setMember (key : String) (value : Value ν) :
    List (String × Value ν) → List (String × Value ν)
  | [] => [(key, value)]
  | (k, v) :: rest =>
    if k = key then (key, value) :: rest else (k, v) :: setMember key value rest

def ofMembers (members : List (String × Value ν)) : Value ν :=
  object (members.foldl (fun known entry => setMember entry.1 entry.2 known) [])

def isNull : Value ν → Bool
  | null => true
  | _ => false

mutual

/-- Replaces every variable by its value; the first failure in the order of
writing is the failure of the whole. -/
def substitute (lookup : ν → Except ε Literal) : Value ν → Except ε Literal
  | var name => lookup name
  | null => .ok .null
  | boolean value => .ok (.boolean value)
  | number value => .ok (.number value)
  | string value => .ok (.string value)
  | enum name => .ok (.enum name)
  | list items => (substituteItems lookup items).map .list
  | object members => (substituteMembers lookup members).map .object

def substituteItems (lookup : ν → Except ε Literal) :
    List (Value ν) → Except ε (List Literal)
  | [] => .ok []
  | item :: rest => do
    let first ← substitute lookup item
    let others ← substituteItems lookup rest
    return first :: others

def substituteMembers (lookup : ν → Except ε Literal) :
    List (String × Value ν) → Except ε (List (String × Literal))
  | [] => .ok []
  | (key, value) :: rest => do
    let first ← substitute lookup value
    let others ← substituteMembers lookup rest
    return (key, first) :: others

end

mutual

/-- A literal as resolvers see it; the name of an enum value becomes a string. -/
def toJson : Literal → Json
  | var name => nomatch name
  | null => .null
  | boolean value => .boolean value
  | number value => .number value
  | string value => .string value
  | enum name => .string name
  | list items => .array (itemsToJson items)
  | object members => .object (membersToJson members)

def itemsToJson : List Literal → List Json
  | [] => []
  | item :: rest => toJson item :: itemsToJson rest

def membersToJson : List (String × Literal) → List (String × Json)
  | [] => []
  | (key, value) :: rest => (key, toJson value) :: membersToJson rest

end

end Value

end WebhookPayload.GraphQL
