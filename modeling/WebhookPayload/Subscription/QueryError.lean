import WebhookPayload.GraphQL.ParseError
import WebhookPayload.Text.Quoted

/-! Why a query is no valid subscription. -/

namespace WebhookPayload

open GraphQL

inductive QueryError where
  | unparsable (cause : ParseError)
  | notSingleSubscription
  | subscriptionsNotSupported
  | variableNotFound (name : String) (position : Position)
  | fragmentNotFound (name : String) (position : Position)
  | fragmentCycle (name : String) (position : Position)
  | invalidTypeCondition (typeName : String) (position : Position)
  | invalidField (field container : String) (position : Position)
  | invalidSubscriptionField (field : String) (position : Position)
  | scalarWithFields (field : String) (position : Position)
  | objectWithoutFields (field : String) (position : Position)
  | invalidFieldType (typeName : String) (position : Position)
  | requiredArgumentNotFound (argument : String) (position : Position)
  | strayArguments (arguments : List String) (field : String) (position : Position)
  deriving DecidableEq

namespace QueryError

def message : QueryError → String
  | unparsable cause => cause.message
  | notSingleSubscription => "Query must contain exactly one subscription with a single field"
  | subscriptionsNotSupported => "The schema does not support subscriptions"
  | variableNotFound name _ => "Variable '" ++ name ++ "' not found"
  | fragmentNotFound name _ => "Fragment definition '" ++ name ++ "' not found"
  | fragmentCycle name _ => "Fragment '" ++ name ++ "' refers to itself"
  | invalidTypeCondition typeName _ =>
    "Type condition '" ++ typeName ++ "' does not name an object, interface, or union type"
  | invalidField field container _ =>
    "Field '" ++ field ++ "' is not valid for type '" ++ container ++ "'"
  | invalidSubscriptionField field _ => "Field '" ++ field ++ "' cannot be subscribed to"
  | scalarWithFields field _ =>
    "Field '" ++ field ++ "' is of a scalar type, which should not specify fields"
  | objectWithoutFields field _ =>
    "Field '" ++ field ++ "' is of an object type, which must specify fields"
  | invalidFieldType typeName _ => "Field type '" ++ typeName ++ "' is not valid"
  | requiredArgumentNotFound argument _ => "Required argument '" ++ argument ++ "' not found"
  | strayArguments arguments field _ =>
    "Argument(s) '" ++ Text.quotedList arguments ++ "' invalid for '" ++ field ++ "'"

def positions : QueryError → List Position
  | unparsable cause => cause.positions
  | notSingleSubscription | subscriptionsNotSupported => []
  | variableNotFound _ position
  | fragmentNotFound _ position
  | fragmentCycle _ position
  | invalidTypeCondition _ position
  | invalidField _ _ position
  | invalidSubscriptionField _ position
  | scalarWithFields _ position
  | objectWithoutFields _ position
  | invalidFieldType _ position
  | requiredArgumentNotFound _ position
  | strayArguments _ _ position => [position]

end QueryError

end WebhookPayload
