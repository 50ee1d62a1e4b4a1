import WebhookPayload.GraphQL.Position

/-! What can go wrong while a field is resolved, and where it went wrong. -/

namespace WebhookPayload

open GraphQL (Position)

/-- Raised while a single field is resolved. The message of an internal error
may carry details that are not meant for the receiver of a payload. -/
inductive FieldError where
  | graphql (message : String)
  | permissionDenied (permissions : List String)
  | internal (message : String)
  deriving DecidableEq

inductive ErrorKind where
  | graphql
  | permissionDenied
  | internal
  deriving DecidableEq

def ErrorKind.code : ErrorKind → String
  | graphql => "GraphQLError"
  | permissionDenied => "PermissionDenied"
  | internal => "InternalError"

namespace FieldError

def kind : FieldError → ErrorKind
  | graphql _ => .graphql
  | permissionDenied _ => .permissionDenied
  | internal _ => .internal

def message : FieldError → String
  | graphql message => message
  | permissionDenied permissions =>
    "You need one of the following permissions: " ++ ", ".intercalate permissions
  | internal message => message

/-- The text of the error that an internal error wraps. -/
def source? : FieldError → Option String
  | internal message => some message
  | _ => none

end FieldError

/-- Why the value of a field is missing. Everything but an error that a resolver
raised is found by the execution itself. -/
inductive ErrorCause where
  | raised (error : FieldError)
  | nullNotAllowed (field : String)
  | listExpected (field : String)
  | unknownType (field : String)
  | unsuitableValue (field : String)
  /-- It is not known which object type a value of the interface or union is of. -/
  | unknownObjectType (field typeName : String)
  | undeclaredField (field typeName : String)
  | undefinedSubscription (field : String)
  deriving DecidableEq

namespace ErrorCause

def kind : ErrorCause → ErrorKind
  | raised error => error.kind
  | _ => .graphql

def message : ErrorCause → String
  | raised error => error.message
  | nullNotAllowed field => "Cannot return null for non-nullable field '" ++ field ++ "'"
  | listExpected field => "Expected a list for field '" ++ field ++ "'"
  | unknownType field => "Unknown type for field '" ++ field ++ "'"
  | unsuitableValue field => "Value does not match the field type for field '" ++ field ++ "'"
  | unknownObjectType field typeName =>
    "Could not determine the concrete type of '" ++ typeName ++ "' for field '" ++ field ++ "'"
  | undeclaredField field typeName =>
    "Field '" ++ field ++ "' is not defined on type '" ++ typeName ++ "'"
  | undefinedSubscription field => "Subscription field '" ++ field ++ "' is not defined"

/-- The permissions that were missing, if that is the cause. -/
def permissions? : ErrorCause → Option (List String)
  | raised (.permissionDenied permissions) => some permissions
  | _ => none

def source? : ErrorCause → Option String
  | raised error => error.source?
  | _ => none

end ErrorCause

inductive PathSegment where
  | field (name : String)
  | index (i : Nat)
  deriving DecidableEq

/-- The way from the root of a response to a position in it. -/
abbrev Path := List PathSegment

/-- The cause of a missing value, its position in the response and the places of
the query that it concerns. -/
structure ExecutionError where
  cause : ErrorCause
  path : Path
  locations : List Position
  deriving DecidableEq

def ExecutionError.message (e : ExecutionError) : String := e.cause.message

def ExecutionError.kind (e : ExecutionError) : ErrorKind := e.cause.kind

end WebhookPayload
