import WebhookPayload.Json
import WebhookPayload.Failure

/-! Errors as they appear in a payload. An error of a recognized kind keeps its
message, its locations, its path and its code; of any other error nothing
remains but a fixed message, so that no internal detail reaches a receiver. -/

namespace WebhookPayload

open GraphQL (Position)

/-- The kinds whose details are safe to show. -/
def recognizedKinds : List ErrorKind := [.graphql, .permissionDenied]

def PathSegment.toJson : PathSegment → Json
  | field name => .string name
  | index i => .ofNat i

def locationRecord (position : Position) : Json :=
  .object [("line", .ofNat position.line), ("column", .ofNat position.column)]

/-- A member that is left out when its list is empty. -/
def listMember {α : Type} (key : String) (encode : α → Json) : List α → Members
  | [] => []
  | items => [(key, .array (items.map encode))]

def permissionMember : Option (List String) → Members
  | some permissions => [("permissions", .strings permissions)]
  | none => []

def redactedRecord : Members := [("message", .string "Internal server error")]

namespace ExecutionError

def exceptionRecord (e : ExecutionError) : Members :=
  ("code", .string e.kind.code) :: permissionMember e.cause.permissions?

def fullRecord (e : ExecutionError) : Members :=
  [("message", .string e.message)]
    ++ listMember "locations" locationRecord e.locations
    ++ listMember "path" PathSegment.toJson e.path
    ++ [("extensions", .object [("exception", .object e.exceptionRecord)])]

def record (recognized : List ErrorKind) (e : ExecutionError) : Members :=
  if e.kind ∈ recognized then e.fullRecord else redactedRecord

end ExecutionError

/-- One record per error, in order. -/
def errorRecords (recognized : List ErrorKind) (errors : List ExecutionError) : List Json :=
  errors.map fun e => .object (e.record recognized)

end WebhookPayload
