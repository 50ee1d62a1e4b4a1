import WebhookPayload.Json
import WebhookPayload.Failure

/-! Who caused an event, and the app that owns a payload. The permissions of the
owner decide which protected fields a payload may show. -/

namespace WebhookPayload

structure App where
  id : String
  name : String
  permissions : List String
  deriving DecidableEq

inductive Requestor where
  | user (id email : String)
  | app (app : App)
  deriving DecidableEq

namespace App

/-- No permission at all is needed when the list is empty. -/
def hasAny (app : App) (permissions : List String) : Bool :=
  permissions.isEmpty || permissions.any (· ∈ app.permissions)

def members (app : App) : Members :=
  [("id", .string app.id), ("name", .string app.name), ("permissions", .strings app.permissions)]

def toJson (app : App) : Json := .object app.members

theorem hasAny_iff (app : App) (permissions : List String) :
    app.hasAny permissions = true ↔
      permissions = [] ∨ ∃ p ∈ permissions, p ∈ app.permissions := by
  simp [hasAny]

end App

namespace Requestor

def identity : Requestor → String
  | user id _ => "user:" ++ id
  | app a => "app:" ++ a.id

def toJson : Requestor → Json
  | user id email => .object [("type", .string "user"), ("id", .string id), ("email", .string email)]
  | app a => .object (("type", .string "app") :: a.members)

end Requestor

/-- The owner must hold one of the permissions; without an owner nothing protected is shown. -/
def checkPermissions (owner? : Option App) (permissions : List String) : Except FieldError Unit :=
  match owner? with
  | some app => if app.hasAny permissions then .ok () else .error (.permissionDenied permissions)
  | none => .error (.permissionDenied permissions)

end WebhookPayload
