import WebhookPayload.Request
import WebhookPayload.Services

/-! Everything that resolvers may consult while one payload is generated. A
context is made fresh for each payload and makes nothing in advance: the host
name and the services come into being with the first operation that needs them. -/

namespace WebhookPayload

structure Context where
  request : Request
  requestor? : Option Requestor
  /-- Whether the caller of a synchronous webhook waits for the payload. -/
  synchronous : Bool
  /-- The owner of the payload. -/
  app? : Option App
  plugins : List String
  services? : Option Services

/-- What can be asked of a context. -/
inductive Operation where
  | serverName
  | serverPort
  | scheme
  | isSecure
  | absoluteUri (location : String)
  | headers (key : String)
  | header (key : String)
  | path
  | method
  | requestor
  | synchronous
  | app
  | appId
  | servicesStarted
  | plugins
  | hasPlugin (name : String)
  | requestorIdentity
  | load (key : String) (loader : Loader)

def Operation.Answer : Operation → Type
  | serverName | scheme | absoluteUri _ | path | method => String
  | serverPort => Nat
  | isSecure | synchronous | servicesStarted | hasPlugin _ => Bool
  | headers _ | plugins => List String
  | header _ | appId | requestorIdentity => Option String
  | requestor => Option Requestor
  | app => Option App
  | load _ _ => LoadOutcome

/-- An answer, what happened on the way to it, and the context afterwards. -/
structure Traced (α : Type) where
  answer : α
  trace : Trace
  context : Context

def Traced.map {α β : Type} (f : α → β) (t : Traced α) : Traced β :=
  { answer := f t.answer, trace := t.trace, context := t.context }

namespace Context

def ofSettings (settings : Settings) (requestor? : Option Requestor) (synchronous : Bool) :
    Context :=
  { request := .ofSettings settings
    requestor?
    synchronous
    app? := none
    plugins := settings.plugins
    services? := none }

def attachApp (context : Context) (app? : Option App) : Context := { context with app? }

/-- The services, made of the plugins and the requestor of the context if there are none yet. -/
def services (context : Context) : Services :=
  context.services?.getD (.start context.plugins context.requestor?)

/-- An answer that changes nothing. -/
def reply {α : Type} (context : Context) (answer : α) : Traced α :=
  { answer, trace := [], context }

/-- An answer that depends on the host name, which is looked up first. -/
def replyWithHost {α : Type} (context : Context) (answer : Request → α) : Traced α :=
  let request := context.request.lookUpHost
  { answer := answer request
    trace := context.request.lookUpTrace
    context := { context with request } }

/-- An answer of the services, which are started first. -/
def replyWithServices {α : Type} (context : Context) (answer : Services → α) : Traced α :=
  { answer := answer context.services
    trace := []
    context := { context with services? := some context.services } }

def headers (context : Context) (key : String) : Traced (List String) :=
  match Request.header? key with
  | none => context.reply []
  | some .host => context.replyWithHost (·.headerValues .host)
  | some .forwardedProtocol => context.reply (context.request.headerValues .forwardedProtocol)

def load (context : Context) (key : String) (loader : Loader) : Traced LoadOutcome :=
  let (outcome, services) := context.services.load key loader
  { answer := outcome
    trace := [.load key outcome]
    context := { context with services? := some services } }

def perform (context : Context) : (op : Operation) → Traced op.Answer
  | .serverName => context.replyWithHost (·.serverName)
  | .serverPort => context.reply context.request.serverPort
  | .scheme => context.reply context.request.scheme
  | .isSecure => context.reply context.request.secure
  | .absoluteUri location => context.replyWithHost (·.absoluteUri location)
  | .headers key => context.headers key
  | .header key => (context.headers key).map List.head?
  | .path => context.reply Request.path
  | .method => context.reply Request.method
  | .requestor => context.reply context.requestor?
  | .synchronous => context.reply context.synchronous
  | .app => context.reply context.app?
  | .appId => context.reply (context.app?.map App.id)
  | .servicesStarted => context.reply context.services?.isSome
  | .plugins => context.replyWithServices (·.plugins)
  | .hasPlugin name => context.replyWithServices (·.hasPlugin name)
  | .requestorIdentity => context.replyWithServices (·.requestorIdentity?)
  | .load key loader => context.load key loader

end Context

end WebhookPayload
