import WebhookPayload.Settings
import WebhookPayload.Trace

/-! The request that payloads are generated under. Nobody sent it: it only gives
resolvers the usual shape of a request, for instance to build absolute
addresses. The public host is asked for when it is first needed and then kept. -/

namespace WebhookPayload

structure Request where
  secure : Bool
  host : HostSource
  /-- How often the host source has been asked. -/
  lookups : Nat
  knownHost? : Option String

namespace Request

def ofSettings (settings : Settings) : Request :=
  { secure := settings.secure, host := settings.host, lookups := 0, knownHost? := none }

def serverPort (request : Request) : Nat := if request.secure then 443 else 80

def scheme (request : Request) : String := if request.secure then "https" else "http"

def path : String := "/graphql/"

def method : String := "GET"

/-- The host name, from the source unless it is known already. -/
def serverName (request : Request) : String :=
  request.knownHost?.getD (request.host request.lookups)

/-- The request once the host name is known. -/
def lookUpHost (request : Request) : Request :=
  match request.knownHost? with
  | some _ => request
  | none =>
    { request with
      lookups := request.lookups + 1
      knownHost? := some (request.host request.lookups) }

/-- What looking up the host does to the outside. -/
def lookUpTrace (request : Request) : Trace :=
  match request.knownHost? with
  | some _ => []
  | none => [.hostLookup]

/-- Only the host is spelled out; everything else about the server follows from the scheme. -/
def absoluteUri (request : Request) (location : String) : String :=
  request.scheme ++ "://" ++ request.serverName ++ location

/-- The headers that the request has, by lower case key. -/
inductive Header where
  | host
  | forwardedProtocol
  deriving DecidableEq

def header? (key : String) : Option Header :=
  let lower := key.toList.flatMap Text.lowercase
  if lower = "host".toList then some .host
  else if lower = "x-forwarded-proto".toList then some .forwardedProtocol
  else none

/-- The values of a header. Only a secure request says which protocol it came by. -/
def headerValues (request : Request) : Header → List String
  | .host => [request.serverName]
  | .forwardedProtocol => if request.secure then ["https"] else []

@[simp] theorem serverName_lookUpHost (request : Request) :
    request.lookUpHost.serverName = request.serverName := by
  cases h : request.knownHost? <;> simp [lookUpHost, serverName, h]

end Request

end WebhookPayload
