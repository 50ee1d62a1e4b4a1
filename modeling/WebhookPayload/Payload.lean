import WebhookPayload.ErrorRecord
import WebhookPayload.Execution
import WebhookPayload.Subscription.Validation

/-! Payloads: what the receiver of a webhook gets for an event. A payload holds
the selected data under the output name of the root field and, if anything
failed, the records of the errors. -/

namespace WebhookPayload

/-- Why there is no payload. -/
inductive PayloadError where
  | query (error : QueryError)
  | execution (error : ExecutionError)
  | noPayload

def PayloadError.message : PayloadError → String
  | query error => "Invalid subscription query: " ++ error.message
  | execution error => "Subscription failed: " ++ error.message
  | noPayload => "Subscription produced no payload"

/-- Why a query cannot be stored, in the form that webhook owners see. -/
structure QueryRejection where
  field : String
  message : String
  code : String
  deriving DecidableEq

def QueryRejection.invalidQuery : QueryRejection :=
  { field := "query", message := "Subscription query is not valid", code := "INVALID" }

/-- The data of a response with the records of its errors. -/
def Response.payload (response : Response) : Members :=
  let data := response.data?.getD []
  match errorRecords recognizedKinds response.errors with
  | [] => data
  | records => Members.insert "errors" (.array records) data

/-- How the generation of a payload ends, what happened, and the context afterwards. -/
structure Generation where
  result : Except PayloadError Members
  trace : Trace
  context : Context

/-- The payload, if there is one; why there is none is left to a log. -/
def Generation.payload? (generation : Generation) : Option Members := generation.result.toOption

namespace Engine

def prepare (engine : Engine) (query : String) : Except QueryError Subscription :=
  engine.schema.prepare query

/-- Whether a query may be stored. Having no query is always acceptable. -/
def accepts (engine : Engine) : Option String → Bool
  | none => true
  | some query => query = "" || (engine.prepare query).isOk

def checkQuery (engine : Engine) (query? : Option String) : Except QueryRejection Unit :=
  if engine.accepts query? then .ok () else .error .invalidQuery

/-- What is generated for an event of what a query is prepared to, with `owner?` as the
owner of the payload. -/
def generatePrepared (engine : Engine) (event : Event) (prepared : Except QueryError Subscription)
    (context : Context) (owner? : Option App) : Generation :=
  match prepared with
  | .error error => { result := .error (.query error), trace := [], context }
  | .ok subscription =>
    let execution := engine.execute subscription event (context.attachApp owner?)
    let result :=
      match execution.result with
      | .error error => .error (.execution error)
      | .ok none => .error .noPayload
      | .ok (some response) => .ok response.payload
    { result, trace := execution.trace, context := execution.context }

/-- Executes a query for an event. -/
def generate (engine : Engine) (event : Event) (query : String) (context : Context)
    (owner? : Option App) : Generation :=
  engine.generatePrepared event (engine.prepare query) context owner?

end Engine

end WebhookPayload
