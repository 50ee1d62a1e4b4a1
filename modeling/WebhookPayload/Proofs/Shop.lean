import Mathlib
import WebhookPayload.Execution
import WebhookPayload.Proofs.Inlining

/-! # A shop

A schema with an interface, a union, lists and positions that exclude null. The
statements of the theory that need something to hold of are shown on it. There
queries are read and executed by `cbv`, which goes by the equations of library
functions. They have to be the same wherever the shop is used, so it brings the
whole library with it. -/

namespace WebhookPayload.Shop

open GraphQL

def field (name : String) (type : TypeRef) : FieldDefinition := { name, type, arguments := [] }

def eventFields : List FieldDefinition :=
  [field "issuedAt" (.named "String" true), field "issuer" (.named "Issuer" true)]

def event : TypeDefinition := { name := "Event", kind := .interface [] eventFields }

def orderCreated : TypeDefinition :=
  { name := "OrderCreated"
    kind := .object ["Event"] (eventFields ++ [field "order" (.named "Order" true)]) }

def schema : Schema :=
  { types := [
      { name := "Subscription", kind := .object [] [field "event" (.named "Event" true)] },
      event, orderCreated,
      { name := "OrderPaid", kind := .object ["Event"] eventFields },
      { name := "Order"
        kind := .object [] [field "number" (.named "String" false),
          field "lines" (.list (.named "Line" true) true)] },
      { name := "Line"
        kind := .object [] [field "sku" (.named "String" false),
          field "price" (.named "String" true)] },
      { name := "App", kind := .object [] [field "name" (.named "String" true)] },
      { name := "Staff", kind := .object [] [field "email" (.named "String" true)] },
      { name := "Issuer", kind := .union ["App", "Staff"] },
      { name := "String", kind := .scalar }]
    queryRoot := "Query"
    subscriptionRoot? := some "Subscription" }

/-- The head of a field without alias and arguments, at a column of the first line. -/
def head (column : Nat) (name : String) : FieldHead :=
  { position := ⟨1, column⟩, alias? := none, name, arguments := [] }

def condition (column : Nat) (typeName : String) : TypeCondition :=
  { typeName, position := ⟨1, column⟩ }

/-! ## A delivery -/

/-- The event itself, as the creation of an order. -/
def subscriber : Subscriber := fun event _ =>
  .done (.ok [.done (.ok (.typed "OrderCreated" event.value))])

def engine : Engine :=
  { schema, resolvers := Registry.empty.addSubscription "event" subscriber }

def context : Context :=
  { request := { secure := true, host := fun _ => "shop.example", lookups := 0, knownHost? := none }
    requestor? := none, synchronous := false, app? := none, plugins := [], services? := none }

/-- Two lines, the second without the `sku` that each line must have. -/
def lines : Json :=
  .array [.object [("sku", .string "A1")], .object [("price", .string "3.50")]]

def created : Event :=
  { eventType := "ORDER_CREATED"
    value := .object [("order", .object [("number", .string "17"), ("lines", lines)])] }

def linesField : SelectedField :=
  (head 55 "lines").selected [] [] [(head 63 "sku").selected [] [] []]

/-- `subscription { event { __typename ... on OrderCreated { order { number lines { sku } } } } }` -/
def subscription : Subscription :=
  { name? := none
    field := (head 16 "event").selected [] []
      [(head 24 "__typename").selected [] [] [],
        (head 40 "order").selected ["OrderCreated"] []
          [(head 48 "number").selected [] [] [], linesField]] }

/-- The second line is null, since its `sku` cannot be. -/
def deliveredLines : Json := .array [.object [("sku", .string "A1")], .null]

def response : Response :=
  { data? := some [("event", .object [("__typename", .string "OrderCreated"),
      ("order", .object [("number", .string "17"), ("lines", deliveredLines)])])]
    errors := [{
      cause := .nullNotAllowed "sku", locations := [⟨1, 63⟩]
      path := [.field "event", .field "order", .field "lines", .index 1, .field "sku"] }] }

end WebhookPayload.Shop
