import WebhookPayload.GraphQL.Document

/-! The shape that a document must have before its selections are looked at: a
single subscription with a single selection, and perhaps some fragments. -/

namespace WebhookPayload.GraphQL

/-- A definition of a document, classified for the test of its shape. -/
inductive DocumentPart where
  | subscription (name? : Option String) (definition : OperationDefinition)
  | otherOperation (name? : Option String) (definition : OperationDefinition)
  | fragment (name : String) (definition : FragmentDefinition)

def DocumentPart.ofOperation (name? : Option String) (definition : OperationDefinition) :
    DocumentPart :=
  match definition.kind with
  | .subscription => subscription name? definition
  | .query | .mutation => otherOperation name? definition

/-- Whether parts hold one subscription, with those met before, and that has one
selection. A part that rules this out ends the search. -/
def DocumentPart.areSingle (subscriptions : Nat) : List DocumentPart → Bool
  | [] => subscriptions = 1
  | .fragment _ _ :: rest => areSingle subscriptions rest
  | .subscription _ definition :: rest =>
    if definition.selections.length = 1 then areSingle (subscriptions + 1) rest else false
  | .otherOperation _ _ :: _ => false

namespace Document

def parts (document : Document) : List DocumentPart :=
  document.operations.entries.map (fun entry => .ofOperation entry.1 entry.2)
    ++ document.fragments.map fun entry => .fragment entry.1 entry.2

/-- Whether the only operation is a subscription with one selection. -/
def isSingleSubscription (document : Document) : Bool := DocumentPart.areSingle 0 document.parts

/-- The operation of a single subscription, which is the next one that there is. -/
def singleSubscription? (document : Document) : Option (Option String × OperationDefinition) :=
  if document.isSingleSubscription then document.operations.entries.head? else none

end Document

end WebhookPayload.GraphQL
