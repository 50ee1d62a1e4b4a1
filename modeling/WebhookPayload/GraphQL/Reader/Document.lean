import WebhookPayload.GraphQL.Reader.Value

/-! The reader of query documents. -/

namespace WebhookPayload.GraphQL

namespace Reader

/-- How deep selection sets may be nested below the one of an operation or a
fragment. -/
def greatestDepth : Nat := 64

/-- The condition of a fragment; its place is that of the type name. -/
def typeCondition : Reader TypeCondition := lexeme do
  exactly "on"
  discard (many1 (satisfy isIgnored))
  let place ← position
  let typeName ← bareName
  return { typeName, position := place }

def outputAlias : Reader String := do
  let output ← name
  mark ":"
  return output

def field (nested : Reader (List Selection)) : Reader Selection := do
  let place ← position
  let alias? ← optional outputAlias
  let name ← name
  let arguments? ← optional arguments
  discard (optional directives)
  let selections? ← optional nested
  return .field { position := place, alias?, name, arguments := arguments?.getD [] }
    (selections?.getD [])

def inlineFragment (nested : Reader (List Selection)) : Reader Selection := do
  mark "..."
  let condition? ← optional typeCondition
  discard (optional directives)
  let selections ← nested
  return .inlineFragment condition? selections

def fragmentSpread : Reader Selection := do
  let place ← position
  mark "..."
  notAt typeCondition
  let name ← name
  discard (optional directives)
  return .spread place name

/-- A selection set at the given depth. -/
def selectionSet (depth : Nat) : Reader (List Selection) :=
  recursive (fun self depth => do
    if depth > greatestDepth then fault .tooDeep
    let nested := self (depth + 1)
    mark "\x7b"
    let selections ← many1 (choice [field nested, inlineFragment nested, fragmentSpread])
    mark "\x7d"
    return selections) depth

def operationKind : Reader OperationKind :=
  choice
    [mark "query" *> pure .query,
     mark "mutation" *> pure .mutation,
     mark "subscription" *> pure .subscription]

def variableDefinition : Reader VariableDefinition := do
  let place ← position
  let name ← variableName
  mark ":"
  let type ← typeRef
  discard (optional directives)
  let default? ← optional defaultValue
  return { position := place, name, type, default? }

def variableDefinitions : Reader (List VariableDefinition) := do
  mark "("
  let definitions ← many variableDefinition
  mark ")"
  return definitions

/-- A definition of a document as it is written. -/
inductive DocumentItem where
  | operation (name? : Option String) (definition : OperationDefinition)
  | fragment (name : String) (definition : FragmentDefinition)

def fullOperation : Reader DocumentItem := do
  let place ← position
  let kind ← operationKind
  let name? ← optional name
  let definitions? ← optional variableDefinitions
  discard (optional directives)
  let selections ← selectionSet 0
  return .operation name? {
    kind, position := place, variableDefinitions := definitions?.getD [], selections }

/-- A query may be written as its selection set alone. -/
def shortOperation : Reader DocumentItem := do
  let place ← position
  let selections ← selectionSet 0
  return .operation none {
    kind := .query, position := place, variableDefinitions := [], selections }

def fragmentDefinition : Reader DocumentItem := do
  let place ← position
  mark "fragment"
  let name ← name
  let condition ← typeCondition
  discard (optional directives)
  let selections ← selectionSet 0
  return .fragment name { position := place, condition, selections }

def documentItems : Reader (List DocumentItem) := do
  ignored
  many1 (choice [fullOperation, shortOperation, fragmentDefinition])

end Reader

open Reader (DocumentItem)

/-- An operation without a name must be the only one, and names must differ. -/
def Operations.add (known? : Option Operations) (name? : Option String)
    (operation : OperationDefinition) : Except ParseError Operations :=
  match known?, name? with
  | none, none => .ok (.anonymous operation)
  | none, some name => .ok (.named [(name, operation)])
  | some (.anonymous only), some _ =>
    .error (.multipleOperations only.position operation.position)
  | some known, none =>
    let other := (known.entries.head?.map fun entry => entry.2.position).getD default
    .error (.multipleOperations operation.position other)
  | some (.named operations), some name =>
    match operations.lookup name with
    | some first => .error (.duplicateOperation name first.position operation.position)
    | none => .ok (.named (operations ++ [(name, operation)]))

def addFragment (known : List (String × FragmentDefinition)) (name : String)
    (fragment : FragmentDefinition) : Except ParseError (List (String × FragmentDefinition)) :=
  match known.lookup name with
  | some first => .error (.duplicateFragment name first.position fragment.position)
  | none => .ok (known ++ [(name, fragment)])

namespace Document

/-- Adds the definitions one by one to those known before. -/
def collect (operations? : Option Operations) (fragments : List (String × FragmentDefinition)) :
    List DocumentItem → Except ParseError Document
  | [] =>
    match operations? with
    | none => .error .missingOperation
    | some operations => .ok { operations, fragments }
  | .operation name? definition :: rest => do
    collect (some (← Operations.add operations? name? definition)) fragments rest
  | .fragment name definition :: rest => do
    collect operations? (← addFragment fragments name definition) rest

def ofItems (items : List DocumentItem) : Except ParseError Document := collect none [] items

def parse (text : String) : Except ParseError Document :=
  Reader.documentItems.readAll text >>= ofItems

end Document

end WebhookPayload.GraphQL
