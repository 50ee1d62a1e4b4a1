import WebhookPayload.GraphQL.Definition
import WebhookPayload.GraphQL.Reader.Document

/-! The reader of schema documents. -/

namespace WebhookPayload.GraphQL

namespace Reader

def description : Reader Unit := discard (optional string)

/-- Names with a separator between them, and perhaps one in front. -/
def namesSeparatedBy (separator : String) : Reader (List String) := do
  discard (optional (mark separator))
  let first ← name
  let others ← many (mark separator *> name)
  return first :: others

def argumentDefinition : Reader ArgumentDefinition := do
  description
  let name ← name
  mark ":"
  let type ← typeRef
  let default? ← optional defaultValue
  discard (optional constantDirectives)
  return { name, type, default? }

def argumentDefinitions : Reader (List ArgumentDefinition) := do
  mark "("
  let definitions ← many1 argumentDefinition
  mark ")"
  return definitions

def fieldDefinition : Reader FieldDefinition := do
  description
  let name ← name
  let arguments? ← optional argumentDefinitions
  mark ":"
  let type ← typeRef
  discard (optional constantDirectives)
  return { name, type, arguments := arguments?.getD [] }

/-- Definitions between braces, at least one. -/
def block {α : Type} (item : Reader α) : Reader (List α) := do
  mark "\x7b"
  let items ← many1 item
  mark "\x7d"
  return items

def implementedInterfaces : Reader (List String) := mark "implements" *> namesSeparatedBy "&"

def unionMembers : Reader (List String) := mark "=" *> namesSeparatedBy "|"

def enumValue : Reader String := do
  description
  let name ← enumName
  discard (optional constantDirectives)
  return name

/-! ## Types

The body of a definition may be missing, that of an extension only if there are
directives instead. -/

def bodyOf {α : Type} (body : Reader (List α)) : Reader (List α) := do
  discard (optional constantDirectives)
  return (← optional body).getD []

def extensionBodyOf {α : Type} (body : Reader (List α)) : Reader (List α) :=
  orElse (optional constantDirectives *> body) (constantDirectives *> pure [])

/-- A definition or an extension that is introduced by `keyword`. -/
def typeWith (keyword : String) (defined extended : Reader TypeKind) : Reader Definition := do
  let place ← position
  orElse
    (do
      description
      mark keyword
      let name ← name
      let kind ← defined
      return .type place { name, kind })
    (do
      mark "extend"
      mark keyword
      let name ← name
      let kind ← extended
      return .extension place { name, kind })

def scalarType : Reader Definition :=
  typeWith "scalar" (optional constantDirectives *> pure .scalar)
    (constantDirectives *> pure .scalar)

def objectType : Reader Definition :=
  let fields := block fieldDefinition
  typeWith "type"
    (do
      let implements? ← optional implementedInterfaces
      return .object (implements?.getD []) (← bodyOf fields))
    (orElse
      (do
        let implements? ← optional implementedInterfaces
        return .object (implements?.getD []) (← extensionBodyOf fields))
      (do return .object (← implementedInterfaces) []))

def interfaceType : Reader Definition :=
  let fields := block fieldDefinition
  typeWith "interface"
    (do
      let implements? ← optional implementedInterfaces
      return .interface (implements?.getD []) (← bodyOf fields))
    (do
      let implements? ← optional implementedInterfaces
      return .interface (implements?.getD []) (← extensionBodyOf fields))

def unionType : Reader Definition :=
  typeWith "union" (.union <$> bodyOf unionMembers) (.union <$> extensionBodyOf unionMembers)

def enumType : Reader Definition :=
  typeWith "enum" (.enum <$> bodyOf (block enumValue)) (.enum <$> extensionBodyOf (block enumValue))

def inputType : Reader Definition :=
  let fields := block argumentDefinition
  typeWith "input" (.input <$> bodyOf fields) (.input <$> extensionBodyOf fields)

/-! ## Roots -/

/-- A root of a schema definition, with its place. -/
structure Root where
  position : Position
  kind : OperationKind
  typeName : String

def root : Reader Root := do
  let place ← position
  let kind ← operationKind
  mark ":"
  let typeName ← name
  return { position := place, kind, typeName }

end Reader

namespace RootNames

def empty : RootNames := { query? := none, mutation? := none, subscription? := none }

def get? (names : RootNames) : OperationKind → Option String
  | .query => names.query?
  | .mutation => names.mutation?
  | .subscription => names.subscription?

def set (names : RootNames) (typeName : String) : OperationKind → RootNames
  | .query => { names with query? := typeName }
  | .mutation => { names with mutation? := typeName }
  | .subscription => { names with subscription? := typeName }

end RootNames

namespace Reader

/-- Takes over the roots in order; naming one again is a fault. -/
def collectRoots (schema : Position) (names : RootNames) : List Root → Reader RootNames
  | [] => return names
  | root :: rest => do
    if (names.get? root.kind).isSome then fault (.multipleRoots root.kind root.position schema)
    collectRoots schema (names.set root.typeName root.kind) rest

def schemaDefinition : Reader Definition := do
  let place ← position
  orElse
    (do
      mark "schema"
      discard (optional constantDirectives)
      let names ← collectRoots place .empty (← block root)
      if names.query?.isNone then fault (.missingQueryRoot place)
      return .roots names)
    (do
      mark "extend"
      mark "schema"
      let roots ← extensionBodyOf (block root)
      return .roots (← collectRoots place .empty roots))

/-! ## Directives -/

def directiveLocations : List String :=
  ["QUERY", "MUTATION", "SUBSCRIPTION", "FIELD_DEFINITION", "FIELD", "FRAGMENT_DEFINITION",
   "FRAGMENT_SPREAD", "INLINE_FRAGMENT", "VARIABLE_DEFINITION", "SCHEMA", "SCALAR", "OBJECT",
   "ARGUMENT_DEFINITION", "INTERFACE", "UNION", "ENUM_VALUE", "ENUM", "INPUT_OBJECT",
   "INPUT_FIELD_DEFINITION"]

def directiveLocation : Reader Unit := choice (directiveLocations.map mark)

def directiveDefinition : Reader Definition := do
  description
  mark "directive"
  mark "@"
  discard name
  discard (optional argumentDefinitions)
  discard (optional (mark "repeatable"))
  mark "on"
  discard (optional (mark "|"))
  directiveLocation
  discard (many (mark "|" *> directiveLocation))
  return .directive

def definitions : Reader (List Definition) := do
  ignored
  many1 (choice
    [schemaDefinition, scalarType, objectType, interfaceType, unionType, enumType, inputType,
     directiveDefinition])

end Reader

/-- The definitions of a schema document, in the order of writing. -/
def Definition.parseAll (text : String) : Except ParseError (List Definition) :=
  Reader.definitions.readAll text

end WebhookPayload.GraphQL
