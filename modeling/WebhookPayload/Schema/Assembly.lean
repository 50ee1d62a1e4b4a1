import WebhookPayload.Schema
import WebhookPayload.GraphQL.Reader.Definition

/-! Schemas made from the definitions of a schema document. Types, extensions
and root names may stand in any order: all types are taken up first, then the
extensions are applied to them, and at last the roots are looked up. -/

namespace WebhookPayload

open GraphQL

inductive SchemaError where
  | unparsable (cause : ParseError)
  | duplicateType (name : String) (position : Position)
  /-- The extension is of no type, of another kind of type, or of a kind that cannot be extended. -/
  | invalidExtension (name : String) (position : Position)
  | missingRootType (name : String)
  deriving DecidableEq

namespace SchemaError

def message : SchemaError → String
  | unparsable .malformed => ParseError.malformed.message
  | unparsable cause => "Could not parse schema: " ++ cause.message
  | duplicateType name _ => "Type '" ++ name ++ "' is defined more than once"
  | invalidExtension name _ =>
    "Type extension '" ++ name ++ "' does not match an object or interface definition"
  | missingRootType name => "Root type '" ++ name ++ "' is not defined"

def positions : SchemaError → List Position
  | unparsable cause => cause.positions
  | duplicateType _ position => [position]
  | invalidExtension _ position => [position]
  | missingRootType _ => []

end SchemaError

/-- A type definition or an extension, with its place in the text. -/
structure Placed where
  position : Position
  definition : TypeDefinition

def Placed.name (placed : Placed) : String := placed.definition.name

/-- What an extension makes of a type. Only objects and interfaces can be
extended; an interface gains the fields of its extension alone. -/
def GraphQL.TypeKind.extend? : TypeKind → TypeKind → Option TypeKind
  | .object implements fields, .object moreImplements moreFields =>
    some (.object (implements ++ moreImplements) (fields ++ moreFields))
  | .interface implements fields, .interface _ moreFields =>
    some (.interface implements (fields ++ moreFields))
  | _, _ => none

namespace Schema

def defines (types : List TypeDefinition) (name : String) : Bool := types.any (·.name = name)

/-- What is taken up of definitions: types, whose names differ, and what has to wait for
all types, the extensions and the names of the roots. -/
structure Collected where
  types : List TypeDefinition := []
  extensions : List Placed := []
  query? : Option String := none
  subscription? : Option String := none

/-- Takes up definitions one after another. A later name of a root replaces an earlier one. -/
def collect (collected : Collected) : List Definition → Except SchemaError Collected
  | [] => .ok collected
  | .roots names :: rest =>
    collect { collected with
      query? := names.query?.or collected.query?
      subscription? := names.subscription?.or collected.subscription? } rest
  | .extension position definition :: rest =>
    collect { collected with
      extensions := collected.extensions ++ [{ position, definition }] } rest
  | .type position definition :: rest =>
    if defines collected.types definition.name then
      .error (.duplicateType definition.name position)
    else collect { collected with types := collected.types ++ [definition] } rest
  | .directive :: rest => collect collected rest

def extendType (extension : Placed) :
    List TypeDefinition → Except SchemaError (List TypeDefinition)
  | [] => .error (.invalidExtension extension.name extension.position)
  | type :: rest =>
    if type.name = extension.name then
      match type.kind.extend? extension.definition.kind with
      | some kind => .ok ({ type with kind } :: rest)
      | none => .error (.invalidExtension extension.name extension.position)
    else (type :: ·) <$> extendType extension rest

def extendTypes (types : List TypeDefinition) :
    List Placed → Except SchemaError (List TypeDefinition)
  | [] => .ok types
  | extension :: rest => do extendTypes (← extendType extension types) rest

/-- The scalars that every schema has, unless it defines a type of that name itself. -/
def missingScalars (types : List TypeDefinition) : List TypeDefinition :=
  (builtinScalars.filter (!defines types ·)).map fun name => { name, kind := .scalar }

/-- A root that is named must be defined. -/
def checkRoot (types : List TypeDefinition) : Option String → Except SchemaError Unit
  | none => .ok ()
  | some name => if defines types name then .ok () else .error (.missingRootType name)

def assemble (definitions : List Definition) : Except SchemaError Schema := do
  let collected ← collect {} definitions
  let extended ← extendTypes collected.types collected.extensions
  let types := extended ++ missingScalars extended
  checkRoot types collected.query?
  checkRoot types collected.subscription?
  return {
    types
    queryRoot := collected.query?.getD defaultQueryRoot
    subscriptionRoot? := collected.subscription?.or
      (if defines types defaultSubscriptionRoot then some defaultSubscriptionRoot else none) }

def parse (text : String) : Except SchemaError Schema :=
  match Definition.parseAll text with
  | .error cause => .error (.unparsable cause)
  | .ok definitions => assemble definitions

theorem extend?_fields {kind extension result : TypeKind} (h : kind.extend? extension = some result) :
    result.fields = kind.fields ++ extension.fields := by
  unfold TypeKind.extend? at h
  split at h <;> simp only [Option.some.injEq, reduceCtorEq] at h <;> subst h <;> rfl

end Schema

end WebhookPayload
