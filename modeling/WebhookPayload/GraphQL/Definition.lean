import WebhookPayload.GraphQL.Position
import WebhookPayload.GraphQL.TypeRef
import WebhookPayload.GraphQL.Value

/-! The definitions that a schema document consists of. Descriptions and
directives have no influence on payloads and are not kept. -/

namespace WebhookPayload.GraphQL

structure ArgumentDefinition where
  name : String
  type : TypeRef
  default? : Option Literal

structure FieldDefinition where
  name : String
  type : TypeRef
  arguments : List ArgumentDefinition

inductive TypeKind where
  | scalar
  | object (implements : List String) (fields : List FieldDefinition)
  | interface (implements : List String) (fields : List FieldDefinition)
  | union (members : List String)
  | enum (values : List String)
  | input (fields : List ArgumentDefinition)

structure TypeDefinition where
  name : String
  kind : TypeKind

/-- The root types that a schema definition names. -/
structure RootNames where
  query? : Option String
  mutation? : Option String
  subscription? : Option String
  deriving DecidableEq

inductive Definition where
  | roots (names : RootNames)
  | type (position : Position) (definition : TypeDefinition)
  | extension (position : Position) (definition : TypeDefinition)
  | directive

namespace TypeKind

/-- Types whose values have no fields to select. -/
def isLeaf : TypeKind → Bool
  | scalar | enum _ => true
  | _ => false

/-- Types whose values have fields to select. -/
def isComposite : TypeKind → Bool
  | object _ _ | interface _ _ | union _ => true
  | _ => false

def fields : TypeKind → List FieldDefinition
  | object _ fields | interface _ fields => fields
  | _ => []

def implements : TypeKind → List String
  | object names _ | interface names _ => names
  | _ => []

end TypeKind

namespace TypeDefinition

def field? (definition : TypeDefinition) (name : String) : Option FieldDefinition :=
  definition.kind.fields.find? (·.name = name)

def isLeaf (definition : TypeDefinition) : Bool := definition.kind.isLeaf

def isComposite (definition : TypeDefinition) : Bool := definition.kind.isComposite

end TypeDefinition

end WebhookPayload.GraphQL
