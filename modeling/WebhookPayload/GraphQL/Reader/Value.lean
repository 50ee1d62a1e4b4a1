import WebhookPayload.GraphQL.Reader.Lexeme

/-! Readers of values, arguments, directives and type references. -/

namespace WebhookPayload.GraphQL.Reader

variable {ν : Type}

def boolean : Reader Bool := orElse (mark "true" *> pure true) (mark "false" *> pure false)

/-- An enum value is a name that does not begin like one of the three constants. -/
def enumName : Reader String := do
  notAt (orElse (discard boolean) (mark "null"))
  name

def listOf (item : Reader (Value ν)) : Reader (Value ν) := do
  mark "["
  let items ← many item
  mark "]"
  return .list items

def objectOf (item : Reader (Value ν)) : Reader (Value ν) := do
  mark "\x7b"
  let members ← many do
    let key ← name
    mark ":"
    let value ← item
    return (key, value)
  mark "\x7d"
  return .ofMembers members

/-- A value in which the given reader recognizes the variables. -/
def valueWith (variableValue : Reader (Value ν)) : Reader (Value ν) :=
  recursive (ι := Unit) (fun self _ =>
    choice
      [variableValue,
       .number <$> number,
       .string <$> string,
       .boolean <$> boolean,
       mark "null" *> pure .null,
       .enum <$> enumName,
       listOf (self ()),
       objectOf (self ())]) ()

def literal : Reader Literal := valueWith fail

def variableName : Reader String := mark "$" *> name

def value : Reader (Value String) := valueWith (.var <$> variableName)

def argumentOf (item : Reader (Value ν)) : Reader (String × Value ν × Position) := do
  let key ← name
  mark ":"
  let place ← position
  let value ← item
  return (key, value, place)

def argumentsOf (item : Reader (Value ν)) : Reader (List (String × Value ν × Position)) := do
  mark "("
  let arguments ← many1 (argumentOf item)
  mark ")"
  return arguments

def arguments : Reader (List Argument) :=
  (·.map fun (name, value, position) => { name, value, position }) <$> argumentsOf value

/-- Directives with arguments that are read by `item`; nothing of them is kept. -/
def directivesOf (item : Reader (Value ν)) : Reader Unit :=
  discard (many1 do
    mark "@"
    discard name
    optional (argumentsOf item))

def directives : Reader Unit := directivesOf value

def constantDirectives : Reader Unit := directivesOf literal

def typeRef : Reader TypeRef :=
  lexeme (recursive (ι := Unit) (fun self _ => do
    let base ← orElse (TypeRef.named <$> bareName) (do
      exactly "["
      let item ← self ()
      exactly "]"
      return TypeRef.list item)
    let bang ← optional (exactly "!")
    return base bang.isNone) ())

def defaultValue : Reader Literal := mark "=" *> literal

end WebhookPayload.GraphQL.Reader
