/-! Places in a GraphQL text. -/

namespace WebhookPayload.GraphQL

/-- A line and a column, both counted from one. The default is no place in a text. -/
structure Position where
  line : Nat
  column : Nat
  deriving DecidableEq, Inhabited

def Position.start : Position := ⟨1, 1⟩

/-- The place after `c`. A line feed begins a new line; a carriage return only
goes back to the first column. -/
def Position.next (position : Position) (c : Char) : Position :=
  if c = '\n' then ⟨position.line + 1, 1⟩
  else if c = '\r' then ⟨position.line, 1⟩
  else ⟨position.line, position.column + 1⟩

end WebhookPayload.GraphQL
