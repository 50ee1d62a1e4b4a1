import WebhookPayload.GraphQL.ParseError

/-! Readers of GraphQL text. A reader takes what it recognizes from the front of
the text or fails; a choice takes the first alternative that succeeds and never
comes back to it. Repetition and recursion end because they go on only after
some text was taken.

A text that fits the grammar can still be faulty (a number that is too large).
Readers note such faults as they pass them, in the order of the text; a fault
counts only if the whole text fits the grammar. -/

namespace WebhookPayload.GraphQL

/-- A place in a text, the characters from there on and how many they are, and
the faults noted so far, the latest first. -/
structure Cursor where
  position : Position
  rest : List Char
  remaining : Nat
  faults : List ParseError

namespace Cursor

def ofText (text : String) : Cursor :=
  let chars := text.toList
  { position := .start, rest := chars, remaining := chars.length, faults := [] }

def next? (cursor : Cursor) : Option (Char × Cursor) :=
  match cursor.rest with
  | [] => none
  | c :: rest =>
    some (c, { cursor with
      position := cursor.position.next c
      rest
      remaining := cursor.remaining - 1 })

end Cursor

def Reader (α : Type) := Cursor → Option (α × Cursor)

namespace Reader

variable {α β ι : Type}

instance : Monad Reader where
  pure a := fun cursor => some (a, cursor)
  bind r f := fun cursor =>
    match r cursor with
    | none => none
    | some (a, cursor) => f a cursor

def fail : Reader α := fun _ => none

/-- The first alternative if it succeeds, otherwise the second. -/
def orElse (first second : Reader α) : Reader α := fun cursor =>
  match first cursor with
  | some found => some found
  | none => second cursor

def choice : List (Reader α) → Reader α
  | [] => fail
  | first :: others => first.orElse (choice others)

def optional (r : Reader α) : Reader (Option α) := orElse (some <$> r) (pure none)

/-- Succeeds, without taking anything, where `r` fails. -/
def notAt (r : Reader α) : Reader Unit := fun cursor =>
  match r cursor with
  | some _ => none
  | none => some ((), cursor)

def position : Reader Position := fun cursor => some (cursor.position, cursor)

def fault (error : ParseError) : Reader Unit := fun cursor =>
  some ((), { cursor with faults := error :: cursor.faults })

def satisfy (p : Char → Bool) : Reader Char := fun cursor =>
  match cursor.next? with
  | some (c, cursor) => if p c then some (c, cursor) else none
  | none => none

def exactly (text : String) : Reader Unit := text.toList.forM fun c => discard (satisfy (· == c))

/-- Reads as often as possible; `found` holds what was read before, last first. -/
def manyFrom (r : Reader α) (found : List α) (cursor : Cursor) : List α × Cursor :=
  match r cursor with
  | none => (found.reverse, cursor)
  | some (a, next) =>
    if next.remaining < cursor.remaining then manyFrom r (a :: found) next
    else (found.reverse, cursor)
termination_by cursor.remaining

def many (r : Reader α) : Reader (List α) := fun cursor => some (manyFrom r [] cursor)

def many1 (r : Reader α) : Reader (List α) := do
  let first ← r
  let others ← many r
  return first :: others

/-- A reader that uses itself on what remains after it has taken something. -/
def recursive (body : (ι → Reader α) → ι → Reader α) (i : ι) (cursor : Cursor) :
    Option (α × Cursor) :=
  body (fun j inner =>
    if inner.remaining < cursor.remaining then recursive body j inner else none) i cursor
termination_by cursor.remaining

def atEnd : Reader Unit := notAt (satisfy fun _ => true)

/-- What `r` reads from the whole of a text, or the first fault in it. -/
def readAll (r : Reader α) (text : String) : Except ParseError α :=
  match (do let a ← r; atEnd; return a : Reader α) (Cursor.ofText text) with
  | none => .error .malformed
  | some (a, cursor) =>
    match cursor.faults.getLast? with
    | some error => .error error
    | none => .ok a

end Reader

end WebhookPayload.GraphQL
