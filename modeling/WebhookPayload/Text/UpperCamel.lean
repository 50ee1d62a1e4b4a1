import WebhookPayload.Text.Pieces
import WebhookPayload.Text.Alphanumeric
import WebhookPayload.Text.LetterCase
import WebhookPayload.Text.CaseMapping

/-! Upper camel case: `ORDER_CREATED` becomes `OrderCreated`. Words end at every
character that is neither letter nor number, and inside a run of letters and
numbers where the case shows a new word: between a lower and an upper case
letter (`orderCreated`), and before the last of several upper case letters that
a lower case letter follows (`XMLFile`). -/

namespace WebhookPayload.Text

/-- The case of the letters read last, as far as it is known. -/
inductive CaseMode where
  | boundary
  | lowercase
  | uppercase
  deriving DecidableEq

def CaseMode.after (mode : CaseMode) (c : Char) : CaseMode :=
  if isLowercase c then .lowercase else if isUppercase c then .uppercase else mode

/-- Splits a run of letters and numbers; `word` holds the characters of the
current word, last first. -/
def splitWords (mode : CaseMode) (word : List Char) : List Char → List (List Char)
  | [] => []
  | [c] => [(c :: word).reverse]
  | c :: next :: rest =>
    if mode.after c = .lowercase ∧ isUppercase next then
      (c :: word).reverse :: splitWords .boundary [] (next :: rest)
    else if mode = .uppercase ∧ isUppercase c ∧ isLowercase next then
      word.reverse :: splitWords .boundary [c] (next :: rest)
    else
      splitWords (mode.after c) (c :: word) (next :: rest)

/-- Lower case, with the form of sigma that ends a word at the end. -/
def lowercaseWord : List Char → List Char
  | [] => []
  | ['Σ'] => ['ς']
  | c :: rest => lowercase c ++ lowercaseWord rest

def capitalized : List Char → List Char
  | [] => []
  | c :: rest => uppercase c ++ lowercaseWord rest

def words (text : String) : List (List Char) :=
  (pieces (fun c => !isAlphanumeric c) text.toList).flatMap (splitWords .boundary [])

def upperCamel (text : String) : String :=
  String.ofList ((words text).flatMap capitalized)

end WebhookPayload.Text
