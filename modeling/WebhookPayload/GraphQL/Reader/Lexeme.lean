import WebhookPayload.GraphQL.Reader

/-! The words of GraphQL: names, marks, numbers and strings. White space, commas
and comments may follow each of them. A keyword needs no end of word after it. -/

namespace WebhookPayload.GraphQL.Reader

def isLineEnd (c : Char) : Bool := c == '\n' || c == '\r'

def isIgnored (c : Char) : Bool :=
  c == ' ' || c == ',' || c == '\t' || c == '\uFEFF' || isLineEnd c

def comment : Reader Unit := do
  discard (satisfy (· == '#'))
  discard (many (satisfy fun c => !isLineEnd c))

def ignored : Reader Unit :=
  discard (many (orElse (discard (many1 (satisfy isIgnored))) comment))

def lexeme {α : Type} (r : Reader α) : Reader α := do
  let a ← r
  ignored
  return a

/-- A mark or a keyword. -/
def mark (text : String) : Reader Unit := lexeme (exactly text)

def isNameStart (c : Char) : Bool := c.isAlpha || c == '_'

def isNamePart (c : Char) : Bool := isNameStart c || c.isDigit

/-- A name with nothing after it. -/
def bareName : Reader String := do
  let first ← satisfy isNameStart
  let others ← many (satisfy isNamePart)
  return String.ofList (first :: others)

def name : Reader String := lexeme bareName

/-! ## Numbers -/

def digits : Reader (List Char) := many1 (satisfy Char.isDigit)

def wholeDigits : Reader (List Char) :=
  orElse (exactly "0" *> pure ['0']) do
    let first ← satisfy fun c => c.isDigit && c != '0'
    let others ← many (satisfy Char.isDigit)
    return first :: others

def fraction : Reader (List Char) := exactly "." *> digits

/-- Whether the exponent has a minus sign, and its digits. -/
def exponent : Reader (Bool × List Char) := do
  discard (satisfy fun c => c == 'e' || c == 'E')
  let sign ← optional (satisfy fun c => c == '+' || c == '-')
  let digits ← digits
  return (sign == some '-', digits)

def numberText : Reader NumberText := do
  let minus ← optional (exactly "-")
  let whole ← wholeDigits
  let fraction? ← optional fraction
  let exponent? ← optional exponent
  notAt (satisfy isNameStart)
  return { negative := minus.isSome, whole, fraction?, exponent? }

/-- A number that is too large is a fault of the text. -/
def number : Reader Number := lexeme do
  match Number.ofText? (← numberText) with
  | some n => return n
  | none =>
    fault .malformed
    return .integer 0

/-! ## Strings -/

def hexValue (c : Char) : Nat :=
  if c.isDigit then c.toNat - '0'.toNat
  else if 'a' ≤ c then c.toNat - 'a'.toNat + 10
  else c.toNat - 'A'.toNat + 10

def isHexDigit (c : Char) : Bool :=
  c.isDigit || ('a' ≤ c && c ≤ 'f') || ('A' ≤ c && c ≤ 'F')

/-- The code points from `D800` to `DFFF` belong to no character. -/
def surrogateStart : Reader Unit := do
  discard (satisfy fun c => c == 'd' || c == 'D')
  discard (satisfy fun c => isHexDigit c && 8 ≤ hexValue c)

def codePoint : Reader Char := do
  notAt surrogateStart
  let a ← satisfy isHexDigit
  let b ← satisfy isHexDigit
  let c ← satisfy isHexDigit
  let d ← satisfy isHexDigit
  return Char.ofNat (((hexValue a * 16 + hexValue b) * 16 + hexValue c) * 16 + hexValue d)

def escapes : List (Char × Char) :=
  [('"', '"'), ('\\', '\\'), ('/', '/'), ('b', '\x08'), ('f', '\x0c'), ('n', '\n'), ('r', '\r'),
   ('t', '\t')]

def escape : Reader Char := do
  discard (satisfy (· == '\\'))
  let c ← satisfy fun _ => true
  if c == 'u' then codePoint
  else
    match escapes.lookup c with
    | some decoded => return decoded
    | none => fail

def stringChar : Reader Char :=
  orElse (satisfy fun c => c != '"' && c != '\\' && !isLineEnd c) escape

def quotedString : Reader String := do
  exactly "\""
  let chars ← many stringChar
  exactly "\""
  return String.ofList chars

def blockQuote : Reader Unit := exactly "\"\"\""

def escapedBlockQuote : Reader Unit := exactly "\\\"\"\""

/-- A character of a block string, or an escaped block quote as it stands. -/
def blockPiece : Reader (List Char) :=
  orElse
    (do
      notAt (orElse blockQuote escapedBlockQuote)
      let c ← satisfy fun _ => true
      return [c])
    (escapedBlockQuote *> pure "\\\"\"\"".toList)

/-- The lines of a text; a carriage return and a line feed together end one line. -/
def linesOf : List Char → List (List Char)
  | [] => [[]]
  | '\r' :: '\n' :: rest => [] :: linesOf rest
  | c :: rest =>
    if isLineEnd c then [] :: linesOf rest
    else
      match linesOf rest with
      | [] => [[c]]
      | line :: lines => (c :: line) :: lines

def isIndent (c : Char) : Bool := c == '\t' || c == ' '

def isBlankLine (line : List Char) : Bool := line.all isIndent

/-- The least indent of the lines that are not blank. -/
def commonIndent (lines : List (List Char)) : Nat :=
  (((lines.filter (!isBlankLine ·)).map fun line => (line.takeWhile isIndent).length).min?).getD 0

def unindent (width : Nat) (line : List Char) : List Char :=
  if width ≤ line.length then line.drop width else line

/-- The text that a block string stands for: without the common indent of the
lines after the first, and without blank lines at both ends. -/
def blockText (raw : List Char) : List Char :=
  let lines :=
    match linesOf raw with
    | [] => []
    | first :: others => first :: others.map (unindent (commonIndent others))
  let content := ((lines.dropWhile isBlankLine).reverse.dropWhile isBlankLine).reverse
  ['\n'].intercalate content

def blockString : Reader String := do
  blockQuote
  let raw ← many blockPiece
  blockQuote
  return String.ofList (blockText raw.flatten)

def string : Reader String := lexeme (orElse blockString quotedString)

end WebhookPayload.GraphQL.Reader
