/-! Sets of characters written as spans of code points. A span may take every
code point between its ends or, with a stride of two, every other one, which is
how the alternating upper and lower case letters of many scripts are laid out. -/

namespace WebhookPayload.Text

/-- The code points `first`, `first + stride`, … that do not exceed `last`. -/
structure Span where
  first : Nat
  last : Nat
  stride : Nat
  deriving DecidableEq

def Span.contains (span : Span) (code : Nat) : Bool :=
  span.first ≤ code && code ≤ span.last && (code - span.first) % span.stride == 0

/-- Whether the code point of `c` lies in one of the spans. -/
def inSpans (spans : List Span) (c : Char) : Bool :=
  spans.any (·.contains c.toNat)

theorem Span.contains_iff (span : Span) (code : Nat) :
    span.contains code = true ↔
      span.first ≤ code ∧ code ≤ span.last ∧ (code - span.first) % span.stride = 0 := by
  simp [Span.contains, and_assoc]

end WebhookPayload.Text
