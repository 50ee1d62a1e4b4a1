import WebhookPayload.Text.Span

/-! White space in the sense of the Unicode property `White_Space`, and the
removal of it from both ends of a text. -/

namespace WebhookPayload.Text

def whitespaceSpans : List Span :=
  [⟨0x9, 0xd, 1⟩, ⟨0x20, 0x20, 1⟩, ⟨0x85, 0x85, 1⟩, ⟨0xa0, 0xa0, 1⟩, ⟨0x1680, 0x1680, 1⟩,
   ⟨0x2000, 0x200a, 1⟩, ⟨0x2028, 0x2029, 1⟩, ⟨0x202f, 0x202f, 1⟩, ⟨0x205f, 0x205f, 1⟩,
   ⟨0x3000, 0x3000, 1⟩]

def isWhitespace (c : Char) : Bool := inSpans whitespaceSpans c

def trimStart (cs : List Char) : List Char := cs.dropWhile isWhitespace

def trimEnd (cs : List Char) : List Char := (trimStart cs.reverse).reverse

/-- The characters between the first and the last that are no white space. -/
def trim (cs : List Char) : List Char := trimEnd (trimStart cs)

end WebhookPayload.Text
