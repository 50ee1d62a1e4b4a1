/-! A text cut at its separators. There is always one piece more than there are
separators; pieces between adjacent separators are empty. -/

namespace WebhookPayload.Text

/-- Puts `c` in front of the first piece. -/
def consPiece (c : Char) : List (List Char) → List (List Char)
  | [] => [[c]]
  | piece :: rest => (c :: piece) :: rest

def pieces (isSeparator : Char → Bool) : List Char → List (List Char)
  | [] => [[]]
  | c :: cs =>
    if isSeparator c then [] :: pieces isSeparator cs
    else consPiece c (pieces isSeparator cs)

variable {isSeparator : Char → Bool}

theorem pieces_ne_nil (cs : List Char) : pieces isSeparator cs ≠ [] := by
  induction cs with
  | nil => simp [pieces]
  | cons c cs ih =>
    unfold pieces
    split
    · simp
    · cases h : pieces isSeparator cs with
      | nil => exact absurd h ih
      | cons piece rest => simp [consPiece]

theorem not_isSeparator_of_mem_pieces {cs piece : List Char} {c : Char}
    (hp : piece ∈ pieces isSeparator cs) (hc : c ∈ piece) : isSeparator c = false := by
  induction cs generalizing piece with
  | nil => simp_all [pieces]
  | cons d cs ih =>
    by_cases hd : isSeparator d
    · simp only [pieces, hd, if_true, List.mem_cons] at hp
      rcases hp with rfl | hp
      · simp at hc
      · exact ih hp hc
    · cases h : pieces isSeparator cs with
      | nil => exact absurd h (pieces_ne_nil cs)
      | cons first rest =>
        rw [pieces, if_neg hd, h, consPiece] at hp
        rcases List.mem_cons.mp hp with rfl | hp
        · rcases List.mem_cons.mp hc with rfl | hc
          · simpa using hd
          · exact ih (by simp [h]) hc
        · exact ih (by simp [h, hp]) hc

end WebhookPayload.Text
