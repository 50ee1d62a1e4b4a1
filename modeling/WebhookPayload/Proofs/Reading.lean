import WebhookPayload.GraphQL.Reader

/-! # What readers take

`Reader.Ensures` says what holds of all that a reader takes, whatever the text. One rule
for each way to build a reader carries it from the parts to the whole; a reader that uses
itself may take it for granted there (`Reader.ensures_recursive`). -/

namespace WebhookPayload.GraphQL.Reader

variable {α β ι : Type} {P : α → Prop} {Q : β → Prop} {r : Reader α}

/-- Whatever the reader takes has a property. -/
def Ensures (r : Reader α) (P : α → Prop) : Prop :=
  ∀ cursor a after, r cursor = some (a, after) → P a

theorem Ensures.imp {P' : α → Prop} (h : r.Ensures P) (weaker : ∀ a, P a → P' a) : r.Ensures P' :=
  fun cursor a after taken => weaker a (h cursor a after taken)

theorem ensures_pure {a : α} (h : P a) : (pure a : Reader α).Ensures P := by
  intro cursor b after taken
  cases taken
  exact h

theorem ensures_fail : (fail : Reader α).Ensures P := by
  intro cursor a after taken
  cases taken

theorem Ensures.bind {next : α → Reader β} (first : r.Ensures P)
    (later : ∀ a, P a → (next a).Ensures Q) : (r >>= next).Ensures Q := by
  intro cursor b after taken
  simp only [Bind.bind] at taken
  split at taken
  · cases taken
  · rename_i a between start
    exact later a (first _ _ _ start) _ _ _ taken

/-- Nothing need be known of what is taken first. -/
theorem ensures_bind {next : α → Reader β} (later : ∀ a, (next a).Ensures Q) :
    (r >>= next).Ensures Q :=
  Ensures.bind (P := fun _ => True) (fun _ _ _ _ => trivial) fun a _ => later a

theorem Ensures.orElse {second : Reader α} (one : r.Ensures P) (other : second.Ensures P) :
    (Reader.orElse r second).Ensures P := by
  intro cursor a after taken
  rw [Reader.orElse] at taken
  split at taken
  · rename_i found start
    exact one _ _ _ (start.trans taken)
  · exact other _ _ _ taken

theorem ensures_choice {alternatives : List (Reader α)} (each : ∀ r ∈ alternatives, r.Ensures P) :
    (choice alternatives).Ensures P := by
  induction alternatives with
  | nil => exact ensures_fail
  | cons first others ih =>
    exact (each first List.mem_cons_self).orElse
      (ih fun r member => each r (List.mem_cons_of_mem _ member))

theorem Ensures.optional (h : r.Ensures P) :
    (Reader.optional r).Ensures fun a? => ∀ a, a? = some a → P a := by
  refine Ensures.orElse (h.bind fun a taken => ensures_pure ?_) (ensures_pure nofun)
  rintro b ⟨⟩
  exact taken

/-- Whatever is found on the way is kept, by induction on the text that remains. -/
theorem Ensures.manyFrom (h : r.Ensures P) {found : List α} (known : ∀ a ∈ found, P a)
    (cursor : Cursor) : ∀ a ∈ (Reader.manyFrom r found cursor).1, P a := by
  have all : ∀ a ∈ found.reverse, P a := fun a member => known a (List.mem_reverse.mp member)
  rw [Reader.manyFrom]
  split
  · exact all
  · rename_i a next taken
    split
    · exact h.manyFrom (List.forall_mem_cons.mpr ⟨h _ _ _ taken, known⟩) next
    · exact all
termination_by cursor.remaining

theorem Ensures.many (h : r.Ensures P) : (Reader.many r).Ensures fun items => ∀ a ∈ items, P a := by
  intro cursor items after taken
  have all : ∀ a ∈ (Reader.manyFrom r [] cursor).1, P a := h.manyFrom (by simp) cursor
  rw [Option.some.inj taken] at all
  exact all

theorem Ensures.many1 (h : r.Ensures P) :
    (Reader.many1 r).Ensures fun items => items ≠ [] ∧ ∀ a ∈ items, P a :=
  h.bind fun _ first => h.many.bind fun _ others =>
    ensures_pure ⟨List.cons_ne_nil _ _, List.forall_mem_cons.mpr ⟨first, others⟩⟩

section Recursive

variable {body : (ι → Reader α) → ι → Reader α}
  (step : ∀ self : ι → Reader α, (∀ i, (self i).Ensures P) → ∀ i, (body self i).Ensures P)

include step

/-- By induction on the text that remains: where the reader uses itself, less remains. -/
theorem of_recursive {i : ι} {cursor after : Cursor} {a : α}
    (taken : recursive body i cursor = some (a, after)) : P a := by
  rw [recursive] at taken
  refine step _ (fun j inner b later used => ?_) i cursor a after taken
  split at used
  · exact of_recursive used
  · cases used
termination_by cursor.remaining

theorem ensures_recursive (i : ι) : Ensures (recursive body i) P :=
  fun _ _ _ taken => of_recursive step taken

end Recursive

theorem Ensures.readAll (h : r.Ensures P) {text : String} {a : α}
    (read : Reader.readAll r text = .ok a) : P a := by
  have whole : (do let a ← r; atEnd; return a : Reader α).Ensures P :=
    h.bind fun _ taken => ensures_bind fun _ => ensures_pure taken
  unfold Reader.readAll at read
  split at read
  · cases read
  · rename_i b cursor taken
    split at read
    · cases read
    · cases read
      exact whole _ _ _ taken

end WebhookPayload.GraphQL.Reader
