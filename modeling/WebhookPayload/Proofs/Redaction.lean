import WebhookPayload.Payload
import WebhookPayload.Proofs.TwoRuns

/-! # What the texts of internal errors can change

Two values are alike if they are equal but for the texts of internal errors in
them. This is a likeness (`Likeness.redacted`), so resolvers that differ in such texts
make responses that do so too. Alike errors have equal records, so these responses have
one payload. -/

namespace WebhookPayload

open GraphQL

/-! ## Errors and values -/

inductive FieldError.Alike : FieldError → FieldError → Prop
  | same (error : FieldError) : Alike error error
  | internal (text other : String) : Alike (.internal text) (.internal other)

inductive ErrorCause.Alike : ErrorCause → ErrorCause → Prop
  | same (cause : ErrorCause) : Alike cause cause
  | raised {error other : FieldError} (alike : error.Alike other) :
    Alike (.raised error) (.raised other)

/-- Both fail with alike errors, or their values are related. -/
inductive BothGive {α β : Type} (R : α → β → Prop) :
    Except FieldError α → Except FieldError β → Prop
  | error {error other : FieldError} (alike : error.Alike other) :
    BothGive R (.error error) (.error other)
  | ok {a : α} {b : β} (related : R a b) : BothGive R (.ok a) (.ok b)

/-- Whatever is pending fails alike or turns out alike, at any depth. -/
inductive FieldValue.Alike : FieldValue → FieldValue → Prop
  | json (value : Json) : Alike (.json value) (.json value)
  | typed (typeName : String) (value : Json) : Alike (.typed typeName value) (.typed typeName value)
  | list {items others : List FieldValue} (same : items.length = others.length)
    (alike : ∀ item other, (item, other) ∈ items.zip others → Alike item other) :
    Alike (.list items) (.list others)
  | deferred (tag? : Option String) {value other : FieldValue} (alike : Alike value other) :
    Alike (.deferred tag? value) (.deferred tag? other)
  | rejected (tag? : Option String) {error other : FieldError} (alike : error.Alike other) :
    Alike (.rejected tag? error) (.rejected tag? other)

abbrev Resolved.Alike : Resolved → Resolved → Prop := BothGive FieldValue.Alike

theorem FieldValue.Alike.settle {value other : FieldValue} (h : value.Alike other) :
    BothSettle ErrorCause.Alike
      (SettledValue.Related fun item other => Resolved.Alike (.ok item) (.ok other))
      value.settle other.settle := by
  induction h with
  | json value => exact .ok (.json value)
  | typed typeName value => exact .ok (.typed typeName value)
  | list same alike =>
    exact .ok (.list (List.forall₂_iff_zip.mpr ⟨same, fun h => .ok (alike _ _ h)⟩))
  | deferred _ _ ih => exact ih
  | rejected _ alike => exact .error (.raised alike)

/-- Causes and values may differ in the texts of internal errors. -/
def Likeness.redacted : Likeness where
  cause := ErrorCause.Alike
  resolved := Resolved.Alike
  same := .same
  json value := .ok (.json value)
  typed typeName value := .ok (.typed typeName value)
  settle _ _ alike := by
    cases alike with
    | error alike => exact .error (.raised alike)
    | ok alike => exact alike.settle

/-! ## Payloads -/

/-- Nothing of a text that may differ is left in a record. -/
theorem ExecutionError.Alike.record_eq {error other : ExecutionError}
    (h : error.Alike .redacted other) :
    error.record recognizedKinds = other.record recognizedKinds := by
  obtain ⟨cause, path, locations⟩ := error
  obtain ⟨found, _, _⟩ := other
  obtain ⟨alike, rfl, rfl⟩ := h
  cases alike with
  | same => rfl
  | raised alike => cases alike <;> rfl

theorem errorRecords_eq {errors others : List ExecutionError}
    (h : List.Forall₂ (ExecutionError.Alike .redacted) errors others) :
    errorRecords recognizedKinds errors = errorRecords recognizedKinds others := by
  induction h with
  | nil => rfl
  | cons alike _ ih =>
    simp only [errorRecords, List.map_cons, alike.record_eq] at ih ⊢
    rw [ih]

theorem Response.Alike.payload_eq {response other : Response}
    (h : response.Alike .redacted other) : response.payload = other.payload := by
  unfold Response.payload
  rw [h.data?, errorRecords_eq h.errors]

end WebhookPayload
