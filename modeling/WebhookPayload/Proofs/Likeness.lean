import Mathlib.Data.List.Forall2
import WebhookPayload.Proofs.Completion

/-! # What resolvers give, up to a likeness

A `Likeness` says which causes of errors are alike and which resolved values are. Whatever
it is, alike values are taken for alike shapes (`shape_alike`): completion looks at a value
only after it has waited for it. -/

namespace WebhookPayload

open GraphQL

/-- Both fail, for alike causes, or their values are related. -/
inductive BothSettle {α β : Type} (cause : ErrorCause → ErrorCause → Prop) (R : α → β → Prop) :
    Except FieldError α → Except FieldError β → Prop
  | error {error other : FieldError} (alike : cause (.raised error) (.raised other)) :
    BothSettle cause R (.error error) (.error other)
  | ok {a : α} {b : β} (related : R a b) : BothSettle cause R (.ok a) (.ok b)

/-- Values that are no longer pending, with related items if they are lists. -/
inductive SettledValue.Related (item : FieldValue → FieldValue → Prop) :
    SettledValue → SettledValue → Prop
  | json (value : Json) : Related item (.json value) (.json value)
  | typed (typeName : String) (value : Json) :
    Related item (.typed typeName value) (.typed typeName value)
  | list {items others : List FieldValue} (related : List.Forall₂ item items others) :
    Related item (.list items) (.list others)

/-- A way in which causes of errors and resolved values may differ, so that waiting for alike
values comes to the same kind of thing. -/
structure Likeness where
  cause : ErrorCause → ErrorCause → Prop
  resolved : Resolved → Resolved → Prop
  same : ∀ found, cause found found
  json : ∀ value, resolved (.ok (.json value)) (.ok (.json value))
  typed : ∀ typeName value, resolved (.ok (.typed typeName value)) (.ok (.typed typeName value))
  settle : ∀ first other, resolved first other →
    BothSettle cause (SettledValue.Related fun item other => resolved (.ok item) (.ok other))
      first.settle other.settle

namespace Likeness

def item (likeness : Likeness) (value other : FieldValue) : Prop :=
  likeness.resolved (.ok value) (.ok other)

end Likeness

namespace SettledValue.Related

variable {item : FieldValue → FieldValue → Prop} {value other : SettledValue}

theorem same (items : ∀ value, item value value) (value : SettledValue) :
    value.Related item value := by
  cases value with
  | json value => exact .json value
  | typed typeName value => exact .typed typeName value
  | list values => exact .list (List.forall₂_same.mpr fun value _ => items value)

theorem isNull_eq (h : value.Related item other) : value.isNull = other.isNull := by
  cases h <;> rfl

theorem data?_eq (h : value.Related item other) : value.data? = other.data? := by
  cases h <;> rfl

theorem typeName?_eq (h : value.Related item other) : value.typeName? = other.typeName? := by
  cases h <;> rfl

/-- A plain array has the same items in both; those of a list are related. -/
theorem items? (plain : ∀ json, item (.json json) (.json json)) (h : value.Related item other) :
    Option.Rel (List.Forall₂ item) value.items? other.items? := by
  cases h with
  | json value =>
    cases value with
    | array items =>
      refine .some (List.forall₂_same.mpr fun value found => ?_)
      obtain ⟨json, -, rfl⟩ := List.mem_map.mp found
      exact plain json
    | _ => exact .none
  | typed => exact .none
  | list related => exact .some related

end SettledValue.Related

/-! ## Shapes -/

inductive Shape.Alike (likeness : Likeness) : Shape → Shape → Prop
  | failure {cause other : ErrorCause} (alike : likeness.cause cause other) :
    Alike likeness (.failure cause) (.failure other)
  | leaf (data : Json) : Alike likeness (.leaf data) (.leaf data)
  | list (itemType : TypeRef) {items others : List FieldValue}
    (alike : List.Forall₂ likeness.item items others) :
    Alike likeness (.list itemType items) (.list itemType others)
  | object (type : TypeDefinition) (value : Json) :
    Alike likeness (.object type value) (.object type value)

namespace Schema

variable {likeness : Likeness} (schema : Schema) (fieldName : String)

/-- Where a named type is expected, a value is looked at only for its data and its type name. -/
theorem namedShape_alike (typeName : String) {value other : SettledValue}
    (h : value.Related likeness.item other) :
    (schema.namedShape fieldName typeName value).Alike likeness
      (schema.namedShape fieldName typeName other) := by
  unfold namedShape Completion.objectType?
  rw [h.data?_eq, h.typeName?_eq]
  split
  · exact .failure (likeness.same _)
  · split
    · exact .leaf _
    · exact .leaf _
    · exact .object _ _
    · split
      · exact .object _ _
      · exact .failure (likeness.same _)
    · split
      · exact .object _ _
      · exact .failure (likeness.same _)
    · exact .failure (likeness.same _)

theorem settledShape_alike (type : TypeRef) {value other : SettledValue}
    (h : value.Related likeness.item other) :
    (schema.settledShape fieldName type value).Alike likeness
      (schema.settledShape fieldName type other) := by
  unfold settledShape
  rw [h.isNull_eq]
  split
  · exact .leaf .null
  · cases type with
    | named typeName _ => exact schema.namedShape_alike fieldName typeName h
    | list itemType _ =>
      have listed := h.items? likeness.json
      generalize value.items? = items?, other.items? = others? at listed ⊢
      cases listed with
      | none => exact .failure (likeness.same _)
      | some alike => exact .list itemType alike

/-- Alike values are taken for alike shapes. -/
theorem shape_alike (type : TypeRef) {resolved other : Resolved}
    (h : likeness.resolved resolved other) :
    (schema.shape fieldName type resolved).Alike likeness
      (schema.shape fieldName type other) := by
  have settled := likeness.settle resolved other h
  unfold shape
  generalize resolved.settle = result, other.settle = result' at settled ⊢
  cases settled with
  | error alike => exact .failure alike
  | ok alike => exact schema.settledShape_alike fieldName type alike

end Schema

end WebhookPayload
