import WebhookPayload.GraphQL.Document

/-! Subscriptions that were found valid: one field of the subscription root with
the tree of fields selected below it. Fragments are gone; what remains of them
are the type conditions under which a field applies. -/

namespace WebhookPayload

open GraphQL

structure SelectedField where
  alias? : Option String
  name : String
  /-- The arguments by name, in the order of the field's definition, defaults included. -/
  arguments : List (String × Literal)
  /-- The types that an object must be of for the field to apply, outermost condition first. -/
  conditions : List String
  position : Position
  /-- Empty if the field's values have no fields. -/
  subfields : List SelectedField

structure Subscription where
  name? : Option String
  field : SelectedField

/-- The field that every composite type has without declaring it. -/
def typenameField : String := "__typename"

namespace SelectedField

/-- The key of the field's value in a response. -/
def outputName (field : SelectedField) : String := field.alias?.getD field.name

def argument? (field : SelectedField) (name : String) : Option Literal :=
  field.arguments.lookup name

def isIntrospection (field : SelectedField) : Bool := "__".isPrefixOf field.name

mutual

/-- How many fields are nested at most, this one included. -/
def height : SelectedField → Nat
  | ⟨_, _, _, _, _, subfields⟩ => heights subfields + 1

def heights : List SelectedField → Nat
  | [] => 0
  | field :: rest => max field.height (heights rest)

end

theorem height_eq (field : SelectedField) : field.height = heights field.subfields + 1 := by
  cases field
  rfl

theorem heights_append (left right : List SelectedField) :
    heights (left ++ right) = max (heights left) (heights right) := by
  induction left with
  | nil => simp [heights]
  | cons field rest ih => simp [heights, ih, Nat.max_assoc]

theorem height_le_heights {field : SelectedField} {fields : List SelectedField}
    (h : field ∈ fields) : field.height ≤ heights fields := by
  induction fields with
  | nil => simp at h
  | cons first rest ih =>
    rcases List.mem_cons.mp h with rfl | h
    · exact Nat.le_max_left _ _
    · exact Nat.le_trans (ih h) (Nat.le_max_right _ _)

theorem heights_le_of_forall {fields : List SelectedField} {bound : Nat}
    (h : ∀ field ∈ fields, field.height ≤ bound) : heights fields ≤ bound := by
  induction fields with
  | nil => exact Nat.zero_le _
  | cons first rest ih =>
    exact Nat.max_le.mpr ⟨h first (by simp), ih fun field hf => h field (by simp [hf])⟩

end SelectedField

end WebhookPayload
