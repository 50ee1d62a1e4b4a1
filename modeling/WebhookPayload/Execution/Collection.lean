import WebhookPayload.Schema
import WebhookPayload.Subscription

/-! The fields that are answered on an object: those whose conditions its type
meets, with all fields of one output name merged into the first of them. -/

namespace WebhookPayload

namespace SelectedField

/-- Whether the field applies to objects of the given type. -/
def applies (schema : Schema) (typeName : String) (field : SelectedField) : Bool :=
  field.conditions.all (schema.isPossible · typeName)

/-- Adds what `other` selects below it. -/
def absorb (field other : SelectedField) : SelectedField :=
  { field with subfields := field.subfields ++ other.subfields }

end SelectedField

/-- Adds a field to those collected, as a field of its own or to the one with its output name. -/
def addField (field : SelectedField) : List SelectedField → List SelectedField
  | [] => [field]
  | first :: rest =>
    if first.outputName = field.outputName then first.absorb field :: rest
    else first :: addField field rest

def collectFields (schema : Schema) (typeName : String) (fields : List SelectedField) :
    List SelectedField :=
  (fields.filter (·.applies schema typeName)).foldl (fun known field => addField field known) []

namespace SelectedField

theorem height_absorb (field other : SelectedField) :
    (field.absorb other).height = max field.height other.height := by
  rw [height_eq, height_eq field, height_eq other]
  simp only [absorb, heights_append]
  omega

theorem heights_addField (field : SelectedField) (known : List SelectedField) :
    heights (addField field known) = max (heights known) field.height := by
  induction known with
  | nil => simp [addField, heights]
  | cons first rest ih =>
    unfold addField
    split
    · simp only [heights, height_absorb]
      omega
    · simp only [heights, ih]
      omega

theorem heights_foldl_addField (fields known : List SelectedField) :
    heights (fields.foldl (fun known field => addField field known) known) =
      max (heights known) (heights fields) := by
  induction fields generalizing known with
  | nil => simp [heights]
  | cons field rest ih =>
    simp only [List.foldl_cons, ih, heights_addField, heights]
    omega

theorem heights_collectFields_le (schema : Schema) (typeName : String)
    (fields : List SelectedField) :
    heights (collectFields schema typeName fields) ≤ heights fields := by
  rw [collectFields, heights_foldl_addField]
  refine Nat.max_le.mpr ⟨Nat.zero_le _, heights_le_of_forall fun field h => ?_⟩
  exact height_le_heights (List.mem_filter.mp h).1

/-- What is selected below a collected field is less deep than the fields it was
collected from. -/
theorem heights_subfields_lt {schema : Schema} {typeName : String} {fields : List SelectedField}
    {field : SelectedField} (h : field ∈ collectFields schema typeName fields) :
    heights field.subfields < heights fields := by
  have member := height_le_heights h
  have all := heights_collectFields_le schema typeName fields
  have own := height_eq field
  omega

end SelectedField

end WebhookPayload
