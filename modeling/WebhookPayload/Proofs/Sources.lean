import WebhookPayload.Proofs.Positions

/-! # Where errors come from

Every error of a run is recorded at one position: by the field that is completed
there, at its path, and for one of the reasons that `Engine.Raises` lists. -/

namespace WebhookPayload

open GraphQL

namespace Schema

/-- What can be wrong with a resolved value where a type is expected. -/
inductive Fails (schema : Schema) : TypeRef → ErrorCause → Prop
  | raised {type} (error : FieldError) : Fails schema type (.raised error)
  | listExpected {itemType nullable} (fieldName : String) :
      Fails schema (.list itemType nullable) (.listExpected fieldName)
  | unknownType {typeName nullable} (fieldName : String)
      (missing : schema.type? typeName = none) :
      Fails schema (.named typeName nullable) (.unknownType fieldName)
  | unsuitableValue {typeName nullable} (fieldName : String) :
      Fails schema (.named typeName nullable) (.unsuitableValue fieldName)
  | unknownObjectType {typeName nullable} (fieldName : String) :
      Fails schema (.named typeName nullable) (.unknownObjectType fieldName typeName)

variable {schema : Schema} {fieldName typeName : String} {type : TypeRef} {resolved : Resolved}
  {value : SettledValue} {cause : ErrorCause}

theorem fails_of_namedShape {nullable : Bool}
    (h : schema.namedShape fieldName typeName value = .failure cause) :
    schema.Fails (.named typeName nullable) cause := by
  unfold namedShape at h
  cases found : schema.type? typeName with
  | none =>
    rw [found] at h
    cases h
    exact .unknownType fieldName found
  | some definition =>
    rw [found] at h
    dsimp only at h
    split at h
    · cases h
    · cases h
    · cases h
    · split at h
      · cases h
      · cases h
        exact .unknownObjectType fieldName
    · split at h
      · cases h
      · cases h
        exact .unknownObjectType fieldName
    · cases h
      exact .unsuitableValue fieldName

theorem fails_of_shape (h : schema.shape fieldName type resolved = .failure cause) :
    schema.Fails type cause := by
  unfold shape at h
  split at h
  · cases h
    exact .raised _
  · unfold settledShape at h
    split at h
    · cases h
    · split at h
      · exact fails_of_namedShape h
      · split at h
        · cases h
          exact .listExpected fieldName
        · cases h

/-- A type is unknown only if it is not defined. -/
theorem Fails.not_unknownType {definition : TypeDefinition}
    (defined : schema.type? type.underlying = some definition) (h : schema.Fails type cause) :
    cause ≠ .unknownType fieldName := by
  rintro rfl
  cases h with
  | unknownType _ missing =>
    cases missing.symm.trans defined

theorem Fails.not_undeclaredField (h : schema.Fails type cause) :
    cause ≠ .undeclaredField fieldName typeName := by
  rintro rfl
  cases h

end Schema

namespace Engine

/-- Why an error is recorded for a position itself. -/
inductive Raises (engine : Engine) (place : Place) : ErrorCause → Prop
  | undeclared {object : String} (content : place.content = .undeclared object) :
      Raises engine place (.undeclaredField place.field.name object)
  | failure {type : TypeRef} {resolved : Resolved} {cause : ErrorCause}
      (content : place.content = .declared type resolved)
      (shape : engine.schema.shape place.field.name type resolved = .failure cause) :
      Raises engine place cause
  | nullNotAllowed {type : TypeRef} {resolved : Resolved}
      (content : place.content = .declared type resolved) (excluded : type.nullable = false) :
      Raises engine place (.nullNotAllowed place.field.name)

/-- An error is recorded at a position below, or at the position itself. -/
def Records (engine : Engine) (place : Place) (error : ExecutionError) : Prop :=
  ∃ rest below cause, engine.LiesAt place rest below ∧ engine.Raises below cause ∧
    error = below.field.errorAt below.path cause

variable {engine : Engine} {place : Place} {error : ExecutionError}

theorem Records.of_part {part : PathSegment × Place} (member : part ∈ engine.partsOf place)
    (h : engine.Records part.2 error) : engine.Records place error := by
  obtain ⟨rest, below, cause, lies, raises, same⟩ := h
  exact ⟨part.1 :: rest, below, cause, .part member lies, raises, same⟩

/-- What is built of a resolved value records its own failure or the errors of its parts. -/
theorem records_of_built {type : TypeRef} {resolved : Resolved}
    (content : place.content = .declared type resolved)
    (below : ∀ part ∈ engine.partsOf place, ∀ error ∈ (engine.complete part.2).errors,
      engine.Records part.2 error)
    (h : error ∈ (engine.built type place.field place.path resolved place.context).errors) :
    engine.Records place error := by
  have composed {parts : List (PathSegment × Place)} {outcome : Outcome Json}
      (same : engine.partsOf place = parts) (composed : engine.Composed parts outcome)
      (member : error ∈ outcome.errors) : engine.Records place error := by
    rw [composed.errors, ← same] at member
    obtain ⟨part, present, raised⟩ := List.mem_flatMap.mp member
    exact .of_part present (below part present error raised)
  have parts : engine.partsOf place = engine.parts place.field place.path place.context
      (engine.schema.shape place.field.name type resolved) := partsOf_declared content
  unfold built at h
  cases shape : engine.schema.shape place.field.name type resolved with
  | failure cause =>
    rw [shape] at h
    cases List.mem_singleton.mp h
    exact ⟨[], place, cause, .here place, .failure content shape, rfl⟩
  | leaf data =>
    rw [shape] at h
    cases h
  | list itemType items =>
    rw [shape] at h parts
    exact composed parts (engine.composed_list _ _ _ _ _) h
  | object object parent =>
    rw [shape] at h parts
    exact composed parts (engine.composed_object _ _ _ _ _) h

/-- Every error of an outcome is recorded at a position. -/
theorem records_of_mem_errors (engine : Engine) (place : Place) :
    ∀ error ∈ (engine.complete place).errors, engine.Records place error := by
  induction place using engine.place_induction with
  | step place below =>
    intro error member
    unfold complete at member
    cases content : place.content with
    | typename object =>
      rw [content] at member
      cases member
    | undeclared object =>
      rw [content] at member
      cases List.mem_singleton.mp member
      exact ⟨[], place, _, .here place, .undeclared content, rfl⟩
    | declared type resolved =>
      rw [content] at member
      simp only [errors_completeField, List.mem_append] at member
      rcases member with member | member
      · exact records_of_built content below member
      · split at member
        · rename_i null
          cases List.mem_singleton.mp member
          exact ⟨[], place, _, .here place, .nullNotAllowed content null.1, rfl⟩
        · cases member

end Engine

end WebhookPayload
