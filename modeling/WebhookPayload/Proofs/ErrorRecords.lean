import WebhookPayload.ErrorRecord
import WebhookPayload.Proofs.UnorderedJson

/-! # What error records tell

The record of an error is faithful or constant. If the kind of the error is recognized,
the record tells everything that is known of the error: members that are left out and
paths that mix names and numbers leave no doubt. If it is not, the record tells nothing
but that (`errorRecords_tell`). Which kinds are recognized, and in what order the
members of a record stand, makes no difference to this. -/

namespace WebhookPayload

open GraphQL (Position)
open Json (SameUpToOrder Faithful)

/-! ## Encodings -/

theorem ErrorKind.code_injective {kind other : ErrorKind} (h : kind.code = other.code) :
    kind = other := by
  revert h
  cases kind <;> cases other <;> decide

/-- Names are written as strings and indexes as numbers. -/
theorem faithful_segment : Faithful PathSegment.toJson := by
  intro segment other same
  cases segment with
  | field name =>
    cases other with
    | field otherName => exact congrArg _ (Json.faithful_string name otherName same)
    | index i => cases same.string
  | index i =>
    cases other with
    | field otherName => cases same.number
    | index j => exact congrArg _ (Json.faithful_ofNat i j same)

theorem faithful_location : Faithful locationRecord := by
  intro position other same
  have distinct : (Members.keys
      [("line", Json.ofNat position.line), ("column", .ofNat position.column)]).Nodup := by
    simp [Members.keys]
  have line : position.line = other.line :=
    Json.faithful_ofNat _ _ (same.member distinct "line" rfl rfl)
  have column : position.column = other.column :=
    Json.faithful_ofNat _ _ (same.member distinct "column" rfl rfl)
  cases position
  cases other
  cases line
  cases column
  rfl

/-- The array of some items, unless there are none. -/
def listed {α : Type} (encode : α → Json) : List α → Option Json
  | [] => none
  | items => some (.array (items.map encode))

/-- A list that is left out is empty. -/
theorem eq_of_listed {α : Type} {encode : α → Json} (faithful : Faithful encode)
    {items others : List α}
    (h : Option.Rel SameUpToOrder (listed encode items) (listed encode others)) :
    items = others := by
  cases items with
  | nil =>
    cases others with
    | nil => rfl
    | cons other rest => cases h
  | cons item rest =>
    cases others with
    | nil => cases h
    | cons other others =>
      cases h with
      | some same => exact faithful.array _ _ same

/-! ## Full records -/

namespace ExecutionError

variable {e f : ExecutionError}

theorem nodup_keys_fullRecord (e : ExecutionError) : e.fullRecord.keys.Nodup := by
  cases locations : e.locations <;> cases path : e.path <;>
    simp [fullRecord, listMember, Members.keys, locations, path]

theorem nodup_keys_exceptionRecord (e : ExecutionError) : e.exceptionRecord.keys.Nodup := by
  cases permissions : e.cause.permissions? <;>
    simp [exceptionRecord, permissionMember, Members.keys, permissions]

theorem get?_fullRecord (e : ExecutionError) :
    e.fullRecord.get? "message" = some (.string e.message) ∧
      e.fullRecord.get? "locations" = listed locationRecord e.locations ∧
      e.fullRecord.get? "path" = listed PathSegment.toJson e.path ∧
      e.fullRecord.get? "extensions" =
        some (.object [("exception", .object e.exceptionRecord)]) := by
  cases locations : e.locations <;> cases path : e.path <;>
    simp [fullRecord, listMember, listed, Members.get?, List.lookup_cons, locations, path]

theorem get?_exceptionRecord (e : ExecutionError) :
    e.exceptionRecord.get? "code" = some (.string e.kind.code) ∧
      e.exceptionRecord.get? "permissions" = e.cause.permissions?.map Json.strings := by
  cases permissions : e.cause.permissions? <;>
    simp [exceptionRecord, permissionMember, kind, Members.get?, List.lookup_cons, permissions]

/-- What the exception of a record tells: the kind of the error and the missing permissions. -/
theorem told_by_exceptionRecord
    (h : SameUpToOrder (.object e.exceptionRecord) (.object f.exceptionRecord)) :
    e.kind = f.kind ∧ e.cause.permissions? = f.cause.permissions? := by
  obtain ⟨code, permissions⟩ := e.get?_exceptionRecord
  obtain ⟨otherCode, otherPermissions⟩ := f.get?_exceptionRecord
  constructor
  case left =>
    refine ErrorKind.code_injective (Json.faithful_string _ _ ?_)
    exact h.member e.nodup_keys_exceptionRecord "code" code otherCode
  case right =>
    have related := h.get? e.nodup_keys_exceptionRecord "permissions"
    rw [permissions, otherPermissions] at related
    exact Json.faithful_string.array.option related

/-- Nothing in the records tells the errors apart: both are hidden, or they agree in all
that a record shows. -/
inductive ShownAlike (recognized : List ErrorKind) (e f : ExecutionError) : Prop
  | hidden (own : e.kind ∉ recognized) (others : f.kind ∉ recognized)
  | shown (own : e.kind ∈ recognized) (kind : e.kind = f.kind) (message : e.message = f.message)
      (path : e.path = f.path) (locations : e.locations = f.locations)
      (permissions : e.cause.permissions? = f.cause.permissions?)

variable {recognized : List ErrorKind}

theorem ShownAlike.record_eq (h : e.ShownAlike recognized f) :
    e.record recognized = f.record recognized := by
  cases h with
  | hidden own others => rw [record, record, if_neg own, if_neg others]
  | shown own kind message path locations permissions =>
    have others : f.kind ∈ recognized := kind ▸ own
    have exceptions : e.exceptionRecord = f.exceptionRecord := by
      rw [exceptionRecord, exceptionRecord, kind, permissions]
    rw [record, record, if_pos own, if_pos others, fullRecord, fullRecord, message, path,
      locations, exceptions]

/-- Full records differ if the errors differ in anything. -/
theorem shownAlike_of_fullRecord (own : e.kind ∈ recognized)
    (h : SameUpToOrder (.object e.fullRecord) (.object f.fullRecord)) :
    e.ShownAlike recognized f := by
  obtain ⟨message, locations, path, extensions⟩ := e.get?_fullRecord
  obtain ⟨otherMessage, otherLocations, otherPath, otherExtensions⟩ := f.get?_fullRecord
  have distinct := e.nodup_keys_fullRecord
  have outer := h.member distinct "extensions" extensions otherExtensions
  have exceptions := outer.member (by simp [Members.keys]) "exception" rfl rfl
  obtain ⟨kind, permissions⟩ := told_by_exceptionRecord exceptions
  refine .shown own kind ?_ ?_ ?_ permissions
  · exact Json.faithful_string _ _ (h.member distinct "message" message otherMessage)
  · have related := h.get? distinct "path"
    rw [path, otherPath] at related
    exact eq_of_listed faithful_segment related
  · have related := h.get? distinct "locations"
    rw [locations, otherLocations] at related
    exact eq_of_listed faithful_location related

/-- Records are the same only for errors that are shown alike: a full record has extensions,
and a record that hides its error has none. -/
theorem sameUpToOrder_record_iff :
    SameUpToOrder (.object (e.record recognized)) (.object (f.record recognized)) ↔
      e.ShownAlike recognized f := by
  constructor
  case mpr =>
    intro alike
    rw [alike.record_eq]
    exact .same _
  case mp =>
    intro same
    by_cases own : e.kind ∈ recognized <;> by_cases others : f.kind ∈ recognized <;>
      simp only [record, own, others, if_true, if_false] at same
    · exact shownAlike_of_fullRecord own same
    · have extensions := same.get? e.nodup_keys_fullRecord "extensions"
      rw [e.get?_fullRecord.2.2.2] at extensions
      cases extensions
    · have extensions := same.get? (by simp [redactedRecord, Members.keys]) "extensions"
      rw [f.get?_fullRecord.2.2.2] at extensions
      cases extensions
    · exact .hidden own others

end ExecutionError

/-! ## Errors behind records -/

/-- The error as a resolver would raise it: what the execution finds by itself is meant
for the reader. -/
def ErrorCause.fieldError : ErrorCause → FieldError
  | raised error => error
  | found => .graphql found.message

theorem ErrorCause.kind_fieldError (cause : ErrorCause) : cause.fieldError.kind = cause.kind := by
  cases cause <;> rfl

theorem ErrorCause.message_fieldError (cause : ErrorCause) :
    cause.fieldError.message = cause.message := by
  cases cause <;> rfl

theorem ErrorCause.permissions?_fieldError (cause : ErrorCause) :
    (raised cause.fieldError).permissions? = cause.permissions? := by
  cases cause <;> rfl

theorem FieldError.eq_of_shown {error other : FieldError} (kind : error.kind = other.kind)
    (message : error.message = other.message)
    (permissions :
      (ErrorCause.raised error).permissions? = (ErrorCause.raised other).permissions?) :
    error = other := by
  cases error <;> cases other <;> cases kind
  case graphql.graphql => exact congrArg _ message
  case permissionDenied.permissionDenied => exact congrArg _ (Option.some.inj permissions)
  case internal.internal => exact congrArg _ message

/-- What the records of two lists of errors tell of them. -/
structure RecordsTell (recognized : List ErrorKind) (errors others : List ExecutionError) :
    Prop where
  /-- Each error has its record, in order. -/
  each : List.Forall₂ (fun e record => record = .object (e.record recognized)) errors
    (errorRecords recognized errors)
  /-- Equal records tell the errors apart in nothing, and other records do in something. -/
  equal : errorRecords recognized errors = errorRecords recognized others ↔
    List.Forall₂ (ExecutionError.ShownAlike recognized) errors others
  /-- The order of members makes no difference. -/
  unordered : SameUpToOrder (.array (errorRecords recognized errors))
      (.array (errorRecords recognized others)) ↔
    List.Forall₂ (ExecutionError.ShownAlike recognized) errors others
  /-- The record of a recognized error has come from that error only. -/
  determined : ∀ e ∈ errors, ∀ f ∈ others, e.kind ∈ recognized →
    SameUpToOrder (.object (e.record recognized)) (.object (f.record recognized)) →
      f.kind ∈ recognized ∧ e.cause.fieldError = f.cause.fieldError ∧ e.path = f.path ∧
        e.locations = f.locations

theorem forall₂_shownAlike_of_unordered {recognized : List ErrorKind}
    {errors others : List ExecutionError}
    (h : SameUpToOrder (.array (errorRecords recognized errors))
      (.array (errorRecords recognized others))) :
    List.Forall₂ (ExecutionError.ShownAlike recognized) errors others := by
  have each := h.items
  rw [errorRecords, errorRecords, List.forall₂_map_left_iff, List.forall₂_map_right_iff] at each
  exact each.imp fun _ _ => ExecutionError.sameUpToOrder_record_iff.mp

theorem errorRecords_eq_of_shownAlike {recognized : List ErrorKind}
    {errors others : List ExecutionError}
    (h : List.Forall₂ (ExecutionError.ShownAlike recognized) errors others) :
    errorRecords recognized errors = errorRecords recognized others := by
  induction h with
  | nil => rfl
  | cons alike _ ih =>
    rw [errorRecords, errorRecords] at ih ⊢
    rw [List.map_cons, List.map_cons, alike.record_eq, ih]

theorem errorRecords_tell (recognized : List ErrorKind) (errors others : List ExecutionError) :
    RecordsTell recognized errors others := by
  constructor
  case each =>
    rw [errorRecords, List.forall₂_map_right_iff]
    exact List.forall₂_same.mpr fun _ _ => rfl
  case equal =>
    refine ⟨fun same => ?_, errorRecords_eq_of_shownAlike⟩
    exact forall₂_shownAlike_of_unordered (same ▸ .same _)
  case unordered =>
    refine ⟨forall₂_shownAlike_of_unordered, fun alike => ?_⟩
    rw [errorRecords_eq_of_shownAlike alike]
    exact .same _
  case determined =>
    intro e _ f _ own same
    cases ExecutionError.sameUpToOrder_record_iff.mp same with
    | hidden hidden _ => exact absurd own hidden
    | shown _ kind message path locations permissions =>
      refine ⟨kind ▸ own, ?_, path, locations⟩
      refine FieldError.eq_of_shown ?_ ?_ ?_
      · rw [ErrorCause.kind_fieldError, ErrorCause.kind_fieldError]
        exact kind
      · rw [ErrorCause.message_fieldError, ErrorCause.message_fieldError]
        exact message
      · rw [ErrorCause.permissions?_fieldError, ErrorCause.permissions?_fieldError]
        exact permissions

end WebhookPayload
