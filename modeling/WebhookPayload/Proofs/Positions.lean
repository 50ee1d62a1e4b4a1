import Mathlib.Data.List.Nodup
import WebhookPayload.Proofs.Collection
import WebhookPayload.Proofs.Completion

/-! # Positions of a response

A position is where a selected field or an item of a list is completed. The
positions of a run form a tree: below a list are its items and below an object
are its members, as far as the run comes to them. The outcome at a position is
made of the outcomes right below it (`Engine.Composed`). -/

namespace WebhookPayload

open GraphQL

/-- What there is to complete. -/
inductive Content where
  /-- The name of the type of the object around. -/
  | typename (object : String)
  /-- A field that the type of the object around does not declare. -/
  | undeclared (object : String)
  | declared (type : TypeRef) (resolved : Resolved)

/-- A position of the response and the context in which it is completed. -/
structure Place where
  field : SelectedField
  path : Path
  content : Content
  context : Context

/-! ## Following a path -/

/-- The value right below, in a list or an object. -/
def Json.step? : PathSegment → Json → Option Json
  | .field name, .object members => Members.get? members name
  | .index i, .array items => items[i]?
  | _, _ => none

/-- The value that a path leads to. -/
def Json.at? (json : Json) : Path → Option Json
  | [] => some json
  | segment :: rest => (json.step? segment).bind (·.at? rest)

theorem Json.at?_null {rest : Path} {found : Json} (h : Json.null.at? rest = some found) :
    rest = [] ∧ found = .null := by
  cases rest with
  | nil => exact ⟨rfl, (Option.some.inj h).symm⟩
  | cons segment rest => cases segment <;> cases h

theorem Members.get?_of_mem {members : Members} (distinct : members.keys.Nodup) {key : String}
    {value : Json} (h : (key, value) ∈ members) : members.get? key = some value :=
  (lookup_eq_some_iff_mem distinct).mpr h

theorem Members.mem_of_get? {members : Members} {key : String} {value : Json}
    (h : members.get? key = some value) : (key, value) ∈ members := by
  obtain ⟨before, after, rfl, -⟩ := List.lookup_eq_some_iff.mp h
  simp

/-! ## Places -/

namespace Place

/-- Whether null may stand at the position. -/
def nullable (place : Place) : Bool :=
  match place.content with
  | .typename _ => false
  | .undeclared _ => true
  | .declared type _ => type.nullable

/-- How many lists are expected inside each other. -/
def depth (place : Place) : Nat :=
  match place.content with
  | .declared type _ => type.listDepth
  | _ => 0

end Place

namespace Engine

/-- What is completed for a field of an object, and the context after it is resolved. -/
def content (engine : Engine) (object : TypeDefinition) (parent : Json) (field : SelectedField)
    (context : Context) : Content × Context :=
  if field.name = typenameField then (.typename object.name, context)
  else
    match object.field? field.name with
    | none => (.undeclared object.name, context)
    | some definition =>
      let run := (engine.resolvers.fieldResolver object.name field.name parent field).run context
      (.declared definition.type run.answer, run.context)

/-- The position of a field of an object. -/
def member (engine : Engine) (object : TypeDefinition) (parent : Json) (path : Path)
    (field : SelectedField) (context : Context) : Place :=
  let (content, context) := engine.content object parent field context
  { field, path := path ++ [.field field.outputName], content, context }

/-- The position of an item of a list. -/
def item (field : SelectedField) (path : Path) (itemType : TypeRef) (item : FieldValue × Nat)
    (context : Context) : Place :=
  { field, path := path ++ [.index item.2], content := .declared itemType (.ok item.1), context }

/-- The positions right below what is built, in the order in which they are completed. -/
def parts (engine : Engine) (field : SelectedField) (path : Path) (context : Context) :
    Shape → List (PathSegment × Place)
  | .list itemType items =>
    (Exec.turns (engine.completeItem field path itemType) items.zipIdx context).map fun turn =>
      (.index turn.1.2, item field path itemType turn.1 turn.2)
  | .object object parent =>
    (Exec.turns (engine.answerField object parent path)
        (collectFields engine.schema object.name field.subfields) context).map fun turn =>
      (.field turn.1.outputName, engine.member object parent path turn.1 turn.2)
  | _ => []

/-- The positions right below a position. -/
def partsOf (engine : Engine) (place : Place) : List (PathSegment × Place) :=
  match place.content with
  | .declared type resolved =>
    engine.parts place.field place.path place.context
      (engine.schema.shape place.field.name type resolved)
  | _ => []

/-- Completes what is at a position. -/
def complete (engine : Engine) (place : Place) : Outcome Json :=
  match place.content with
  | .typename object => Exec.pure (.string object) place.context
  | .undeclared object =>
    (Exec.record (place.field.errorAt place.path (.undeclaredField place.field.name object))).bind
      (fun _ => Exec.pure .null) place.context
  | .declared type resolved =>
    engine.completeField type place.field place.path resolved place.context

/-- Apart from what is noted, a field is completed as its position is. -/
theorem fieldValue_apply (engine : Engine) (object : TypeDefinition) (parent : Json) (path : Path)
    (field : SelectedField) (context : Context) :
    let outcome := engine.fieldValue (engine.answerFields field.subfields) object parent
      (path ++ [.field field.outputName]) field context
    outcome.value? = (engine.complete (engine.member object parent path field context)).value? ∧
      outcome.errors =
        (engine.complete (engine.member object parent path field context)).errors := by
  unfold fieldValue member content
  by_cases typename : field.name = typenameField
  · rw [if_pos typename, if_pos typename]
    exact ⟨rfl, rfl⟩
  · rw [if_neg typename, if_neg typename]
    cases object.field? field.name with
    | none => exact ⟨rfl, rfl⟩
    | some definition =>
      exact ⟨rfl, rfl⟩

theorem value?_answerField (engine : Engine) (object : TypeDefinition) (parent : Json) (path : Path)
    (field : SelectedField) (context : Context) :
    (engine.answerField object parent path field context).value? =
      (engine.complete (engine.member object parent path field context)).value?.map
        (field.outputName, ·) := by
  rw [← (engine.fieldValue_apply object parent path field context).1]
  exact Exec.value?_map _ _ _

theorem errors_answerField (engine : Engine) (object : TypeDefinition) (parent : Json) (path : Path)
    (field : SelectedField) (context : Context) :
    (engine.answerField object parent path field context).errors =
      (engine.complete (engine.member object parent path field context)).errors := by
  rw [← (engine.fieldValue_apply object parent path field context).2]
  exact Exec.errors_map _ _ _

/-! ## What is made of the parts -/

variable {engine : Engine} {field : SelectedField} {path : Path} {context : Context}

theorem partsOf_declared {place : Place} {type : TypeRef} {resolved : Resolved}
    (content : place.content = .declared type resolved) :
    engine.partsOf place = engine.parts place.field place.path place.context
      (engine.schema.shape place.field.name type resolved) := by
  unfold partsOf
  rw [content]

/-- How a position lies right below another: as an item of a list, or as a field
that is answered on an object. -/
inductive PartOf (engine : Engine) (place : Place) : PathSegment × Place → Prop
  | item {itemType : TypeRef} {nullable : Bool} {resolved : Resolved}
      (content : place.content = .declared (.list itemType nullable) resolved)
      (value : FieldValue × Nat) (context : Context) :
      PartOf engine place (.index value.2, item place.field place.path itemType value context)
  | member {type : TypeRef} {resolved : Resolved} {object : TypeDefinition} {parent : Json}
      {field : SelectedField} (content : place.content = .declared type resolved)
      (shape : engine.schema.shape place.field.name type resolved = .object object parent)
      (collected : field ∈ collectFields engine.schema object.name place.field.subfields)
      (context : Context) :
      PartOf engine place
        (.field field.outputName, engine.member object parent place.path field context)

theorem partOf_of_mem_partsOf {place : Place} {part : PathSegment × Place}
    (h : part ∈ engine.partsOf place) : engine.PartOf place part := by
  cases content : place.content with
  | typename object | undeclared object =>
    unfold partsOf at h
    rw [content] at h
    cases h
  | declared type resolved =>
    rw [partsOf_declared content] at h
    have taken := engine.schema.takes_shape place.field.name type resolved
    cases shape : engine.schema.shape place.field.name type resolved with
    | failure cause | leaf data =>
      rw [shape] at h
      cases h
    | list itemType items =>
      rw [shape] at h taken
      obtain ⟨turn, -, rfl⟩ := List.mem_map.mp h
      cases taken
      exact .item content turn.1 turn.2
    | object object parent =>
      rw [shape] at h
      obtain ⟨turn, met, rfl⟩ := List.mem_map.mp h
      have initial := Exec.turns_initial (engine.answerField object parent place.path)
        (collectFields engine.schema object.name place.field.subfields) place.context
      exact .member content shape (initial.subset (List.mem_map_of_mem met)) turn.2

theorem PartOf.path_eq {place : Place} {part : PathSegment × Place} (h : engine.PartOf place part) :
    part.2.path = place.path ++ [part.1] := by
  cases h <;> rfl

/-- Below a position lists are nested less deep, or less is selected. -/
theorem PartOf.smaller {place : Place} {part : PathSegment × Place} (h : engine.PartOf place part) :
    Prod.Lex (· < ·) (· < ·) (SelectedField.heights part.2.field.subfields, part.2.depth)
      (SelectedField.heights place.field.subfields, place.depth) := by
  cases h with
  | @item itemType nullable resolved content value context =>
    have depth : place.depth = itemType.listDepth + 1 := by
      unfold Place.depth
      rw [content]
      rfl
    rw [depth]
    exact .right _ (Nat.lt_succ_self _)
  | member content shape collected context =>
    exact .left _ _ (SelectedField.heights_subfields_lt collected)

/-- No two parts have the same place below. -/
theorem nodup_parts (engine : Engine) (field : SelectedField) (path : Path) (context : Context)
    (shape : Shape) : ((engine.parts field path context shape).map Prod.fst).Nodup := by
  cases shape with
  | failure cause => exact List.nodup_nil
  | leaf data => exact List.nodup_nil
  | list itemType items =>
    have indices : (items.zipIdx.map Prod.snd).Nodup := by
      rw [List.zipIdx_map_snd]
      exact List.nodup_range'
    have met := (Exec.turns_initial (engine.completeItem field path itemType) items.zipIdx
      context).map Prod.snd
    have distinct := List.Nodup.map (f := PathSegment.index) (fun _ _ => PathSegment.index.inj)
      (met.sublist.nodup indices)
    simpa [parts, Function.comp_def] using distinct
  | object object parent =>
    have names := nodup_collectFields engine.schema object.name field.subfields
    have met := (Exec.turns_initial (engine.answerField object parent path)
      (collectFields engine.schema object.name field.subfields) context).map
        SelectedField.outputName
    have distinct := List.Nodup.map (f := PathSegment.field) (fun _ _ => PathSegment.field.inj)
      (met.sublist.nodup names)
    simpa [parts, Function.comp_def] using distinct

/-- A list or an object is made of what is completed right below it. -/
structure Composed (engine : Engine) (parts : List (PathSegment × Place)) (outcome : Outcome Json) :
    Prop where
  errors : outcome.errors = parts.flatMap fun part => (engine.complete part.2).errors
  missing : outcome.value? = none → ∃ part ∈ parts, (engine.complete part.2).value? = none
  notNull : outcome.value? ≠ some .null
  each : ∀ json, outcome.value? = some json → ∀ part ∈ parts, ∃ value,
    (engine.complete part.2).value? = some value ∧ json.step? part.1 = some value
  all : ∀ json, outcome.value? = some json → ∀ segment value, json.step? segment = some value →
    ∃ next, (segment, next) ∈ parts ∧ (engine.complete next).value? = some value

/-- The items of a list are completed in order, each with its index. -/
theorem item_of_turn {f : FieldValue × Nat → Exec Json} {items : List FieldValue}
    {values : List Json} (found : (Exec.traverse f items.zipIdx context).value? = some values)
    {i : Nat} {turn : (FieldValue × Nat) × Context}
    (met : (Exec.turns f items.zipIdx context)[i]? = some turn) :
    items[i]? = some turn.1.1 ∧ turn.1.2 = i := by
  have present := (Exec.value_of_turn found met).1
  rw [List.getElem?_zipIdx] at present
  obtain ⟨element, present, same⟩ := Option.map_eq_some_iff.mp present
  rw [← same]
  exact ⟨present, Nat.zero_add i⟩

theorem composed_list (engine : Engine) (field : SelectedField) (path : Path) (context : Context)
    (itemType : TypeRef) (items : List FieldValue) :
    engine.Composed (engine.parts field path context (.list itemType items))
      (engine.build field path (.list itemType items) context) := by
  constructor
  case errors =>
    rw [build, Exec.errors_map, Exec.errors_traverse, parts, List.flatMap_map]
    rfl
  case missing =>
    intro h
    rw [build, Exec.value?_map, Option.map_eq_none_iff] at h
    obtain ⟨turn, met, missing⟩ := Exec.exists_turn_of_value?_eq_none h
    exact ⟨_, List.mem_map_of_mem met, missing⟩
  case notNull =>
    intro h
    rw [build, Exec.value?_map] at h
    obtain ⟨values, -, same⟩ := Option.map_eq_some_iff.mp h
    cases same
  case each =>
    intro json h part member
    rw [build, Exec.value?_map] at h
    obtain ⟨values, found, rfl⟩ := Option.map_eq_some_iff.mp h
    obtain ⟨turn, met, rfl⟩ := List.mem_map.mp member
    obtain ⟨i, met⟩ := List.mem_iff_getElem?.mp met
    obtain ⟨-, value, held, out⟩ := Exec.value_of_turn found met
    obtain ⟨-, index⟩ := item_of_turn found met
    exact ⟨value, out, by rw [index]; exact held⟩
  case all =>
    intro json h segment value step
    rw [build, Exec.value?_map] at h
    obtain ⟨values, found, rfl⟩ := Option.map_eq_some_iff.mp h
    cases segment with
    | field name => cases step
    | index i =>
      obtain ⟨⟨⟨element, j⟩, after⟩, met, out⟩ := Exec.turn_of_value found step
      obtain ⟨-, rfl⟩ := item_of_turn found met
      exact ⟨_, List.mem_map_of_mem (List.mem_of_getElem? met), out⟩

section Members

variable {object : TypeDefinition} {parent : Json} {members : Members}

/-- The keys of an object are the output names of the fields that apply to its type. -/
theorem keys_of_value?
    (h : (engine.answerFields field.subfields object parent path context).value? = some members) :
    Members.keys members = outputNames (applicable engine.schema object.name field.subfields) := by
  rw [answerFields_eq] at h
  rw [← outputNames_collectFields]
  refine Exec.map_values (fun sub context entry found => ?_) h
  rw [value?_answerField] at found
  obtain ⟨value, -, rfl⟩ := Option.map_eq_some_iff.mp found
  rfl

theorem member_of_turn
    (h : (engine.answerFields field.subfields object parent path context).value? = some members)
    {turn : SelectedField × Context}
    (met : turn ∈ Exec.turns (engine.answerField object parent path)
      (collectFields engine.schema object.name field.subfields) context) :
    ∃ value, (turn.1.outputName, value) ∈ members ∧
      (engine.complete (engine.member object parent path turn.1 turn.2)).value? = some value := by
  rw [answerFields_eq] at h
  obtain ⟨i, met⟩ := List.mem_iff_getElem?.mp met
  obtain ⟨-, entry, held, out⟩ := Exec.value_of_turn h met
  rw [value?_answerField] at out
  obtain ⟨value, found, rfl⟩ := Option.map_eq_some_iff.mp out
  exact ⟨value, List.mem_of_getElem? held, found⟩

theorem turn_of_member
    (h : (engine.answerFields field.subfields object parent path context).value? = some members)
    {entry : String × Json} (held : entry ∈ members) :
    ∃ turn ∈ Exec.turns (engine.answerField object parent path)
        (collectFields engine.schema object.name field.subfields) context,
      turn.1.outputName = entry.1 ∧
        (engine.complete (engine.member object parent path turn.1 turn.2)).value? =
          some entry.2 := by
  rw [answerFields_eq] at h
  obtain ⟨i, held⟩ := List.mem_iff_getElem?.mp held
  obtain ⟨turn, met, out⟩ := Exec.turn_of_value h held
  rw [value?_answerField] at out
  obtain ⟨value, found, rfl⟩ := Option.map_eq_some_iff.mp out
  exact ⟨turn, List.mem_of_getElem? met, rfl, found⟩

end Members

theorem composed_object (engine : Engine) (field : SelectedField) (path : Path) (context : Context)
    (object : TypeDefinition) (parent : Json) :
    engine.Composed (engine.parts field path context (.object object parent))
      (engine.build field path (.object object parent) context) := by
  constructor
  case errors =>
    rw [build, Exec.errors_map, answerFields_eq, Exec.errors_traverse, parts, List.flatMap_map]
    simp only [errors_answerField]
  case missing =>
    intro h
    rw [build, Exec.value?_map, Option.map_eq_none_iff, answerFields_eq] at h
    obtain ⟨turn, met, missing⟩ := Exec.exists_turn_of_value?_eq_none h
    rw [value?_answerField, Option.map_eq_none_iff] at missing
    exact ⟨_, List.mem_map_of_mem met, missing⟩
  case notNull =>
    intro h
    rw [build, Exec.value?_map] at h
    obtain ⟨members, -, same⟩ := Option.map_eq_some_iff.mp h
    cases same
  case each =>
    intro json h part member
    rw [build, Exec.value?_map] at h
    obtain ⟨members, found, rfl⟩ := Option.map_eq_some_iff.mp h
    obtain ⟨turn, met, rfl⟩ := List.mem_map.mp member
    obtain ⟨value, held, out⟩ := member_of_turn found met
    have distinct : (Members.keys members).Nodup := by
      rw [keys_of_value? found]
      exact nodup_outputNames _
    exact ⟨value, out, Members.get?_of_mem distinct held⟩
  case all =>
    intro json h segment value step
    rw [build, Exec.value?_map] at h
    obtain ⟨members, found, rfl⟩ := Option.map_eq_some_iff.mp h
    cases segment with
    | index i => cases step
    | field name =>
      obtain ⟨turn, met, rfl, out⟩ := turn_of_member found (Members.mem_of_get? step)
      exact ⟨_, List.mem_map_of_mem met, out⟩

section Built

variable {place : Place}

/-- What is built at a position with parts is made of them. -/
theorem composed_of_parts {type : TypeRef} {resolved : Resolved}
    (content : place.content = .declared type resolved) (inner : engine.partsOf place ≠ []) :
    engine.Composed (engine.partsOf place)
      (engine.built type place.field place.path resolved place.context) := by
  rw [partsOf_declared content] at inner ⊢
  unfold Engine.built
  cases shape : engine.schema.shape place.field.name type resolved with
  | failure cause | leaf data =>
    rw [shape] at inner
    exact absurd rfl inner
  | list itemType items => exact engine.composed_list _ _ _ _ _
  | object object parent => exact engine.composed_object _ _ _ _ _

theorem mem_errors_of_part {part : PathSegment × Place} (member : part ∈ engine.partsOf place)
    {error : ExecutionError} (raised : error ∈ (engine.complete part.2).errors) :
    error ∈ (engine.complete place).errors := by
  obtain ⟨field, path, content, context⟩ := place
  cases content with
  | typename object | undeclared object => cases member
  | declared type resolved =>
    have composed := composed_of_parts rfl (List.ne_nil_of_mem member)
    have own := engine.errors_completeField type field path resolved context
    refine own ▸ List.mem_append_left _ ?_
    rw [composed.errors]
    exact List.mem_flatMap.mpr ⟨part, member, raised⟩

end Built

/-! ## From part to part -/

/-- What holds of a position when it holds of all right below holds of every position. -/
theorem place_induction (engine : Engine) {P : Place → Prop}
    (step : ∀ place, (∀ part ∈ engine.partsOf place, P part.2) → P place) (place : Place) :
    P place :=
  step place fun part _ => place_induction engine step part.2
-- items are of the same field with one list less around, members are of fields below it
termination_by (SelectedField.heights place.field.subfields, place.depth)
decreasing_by
  rename_i h
  exact (partOf_of_mem_partsOf h).smaller

/-- A position lies at a path below another. -/
inductive LiesAt (engine : Engine) : Place → Path → Place → Prop
  | here (place : Place) : LiesAt engine place [] place
  | part {place next last : Place} {segment : PathSegment} {rest : Path}
      (member : (segment, next) ∈ engine.partsOf place) (h : LiesAt engine next rest last) :
      LiesAt engine place (segment :: rest) last

theorem path_of_mem_partsOf {place : Place} {part : PathSegment × Place}
    (h : part ∈ engine.partsOf place) : part.2.path = place.path ++ [part.1] :=
  (partOf_of_mem_partsOf h).path_eq

theorem nodup_partsOf (engine : Engine) (place : Place) :
    ((engine.partsOf place).map Prod.fst).Nodup := by
  unfold partsOf
  split
  · exact engine.nodup_parts _ _ _ _
  · exact List.nodup_nil

theorem partsOf_unique {place a b : Place} {segment : PathSegment}
    (h : (segment, a) ∈ engine.partsOf place) (h' : (segment, b) ∈ engine.partsOf place) :
    a = b := by
  have same := List.inj_on_of_nodup_map (engine.nodup_partsOf place) h h' rfl
  exact congrArg Prod.snd same

theorem LiesAt.path_eq {place last : Place} {rest : Path} (h : engine.LiesAt place rest last) :
    last.path = place.path ++ rest := by
  induction h with
  | here place => exact (List.append_nil _).symm
  | part member _ ih => rw [ih, path_of_mem_partsOf member, List.append_assoc, List.singleton_append]

/-- The paths of two positions below one are related as the ways to them. -/
theorem LiesAt.prefix_iff {place middle last : Place} {start rest : Path}
    (h : engine.LiesAt place start middle) (h' : engine.LiesAt place rest last) :
    middle.path <+: last.path ↔ start <+: rest := by
  rw [h.path_eq, h'.path_eq, List.prefix_append_right_inj]

/-- What lies further below lies below what is between. -/
theorem LiesAt.after {place middle last : Place} {start rest : Path}
    (h : engine.LiesAt place start middle) (h' : engine.LiesAt place (start ++ rest) last) :
    engine.LiesAt middle rest last := by
  induction h with
  | here place => exact h'
  | part member _ ih =>
    cases h' with
    | part member' later =>
      cases partsOf_unique member member'
      exact ih later

theorem LiesAt.append {place middle last : Place} {start rest : Path}
    (h : engine.LiesAt place start middle) (h' : engine.LiesAt middle rest last) :
    engine.LiesAt place (start ++ rest) last := by
  induction h with
  | here place => exact h'
  | part member _ ih => exact .part member (ih h')

/-- The errors of a position are errors of all around it. -/
theorem LiesAt.mem_errors {place last : Place} {rest : Path}
    (lies : engine.LiesAt place rest last) {error : ExecutionError}
    (raised : error ∈ (engine.complete last).errors) :
    error ∈ (engine.complete place).errors := by
  induction lies with
  | here => exact raised
  | part member _ ih => exact mem_errors_of_part member (ih raised)

/-! ## The position of the subscribed field -/

/-- The position of the response's only field, if the subscription gives an item. -/
def root? (engine : Engine) (subscription : Subscription) (event : Event) (context : Context) :
    Option Place :=
  let field := subscription.field
  let start := (engine.resolvers.subscriber field.name event field).run context
  match engine.schema.subscriptionType?.bind (·.field? field.name), start.answer with
  | some definition, .ok (item :: _) =>
    let run := item.run start.context
    some {
      field, path := [.field field.outputName],
      content := .declared definition.type run.answer, context := run.context }
  | _, _ => none

theorem root?_eq_some {subscription : Subscription} {event : Event} {place : Place}
    (h : engine.root? subscription event context = some place) :
    ∃ object definition resolved, engine.schema.subscriptionType? = some object ∧
      object.field? subscription.field.name = some definition ∧
      place.field = subscription.field ∧
      place.path = [.field subscription.field.outputName] ∧
      place.content = .declared definition.type resolved := by
  unfold root? at h
  dsimp only at h
  split at h
  · rename_i definition item rest declared given
    obtain ⟨object, rooted, declared⟩ := Option.bind_eq_some_iff.mp declared
    cases h
    exact ⟨object, definition, _, rooted, declared, rfl, rfl, rfl⟩
  · cases h

/-- The response is what is completed at that position. -/
theorem execute_eq_ok {subscription : Subscription} {event : Event} {response : Response}
    (h : (engine.execute subscription event context).result = .ok (some response)) :
    ∃ place, engine.root? subscription event context = some place ∧
      response.data? = (engine.complete place).value?.map
        (fun json => [(subscription.field.outputName, json)]) ∧
      response.errors = (engine.complete place).errors := by
  unfold execute at h
  unfold root?
  dsimp only at h ⊢
  cases declared : engine.schema.subscriptionType?.bind (·.field? subscription.field.name) with
  | none =>
    rw [declared] at h
    cases h
  | some definition =>
    rw [declared] at h
    dsimp only at h
    split at h
    · cases h
    · cases h
    · rename_i item rest given
      cases h
      rw [given]
      exact ⟨_, rfl, Exec.value?_map _ _ _, Exec.errors_map _ _ _⟩

theorem exists_response_of_root? {subscription : Subscription} {event : Event} {root : Place}
    (rooted : engine.root? subscription event context = some root) :
    ∃ response, (engine.execute subscription event context).result = .ok (some response) := by
  unfold root? at rooted
  unfold execute
  dsimp only at rooted ⊢
  split at rooted
  · rename_i definition item rest declared given
    rw [declared]
    dsimp only
    rw [given]
    exact ⟨_, rfl⟩
  · cases rooted

/-- A position of the response to an event. -/
def Visits (engine : Engine) (subscription : Subscription) (event : Event) (context : Context)
    (place : Place) : Prop :=
  ∃ root rest, engine.root? subscription event context = some root ∧
    engine.LiesAt root rest place

theorem Visits.below {subscription : Subscription} {event : Event} {place last : Place}
    {rest : Path} (h : engine.Visits subscription event context place)
    (lies : engine.LiesAt place rest last) : engine.Visits subscription event context last := by
  obtain ⟨root, start, rooted, above⟩ := h
  exact ⟨root, start ++ rest, rooted, above.append lies⟩

end Engine

/-- The value in the data of a response that a path leads to. -/
def Response.at? (response : Response) (path : Path) : Option Json :=
  response.data?.bind fun members => (Json.object members).at? path

end WebhookPayload
