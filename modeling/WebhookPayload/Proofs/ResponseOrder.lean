import WebhookPayload.Proofs.Calls
import WebhookPayload.Proofs.NullPropagation

/-! # The order of a run

What runs while a subscription is executed runs for one position of the response
after the other, in depth-first pre-order: first the resolver of a field, then the
pending values it gave, then all that is below. After a position that has no value
nothing more runs below the nearest position around it that allows null
(`Engine.ends_with_missing`). `execute_inOrder` says so of every execution. -/

namespace WebhookPayload

open GraphQL

/-! ## What runs -/

/-- What runs for a position of the response. -/
inductive Activity where
  /-- The resolver of a field. -/
  | resolver (path : Path)
  /-- A pending value that is waited for, of a field or of an item of a list. -/
  | pending (path : Path) (tag? : Option String)

/-- The path that a field resolver is called for. -/
def Activity.resolved? : Activity → Option Path
  | resolver path => some path
  | pending _ _ => none

namespace TraceEntry

def activity? : TraceEntry → Option Activity
  | fieldResolved path _ _ => some (.resolver path)
  | deferredComputed path tag? => some (.pending path tag?)
  | _ => none

def resolved? (entry : TraceEntry) : Option Path := entry.activity?.bind Activity.resolved?

/-- The field that a subscription resolver is called for. -/
def subscribed? : TraceEntry → Option String
  | subscribed field => some field
  | _ => none

def itemTaken? : TraceEntry → Option Nat
  | itemTaken index => some index
  | _ => none

end TraceEntry

/-- Operations leave only entries of their own kind. -/
theorem filterMap_of_operations {α : Type} {f : TraceEntry → Option α} {trace : Trace}
    (h : ∀ entry ∈ trace, entry.isOperation = true)
    (other : ∀ entry, entry.isOperation = true → f entry = none) : trace.filterMap f = [] :=
  List.filterMap_eq_nil_iff.mpr fun entry member => other entry (h entry member)

theorem TraceEntry.started_of_runs {entry : TraceEntry}
    (h : entry.activity?.isSome = true ∨ entry.isOperation = true) :
    entry.subscribed? = none ∧ entry.itemTaken? = none := by
  cases entry with
  | subscribed field | itemTaken index => rcases h with h | h <;> cases h
  | _ => exact ⟨rfl, rfl⟩

theorem TraceEntry.activity?_of_isOperation (entry : TraceEntry) (h : entry.isOperation = true) :
    entry.activity? = none := by
  cases entry <;> first | rfl | cases h

namespace Place

/-- Whether a field resolver is called for the position: it is that of a declared
field, and not of the one that is subscribed to. -/
def isResolved (place : Place) : Bool :=
  match place.content, place.path.getLast? with
  | .declared _ _, some (.field _) => 1 < place.path.length
  | _, _ => false

def resolvers (place : Place) : List Activity :=
  if place.isResolved then [.resolver place.path] else []

/-- What runs for the position itself. -/
def activities (place : Place) : List Activity :=
  place.resolvers ++ place.pendingTags.map (.pending place.path)

end Place

/-- The steps that lead on from what is built, in order: to the items of a list by
index, to the members of an object by the first field of their name that applies. -/
def Shape.steps (schema : Schema) (field : SelectedField) :
    Shape → List PathSegment
  | .list _ items => (List.range items.length).map .index
  | .object type _ =>
    (outputNames (applicable schema type.name field.subfields)).map .field
  | _ => []

namespace Engine

/-! ## Pre-order -/

/-- A position and all below it, in depth-first pre-order. -/
def listing (engine : Engine) (place : Place) : List Place :=
  place :: (engine.partsOf place).attach.flatMap fun part => engine.listing part.val.2
termination_by (SelectedField.heights place.field.subfields, place.depth)
decreasing_by exact (partOf_of_mem_partsOf part.property).smaller

/-- The positions of the response to an event, in depth-first pre-order. -/
def positions (engine : Engine) (subscription : Subscription) (event : Event) (context : Context) :
    List Place :=
  match engine.root? subscription event context with
  | none => []
  | some root => engine.listing root

/-- The steps that may be gone from a position. -/
def steps (engine : Engine) (place : Place) : List PathSegment :=
  match place.content with
  | .declared type resolved =>
    (engine.schema.shape place.field.name type resolved).steps engine.schema place.field
  | _ => []

variable {engine : Engine} {place : Place}

theorem listing_eq (engine : Engine) (place : Place) :
    engine.listing place =
      place :: (engine.partsOf place).flatMap fun part => engine.listing part.2 := by
  have all := congrArg (List.flatMap fun part => engine.listing part.2)
    (List.attach_map_subtype_val (engine.partsOf place))
  rw [List.flatMap_map] at all
  rw [listing, all]

theorem mem_listing_iff {other : Place} :
    other ∈ engine.listing place ↔ ∃ rest, engine.LiesAt place rest other := by
  induction place using engine.place_induction generalizing other with
  | step place below =>
    rw [listing_eq, List.mem_cons, List.mem_flatMap]
    constructor
    · rintro (rfl | ⟨part, member, later⟩)
      · exact ⟨[], .here other⟩
      · obtain ⟨rest, lies⟩ := (below part member).mp later
        exact ⟨part.1 :: rest, .part member lies⟩
    · rintro ⟨rest, lies⟩
      cases lies with
      | here => exact .inl rfl
      | part member lies => exact .inr ⟨_, member, (below _ member).mpr ⟨_, lies⟩⟩

theorem path_of_mem_listing {other : Place} (h : other ∈ engine.listing place) :
    place.path <+: other.path := by
  obtain ⟨rest, lies⟩ := mem_listing_iff.mp h
  exact ⟨rest, lies.path_eq.symm⟩

/-- No two positions have the same path. -/
theorem nodup_listing (engine : Engine) (place : Place) :
    ((engine.listing place).map Place.path).Nodup := by
  induction place using engine.place_induction with
  | step place below =>
    rw [listing_eq, List.map_cons, List.map_flatMap, List.nodup_cons, List.nodup_flatMap]
    have within {part : PathSegment × Place} (member : part ∈ engine.partsOf place) {path : Path}
        (h : path ∈ (engine.listing part.2).map Place.path) :
        place.path ++ [part.1] <+: path := by
      obtain ⟨other, later, rfl⟩ := List.mem_map.mp h
      rw [← path_of_mem_partsOf member]
      exact path_of_mem_listing later
    refine ⟨fun again => ?_, fun part member => below part member, ?_⟩
    · obtain ⟨part, member, again⟩ := List.mem_flatMap.mp again
      cases eq_nil_of_append_within (within member again)
    · have distinct := List.pairwise_map.mp (engine.nodup_partsOf place)
      refine distinct.imp_of_mem fun {a b} ha hb different path ha' hb' => ?_
      exact different (segment_eq_of_within (within ha ha') (within hb hb'))

/-! ## Steps -/

theorem steps_list (schema : Schema) (field : SelectedField) (itemType : TypeRef)
    (items : List FieldValue) :
    (Shape.list itemType items).steps schema field =
      items.zipIdx.map fun item => .index item.2 := by
  rw [Shape.steps, List.range_eq_range', ← List.zipIdx_map_snd 0 items, List.map_map]
  rfl

theorem steps_object (schema : Schema) (field : SelectedField) (object : TypeDefinition)
    (parent : Json) :
    (Shape.object object parent).steps schema field =
      (collectFields schema object.name field.subfields).map (.field ·.outputName) := by
  rw [Shape.steps, ← outputNames_collectFields, List.map_map]
  rfl

/-- The legs of a position are the turns of a traversal, if there are any: each goes
the step of an element, to a position that has a value if the element has one. -/
inductive Traverses (engine : Engine) (place : Place) : Prop
  | bare (legs : engine.legsOf place = []) (steps : engine.steps place = [])
  | inner {α β : Type} {f : α → Exec β} {items : List α} {segment : α → PathSegment}
      {leg : α × Context → Leg}
      (legs : engine.legsOf place = (Exec.turns f items place.context).map leg)
      (steps : engine.steps place = items.map segment)
      (segments : Leg.segment ∘ leg = segment ∘ Prod.fst)
      (values : ∀ turn, (engine.complete (leg turn).place).value? = none ↔
        (f turn.1 turn.2).value? = none)

theorem traverses (engine : Engine) (place : Place) : engine.Traverses place := by
  cases content : place.content with
  | typename object | undeclared object =>
    exact .bare (by rw [legsOf, content]) (by rw [Engine.steps, content])
  | declared type resolved =>
    have legs : engine.legsOf place = engine.legs place.field place.path place.context
        (engine.schema.shape place.field.name type resolved) := by
      rw [legsOf, content]
    have steps : engine.steps place =
        (engine.schema.shape place.field.name type resolved).steps engine.schema place.field := by
      rw [Engine.steps, content]
    cases shape : engine.schema.shape place.field.name type resolved with
    | failure cause | leaf data =>
      rw [shape] at legs steps
      exact .bare legs steps
    | list itemType items =>
      rw [shape] at legs steps
      rw [steps_list] at steps
      exact .inner legs steps rfl fun _ => Iff.rfl
    | object object parent =>
      rw [shape] at legs steps
      rw [steps_object] at steps
      refine .inner legs steps rfl fun turn => ?_
      rw [value?_answerField, Option.map_eq_none_iff]

theorem segments_eq (engine : Engine) (place : Place) :
    (engine.partsOf place).map Prod.fst = (engine.legsOf place).map Leg.segment := by
  rw [partsOf_eq, List.map_map]
  rfl

/-- The steps are gone in order. -/
theorem steps_initial (engine : Engine) (place : Place) :
    (engine.partsOf place).map Prod.fst <+: engine.steps place := by
  rw [segments_eq]
  cases engine.traverses place with
  | bare legs =>
    rw [legs]
    exact List.nil_prefix
  | @inner _ _ f items segment leg legs steps segments =>
    rw [legs, steps, List.map_map, segments, ← List.map_map]
    exact (Exec.turns_initial f items place.context).map segment

/-- All steps are gone, or the last one leads to a position without a value. -/
theorem steps_gone (engine : Engine) (place : Place) :
    (engine.partsOf place).map Prod.fst = engine.steps place ∨
      ∃ earlier part, engine.partsOf place = earlier ++ [part] ∧
        (engine.complete part.2).value? = none := by
  cases engine.traverses place with
  | bare legs steps =>
    rw [segments_eq, legs, steps]
    exact .inl rfl
  | @inner _ _ f items segment leg legs steps segments values =>
    rcases Exec.turns_eq_or_missing f items place.context with all | ⟨earlier, turn, met, missing⟩
    · rw [segments_eq, legs, steps, List.map_map, segments, ← List.map_map, all]
      exact .inl rfl
    · have parts := engine.partsOf_eq place
      rw [legs, met, List.map_append, List.map_append] at parts
      exact .inr ⟨_, _, parts, (values turn).mpr missing⟩

/-- A leg to a position without a value is the last. -/
theorem last_of_missing {leg : Leg} (h : leg ∈ engine.legsOf place)
    (missing : (engine.complete leg.place).value? = none) :
    ∃ earlier, engine.legsOf place = earlier ++ [leg] := by
  cases engine.traverses place with
  | bare legs =>
    rw [legs] at h
    cases h
  | inner legs steps segments values =>
    rw [legs] at h ⊢
    obtain ⟨turn, met, rfl⟩ := List.mem_map.mp h
    obtain ⟨earlier, later, split⟩ := List.append_of_mem met
    cases Exec.turns_of_missing split ((values turn).mp missing)
    exact ⟨_, by rw [split, List.map_append]; rfl⟩

/-! ## Where nothing more runs -/

/-- A position that excludes null has no value if one right below it has none. -/
theorem missing_of_part {part : PathSegment × Place} (member : part ∈ engine.partsOf place)
    (missing : (engine.complete part.2).value? = none) (excluded : place.nullable = false) :
    (engine.complete place).value? = none := by
  obtain ⟨field, path, content, context⟩ := place
  cases content with
  | typename object | undeclared object => cases member
  | declared type resolved =>
    have composed := composed_of_parts rfl (List.ne_nil_of_mem member)
    refine value?_completeField_eq_none.mpr ⟨excluded, .inl ?_⟩
    refine Option.eq_none_iff_forall_ne_some.mpr fun json built => ?_
    obtain ⟨value, out, -⟩ := composed.each json built part member
    cases missing.symm.trans out

/-- A missing value rises through positions that exclude null. -/
theorem missing_of_liesAt {failed : Place} {rest : Path} (lies : engine.LiesAt place rest failed)
    (missing : (engine.complete failed).value? = none)
    (excluded : ∀ start middle, engine.LiesAt place start middle → start <+: rest →
      middle.nullable = false) : (engine.complete place).value? = none := by
  induction lies with
  | here => exact missing
  | @part place next last segment rest member _ ih =>
    refine missing_of_part member (ih missing fun start middle lies within => ?_) ?_
    · exact excluded _ middle (.part member lies) ((List.prefix_cons_inj segment).mpr within)
    · exact excluded [] place (.here place) List.nil_prefix

/-- What runs at and below a position ends with what runs at and below one without a
value, unless null may stand at a position in between. -/
theorem ends_with_missing {failed : Place} {rest : Path}
    (lies : engine.LiesAt place rest failed) (missing : (engine.complete failed).value? = none)
    (excluded : ∀ start middle, engine.LiesAt place start middle → start ≠ [] → start <+: rest →
      middle.nullable = false) :
    engine.listing failed <:+ engine.listing place ∧
      (engine.complete failed).trace <:+ (engine.complete place).trace := by
  induction lies with
  | here => exact ⟨List.suffix_refl _, List.suffix_refl _⟩
  | @part place next last segment rest member lies ih =>
    have between : ∀ start middle, engine.LiesAt next start middle → start <+: rest →
        middle.nullable = false := fun start middle lies within =>
      excluded _ middle (.part member lies) (List.cons_ne_nil _ _)
        ((List.prefix_cons_inj segment).mpr within)
    obtain ⟨listed, ran⟩ := ih missing fun start middle lies _ => between start middle lies
    obtain ⟨leg, met, same⟩ := exists_leg_of_mem_partsOf member
    cases same
    -- the next position has no value either, so it is the last right below
    obtain ⟨earlier, legs⟩ := last_of_missing met (missing_of_liesAt lies missing between)
    constructor
    · refine listed.trans ?_
      rw [engine.listing_eq place, partsOf_eq, legs, List.map_append, List.flatMap_append,
        ← List.cons_append]
      simp
    · refine ran.trans ?_
      rw [engine.trace_complete place, legs, List.flatMap_append, List.flatMap_singleton,
        ← List.append_assoc, ← List.append_assoc]
      exact List.suffix_append _ _

/-- A value is missing because of an error that is recorded where there is nothing
below, and from there it rises through positions that exclude null. -/
theorem exists_origin (missing : (engine.complete place).value? = none) :
    ∃ rest last error, engine.LiesAt place rest last ∧
      (engine.complete last).value? = none ∧ engine.partsOf last = [] ∧
      error ∈ (engine.complete place).errors ∧ error.path = last.path ∧
      ∀ start middle, engine.LiesAt place start middle → start <+: rest →
        middle.nullable = false := by
  induction place using engine.place_induction with
  | step place below =>
    have excluded := nullable_of_missing missing
    by_cases bare : engine.partsOf place = []
    · obtain ⟨error, raised, -⟩ := (engine.accounted place).missing missing
      obtain ⟨rest, path, located⟩ := (engine.accounted place).located error raised
      obtain ⟨last, lies⟩ := located rest (List.prefix_refl _)
      cases lies with
      | part member =>
        rw [bare] at member
        cases member
      | here =>
        rw [List.append_nil] at path
        refine ⟨[], place, error, .here place, missing, bare, raised, path, ?_⟩
        intro start middle lies within
        cases List.prefix_nil.mp within
        cases lies
        exact excluded
    · obtain ⟨field, path, content, context⟩ := place
      cases content with
      | typename object | undeclared object => exact absurd rfl bare
      | declared type resolved =>
        have composed := composed_of_parts rfl bare
        have built := (value?_completeField_eq_none.mp missing).2.resolve_right composed.notNull
        obtain ⟨part, member, lost⟩ := composed.missing built
        obtain ⟨rest, last, error, lies, ends, bare', raised, path', between⟩ :=
          below part member lost
        refine ⟨part.1 :: rest, last, error, .part member lies, ends, bare', ?_, path', ?_⟩
        · exact mem_errors_of_part member raised
        · intro start middle lies' within
          cases lies' with
          | here => exact excluded
          | part member' later =>
            obtain ⟨rfl, inside⟩ := List.cons_prefix_cons.mp within
            cases partsOf_unique member' member
            exact between _ middle later inside

/-! ## What runs for which position -/

/-- What is noted before a position is completed: its field is resolved, or nothing. -/
inductive LeadsTo (place : Place) : Trace → Prop
  | nothing (bare : place.isResolved = false) : LeadsTo place []
  | call {typeName fieldName : String} {rest : Trace} (resolved : place.isResolved = true)
      (operations : ∀ entry ∈ rest, entry.isOperation = true) :
      LeadsTo place (.fieldResolved place.path typeName fieldName :: rest)

theorem leadsTo_item (field : SelectedField) (path : Path) (itemType : TypeRef)
    (value : FieldValue × Nat) (context : Context) :
    LeadsTo (item field path itemType value context) [] := by
  refine .nothing ?_
  unfold item Place.isResolved
  dsimp only
  rw [List.getLast?_concat]

theorem leadsTo_member (engine : Engine) (object : TypeDefinition) (parent : Json) {path : Path}
    (inner : path ≠ []) (field : SelectedField) (context : Context) :
    LeadsTo (engine.member object parent path field context)
      (engine.lead object parent path field context).1 := by
  unfold lead member content
  by_cases typename : field.name = typenameField
  · rw [if_pos typename, if_pos typename]
    exact .nothing rfl
  · rw [if_neg typename, if_neg typename]
    cases object.field? field.name with
    | none => exact .nothing rfl
    | some definition =>
      refine .call ?_ (Program.run_trace _ _)
      have long : 1 < (path ++ [PathSegment.field field.outputName]).length := by
        rw [List.length_append]
        exact Nat.succ_lt_succ (List.length_pos_iff.mpr inner)
      unfold Place.isResolved
      dsimp only
      rw [List.getLast?_concat]
      exact decide_eq_true long

theorem leadsTo_of_leg (inner : place.path ≠ []) {leg : Leg} (h : leg ∈ engine.legsOf place) :
    LeadsTo leg.place leg.noted := by
  unfold legsOf at h
  split at h
  · rename_i type resolved _
    cases shape : engine.schema.shape place.field.name type resolved with
    | failure cause | leaf data =>
      rw [shape] at h
      cases h
    | list itemType items =>
      rw [shape] at h
      obtain ⟨turn, -, rfl⟩ := List.mem_map.mp h
      exact leadsTo_item _ _ _ _ _
    | object object parent =>
      rw [shape] at h
      obtain ⟨turn, -, rfl⟩ := List.mem_map.mp h
      exact engine.leadsTo_member object parent inner turn.1 turn.2
  · cases h

theorem LeadsTo.activities {noted : Trace} (h : LeadsTo place noted) :
    noted.filterMap TraceEntry.activity? = place.resolvers := by
  unfold Place.resolvers
  cases h with
  | nothing bare =>
    rw [bare]
    rfl
  | call resolved operations =>
    rw [List.filterMap_cons_some (f := TraceEntry.activity?) rfl, resolved, if_pos rfl,
      filterMap_of_operations operations TraceEntry.activity?_of_isOperation]

theorem LeadsTo.runs {noted : Trace} (h : LeadsTo place noted) :
    ∀ entry ∈ noted, entry.activity?.isSome = true ∨ entry.isOperation = true := by
  cases h with
  | nothing bare => exact nofun
  | call resolved operations =>
    exact List.forall_mem_cons.mpr ⟨.inl rfl, fun entry member => .inr (operations entry member)⟩

theorem path_ne_nil_of_leg {leg : Leg} (h : leg ∈ engine.legsOf place) : leg.place.path ≠ [] := by
  rw [path_of_mem_partsOf (mem_partsOf_of_leg h)]
  exact List.append_ne_nil_of_right_ne_nil _ (List.cons_ne_nil _ _)

theorem activities_pendingAt (place : Place) :
    (pendingAt place).filterMap TraceEntry.activity? =
      place.pendingTags.map (Activity.pending place.path) := by
  rw [pendingAt, List.filterMap_map]
  exact congrFun List.filterMap_eq_map _

/-- What runs at and below a position runs for one position after another, in pre-order. -/
theorem activities_complete (engine : Engine) (place : Place) (inner : place.path ≠ []) :
    place.resolvers ++ (engine.complete place).trace.filterMap TraceEntry.activity? =
      (engine.listing place).flatMap Place.activities := by
  induction place using engine.place_induction with
  | step place below =>
    have legs : ∀ leg ∈ engine.legsOf place,
        (leg.noted ++ (engine.complete leg.place).trace).filterMap TraceEntry.activity? =
          (engine.listing leg.place).flatMap Place.activities := by
      intro leg met
      rw [List.filterMap_append, (leadsTo_of_leg inner met).activities]
      exact below _ (mem_partsOf_of_leg met) (path_ne_nil_of_leg met)
    rw [trace_complete, List.filterMap_append, activities_pendingAt, List.filterMap_flatMap,
      List.flatMap_congr legs, listing_eq, List.flatMap_cons, partsOf_eq, List.flatMap_map,
      List.flatMap_assoc, Place.activities, List.append_assoc]

/-- Everything that happens at and below a position runs for one, or is an operation. -/
theorem trace_complete_runs (engine : Engine) (place : Place) (inner : place.path ≠ []) :
    ∀ entry ∈ (engine.complete place).trace,
      entry.activity?.isSome = true ∨ entry.isOperation = true := by
  induction place using engine.place_induction with
  | step place below =>
    rw [trace_complete]
    refine List.forall_mem_append.mpr ⟨fun entry member => ?_, fun entry member => ?_⟩
    · obtain ⟨tag?, -, rfl⟩ := List.mem_map.mp member
      exact .inl rfl
    · obtain ⟨leg, met, member⟩ := List.mem_flatMap.mp member
      rcases List.mem_append.mp member with member | member
      · exact (leadsTo_of_leg inner met).runs entry member
      · exact below _ (mem_partsOf_of_leg met) (path_ne_nil_of_leg met) entry member

/-! ## Executions -/

theorem mem_positions_iff {subscription : Subscription} {event : Event} {context : Context} :
    place ∈ engine.positions subscription event context ↔
      engine.Visits subscription event context place := by
  unfold positions
  cases rooted : engine.root? subscription event context with
  | none =>
    refine ⟨nofun, ?_⟩
    rintro ⟨root, rest, found, -⟩
    cases rooted.symm.trans found
  | some root => exact mem_listing_iff.trans (visits_iff rooted).symm

section Execution

variable (engine : Engine) (subscription : Subscription) (event : Event) (context : Context)

/-- The last position around another that allows null. -/
structure NearestAround (inner place : Place) : Prop where
  visited : engine.Visits subscription event context place
  within : place.path <+: inner.path
  nullable : place.nullable = true
  last : ∀ other, engine.Visits subscription event context other → other.path <+: inner.path →
    other.nullable = true → other.path <+: place.path

/-- An execution resolves each position once at most and in order, and cuts off what
comes after a failed position up to where null may stand. -/
structure InOrder (execution : Execution) : Prop where
  /-- The subscription resolver is called once at most. -/
  subscribed : execution.trace.filterMap TraceEntry.subscribed? <+: [subscription.field.name]
  /-- Of the stream the first item is taken at most. -/
  taken : execution.trace.filterMap TraceEntry.itemTaken? <+: [0]
  distinct : ((engine.positions subscription event context).map Place.path).Nodup
  /-- No field resolver is called twice for one path. -/
  once : (execution.trace.filterMap TraceEntry.resolved?).Nodup
  /-- Field resolvers and pending values run for the positions of the response in pre-order. -/
  runs : execution.trace.filterMap TraceEntry.activity? =
    (engine.positions subscription event context).flatMap Place.activities
  /-- They are called for the positions of declared fields, all of them. -/
  resolved : execution.trace.filterMap TraceEntry.resolved? =
    ((engine.positions subscription event context).filter Place.isResolved).map Place.path
  /-- Members are in the order in which their fields first apply, and items by index. -/
  siblings : ∀ place ∈ engine.positions subscription event context,
    (engine.partsOf place).map Prod.fst <+: engine.steps place
  /-- All steps are gone, or all up to one that leads to a failed position of non-null type. -/
  resumes : ∀ place ∈ engine.positions subscription event context,
    (engine.partsOf place).map Prod.fst = engine.steps place ∨
      ∃ earlier failed, engine.partsOf place = earlier ++ [failed] ∧
        failed.2.nullable = false ∧ (engine.complete failed.2).value? = none
  /-- Where null may stand, all ends with the failed position below. -/
  cutOff : ∀ failed ∈ engine.positions subscription event context,
    (engine.complete failed).value? = none → ∀ place,
    engine.NearestAround subscription event context failed place →
      engine.listing failed <:+ engine.listing place ∧
        (engine.complete failed).trace <:+ (engine.complete place).trace
  /-- If null may not stand anywhere around, the whole execution ends with it. -/
  ended : ∀ failed ∈ engine.positions subscription event context,
    (engine.complete failed).value? = none →
    (¬ ∃ place, engine.NearestAround subscription event context failed place) →
      engine.listing failed <:+ engine.positions subscription event context ∧
        (engine.complete failed).trace <:+ execution.trace
  /-- The last position at or below a failed one is where an error is recorded. -/
  origin : ∀ failed ∈ engine.positions subscription event context,
    (engine.complete failed).value? = none →
    ∃ last error response, [last] <:+ engine.listing failed ∧ error.path = last.path ∧
      execution.result = .ok (some response) ∧ error ∈ response.errors

end Execution

variable {subscription : Subscription} {event : Event} {context : Context}

/-- Of two positions on one way the longer lies below the other. -/
theorem Visits.liesAt {inner : Place} (outer : engine.Visits subscription event context place)
    (visited : engine.Visits subscription event context inner)
    (within : place.path <+: inner.path) : ∃ rest, engine.LiesAt place rest inner := by
  obtain ⟨root, start, rooted, lies⟩ := outer
  obtain ⟨whole, lies'⟩ := (visits_iff rooted).mp visited
  obtain ⟨rest, rfl⟩ := (lies.prefix_iff lies').mp within
  exact ⟨rest, lies.after lies'⟩

theorem path_root? {root : Place}
    (rooted : engine.root? subscription event context = some root) : root.path.length = 1 := by
  obtain ⟨-, -, -, -, -, -, path, -⟩ := root?_eq_some rooted
  rw [path]
  rfl

theorem resolvers_root? {root : Place}
    (rooted : engine.root? subscription event context = some root) : root.resolvers = [] := by
  have short := path_root? rooted
  unfold Place.resolvers Place.isResolved
  rw [short]
  split <;> rfl

section Runs

variable {trace : Trace} {after : Context} {asked : List Operation}

/-- How an execution starts, and that nothing of the kind happens later. -/
theorem Runs.started (h : engine.Runs subscription event context trace after asked) :
    trace.filterMap TraceEntry.subscribed? <+: [subscription.field.name] ∧
      trace.filterMap TraceEntry.itemTaken? <+: [0] := by
  have quiet {trace : Trace}
      (runs : ∀ entry ∈ trace, entry.activity?.isSome = true ∨ entry.isOperation = true) :
      trace.filterMap TraceEntry.subscribed? = [] ∧ trace.filterMap TraceEntry.itemTaken? = [] :=
    ⟨List.filterMap_eq_nil_iff.mpr fun entry member =>
        (TraceEntry.started_of_runs (runs entry member)).1,
      List.filterMap_eq_nil_iff.mpr fun entry member =>
        (TraceEntry.started_of_runs (runs entry member)).2⟩
  cases h with
  | nothing => exact ⟨List.nil_prefix, List.nil_prefix⟩
  | subscribed _ performed =>
    have operations := performed ▸ context.performAll_trace asked
    obtain ⟨subscribed, taken⟩ := quiet fun entry member => .inr (operations entry member)
    rw [List.filterMap_cons_some (f := TraceEntry.subscribed?) rfl,
      List.filterMap_cons_none (f := TraceEntry.itemTaken?) rfl, subscribed, taken]
    exact ⟨List.prefix_refl _, List.nil_prefix⟩
  | @answered root early late asked rooted performed =>
    obtain ⟨before, between⟩ :=
      List.forall_mem_append.mp (performed ▸ context.performAll_trace asked)
    have inner : root.path ≠ [] := List.ne_nil_of_length_eq_add_one (path_root? rooted)
    obtain ⟨subscribed, taken⟩ := quiet fun entry member => .inr (before entry member)
    obtain ⟨subscribed', taken'⟩ := quiet fun entry member => .inr (between entry member)
    obtain ⟨subscribed'', taken''⟩ := quiet (engine.trace_complete_runs root inner)
    simp only [List.filterMap_cons, List.filterMap_append, TraceEntry.subscribed?,
      TraceEntry.itemTaken?, subscribed, taken, subscribed', taken', subscribed'', taken'']
    exact ⟨List.prefix_refl _, List.prefix_refl _⟩

theorem Runs.activities (h : engine.Runs subscription event context trace after asked) :
    trace.filterMap TraceEntry.activity? =
      (engine.positions subscription event context).flatMap Place.activities := by
  have plain {trace : Trace} (operations : ∀ entry ∈ trace, entry.isOperation = true) :
      trace.filterMap TraceEntry.activity? = [] :=
    filterMap_of_operations operations TraceEntry.activity?_of_isOperation
  unfold positions
  cases h with
  | nothing rootless =>
    rw [rootless]
    rfl
  | subscribed rootless performed =>
    rw [rootless, List.filterMap_cons_none rfl]
    exact plain (performed ▸ context.performAll_trace asked)
  | @answered root early late asked rooted performed =>
    obtain ⟨before, between⟩ :=
      List.forall_mem_append.mp (performed ▸ context.performAll_trace asked)
    have inner : root.path ≠ [] := List.ne_nil_of_length_eq_add_one (path_root? rooted)
    have all := engine.activities_complete root inner
    rw [resolvers_root? rooted, List.nil_append] at all
    rw [rooted, List.filterMap_cons_none rfl, List.filterMap_append, plain before,
      List.filterMap_cons_none rfl, List.filterMap_append, plain between]
    exact all

/-- An execution ends with the root of its response. -/
theorem Runs.ends_with_root (h : engine.Runs subscription event context trace after asked)
    {root : Place} (rooted : engine.root? subscription event context = some root) :
    (engine.complete root).trace <:+ trace := by
  cases h with
  | nothing rootless | subscribed rootless => cases rooted.symm.trans rootless
  | @answered _ early late _ rooted' =>
    cases rooted.symm.trans rooted'
    exact ⟨.subscribed subscription.field.name :: (early ++ .itemTaken 0 :: late), by simp⟩

end Runs

/-- Of all that runs for some positions, the resolvers run for those of declared fields. -/
theorem resolved_activities (places : List Place) :
    (places.flatMap Place.activities).filterMap Activity.resolved? =
      (places.filter Place.isResolved).map Place.path := by
  induction places with
  | nil => rfl
  | cons place rest ih =>
    have waits : (place.pendingTags.map (Activity.pending place.path)).filterMap
        Activity.resolved? = [] := by
      simp [Activity.resolved?]
    rw [List.flatMap_cons, List.filterMap_append, ih, Place.activities, List.filterMap_append,
      waits, List.append_nil, Place.resolvers]
    cases resolved : place.isResolved with
    | true => rw [List.filter_cons_of_pos resolved]; rfl
    | false => rw [List.filter_cons_of_neg (by simp [resolved])]; rfl

theorem resolved_execute (engine : Engine) (subscription : Subscription) (event : Event)
    (context : Context) :
    (engine.execute subscription event context).trace.filterMap TraceEntry.resolved? =
      ((engine.positions subscription event context).filter Place.isResolved).map Place.path := by
  rw [← resolved_activities, ← (engine.execute_runs subscription event context).activities,
    List.filterMap_filterMap]
  rfl

theorem nodup_positions (engine : Engine) (subscription : Subscription) (event : Event)
    (context : Context) : ((engine.positions subscription event context).map Place.path).Nodup := by
  unfold positions
  split
  · exact List.nodup_nil
  · exact engine.nodup_listing _

/-- As far as null may stand around a failed position, nothing runs after it. -/
theorem ends_with_failed {failed : Place} (missing : (engine.complete failed).value? = none)
    (visited : engine.Visits subscription event context failed)
    (nearest : engine.NearestAround subscription event context failed place) :
    engine.listing failed <:+ engine.listing place ∧
      (engine.complete failed).trace <:+ (engine.complete place).trace := by
  obtain ⟨rest, lies⟩ := nearest.visited.liesAt visited nearest.within
  refine ends_with_missing lies missing fun start middle lies' strict within => ?_
  rw [Bool.eq_false_iff]
  intro nullable
  have above : middle.path <+: failed.path := (lies'.prefix_iff lies).mpr within
  have last := nearest.last middle (nearest.visited.below lies') above nullable
  rw [lies'.path_eq] at last
  exact strict (eq_nil_of_append_within last)

/-- Where null may stand around a position, it may at a nearest one. -/
theorem exists_nearestAround {inner : Place}
    (visited : engine.Visits subscription event context place)
    (within : place.path <+: inner.path) (nullable : place.nullable = true) :
    ∃ nearest, engine.NearestAround subscription event context inner nearest := by
  obtain ⟨nearest, visited, within, nullable, last⟩ := visited.exists_last within nullable
  exact ⟨nearest, visited, within, nullable, last⟩

/-- If null may not stand anywhere around a failed position, nothing runs after it. -/
theorem execution_ends_with_failed {failed : Place}
    (missing : (engine.complete failed).value? = none)
    (visited : engine.Visits subscription event context failed)
    (exposed : ¬ ∃ place, engine.NearestAround subscription event context failed place) :
    engine.listing failed <:+ engine.positions subscription event context ∧
      (engine.complete failed).trace <:+
        (engine.execute subscription event context).trace := by
  obtain ⟨root, rest, rooted, lies⟩ := visited
  have first : engine.Visits subscription event context root := ⟨root, [], rooted, .here root⟩
  obtain ⟨listed, ran⟩ := ends_with_missing lies missing fun start middle lies' _ within => by
    rw [Bool.eq_false_iff]
    intro nullable
    have above : middle.path <+: failed.path := (lies'.prefix_iff lies).mpr within
    exact exposed (exists_nearestAround (first.below lies') above nullable)
  rw [positions, rooted]
  exact ⟨listed, ran.trans ((engine.execute_runs _ _ _).ends_with_root rooted)⟩

/-- All that runs at and below a failed position ends where an error is recorded. -/
theorem ends_with_error {failed : Place} (missing : (engine.complete failed).value? = none)
    (visited : engine.Visits subscription event context failed) :
    ∃ last error response, [last] <:+ engine.listing failed ∧ error.path = last.path ∧
      (engine.execute subscription event context).result = .ok (some response) ∧
      error ∈ response.errors := by
  obtain ⟨rest, last, error, lies, ends, bare, raised, path, excluded⟩ := exists_origin missing
  obtain ⟨root, start, rooted, above⟩ := visited
  obtain ⟨response, answered⟩ := exists_response_of_root? rooted
  obtain ⟨root', rooted', -, errors⟩ := execute_eq_ok answered
  cases rooted.symm.trans rooted'
  obtain ⟨listed, -⟩ := ends_with_missing lies ends fun start middle lies' _ within =>
    excluded start middle lies' within
  rw [listing_eq, bare] at listed
  exact ⟨last, error, response, listed, path, answered, errors ▸ above.mem_errors raised⟩

/-- Every execution resolves the positions of its response in order, and nothing
below a position where null may stand after one that failed there. -/
theorem execute_inOrder (engine : Engine) (subscription : Subscription) (event : Event)
    (context : Context) :
    engine.InOrder subscription event context (engine.execute subscription event context) := by
  have runs := engine.execute_runs subscription event context
  obtain ⟨subscribed, taken⟩ := runs.started
  have distinct := engine.nodup_positions subscription event context
  constructor
  case subscribed => exact subscribed
  case taken => exact taken
  case distinct => exact distinct
  case once =>
    rw [resolved_execute]
    exact distinct.sublist (List.filter_sublist.map Place.path)
  case runs => exact runs.activities
  case resolved => exact engine.resolved_execute subscription event context
  case siblings => exact fun place _ => engine.steps_initial place
  case resumes =>
    intro place _
    refine (engine.steps_gone place).imp_right ?_
    rintro ⟨earlier, failed, parts, missing⟩
    exact ⟨earlier, failed, parts, nullable_of_missing missing, missing⟩
  case cutOff =>
    intro failed visited missing place nearest
    exact ends_with_failed missing (mem_positions_iff.mp visited) nearest
  case ended =>
    intro failed visited missing exposed
    exact execution_ends_with_failed missing (mem_positions_iff.mp visited) exposed
  case origin =>
    intro failed visited missing
    exact ends_with_error missing (mem_positions_iff.mp visited)

end Engine

end WebhookPayload
