import WebhookPayload.Proofs.Positions
import WebhookPayload.Proofs.Shop

/-! # Errors and nulls explain each other

An error leaves its position without a value, and the null for it rises to the
nearest position around that allows one. `Engine.Accounted` relates the errors
and the value of any outcome at a position in this way. It is kept by each way in
which a position is completed, so it holds of every position
(`Engine.accounted`), and `execute_explained` says it of the whole response. -/

namespace WebhookPayload

open GraphQL

/-! ## Paths -/

/-- Paths with different next steps have nothing below in common. -/
theorem segment_eq_of_within {base path : Path} {a b : PathSegment} (ha : base ++ [a] <+: path)
    (hb : base ++ [b] <+: path) : a = b := by
  have nested := List.prefix_of_prefix_length_le ha hb (by simp)
  have same := nested.eq_of_length (by simp)
  exact List.singleton_inj.mp (List.append_cancel_left same)

theorem eq_nil_of_append_within {base rest : Path} (h : base ++ rest <+: base) : rest = [] := by
  have short := h.length_le
  rw [List.length_append] at short
  exact List.eq_nil_of_length_eq_zero (by omega)

/-- Of the prefixes with a property, if there are any, one is the longest. -/
theorem exists_longest {P : Path → Prop} {path start : Path} (h : start <+: path)
    (holds : P start) :
    ∃ longest, longest <+: path ∧ P longest ∧ ∀ other, other <+: path → P other →
      other <+: longest := by
  induction path using List.reverseRecOn with
  | nil =>
    rw [List.prefix_nil.mp h] at holds
    exact ⟨[], List.prefix_refl _, holds, fun _ below _ => below⟩
  | append_singleton path segment ih =>
    by_cases whole : P (path ++ [segment])
    · exact ⟨_, List.prefix_refl _, whole, fun _ below _ => below⟩
    · have shorter : ∀ other, other <+: path ++ [segment] → P other → other <+: path := by
        intro other below held
        rcases List.prefix_concat_iff.mp below with rfl | below
        · exact absurd held whole
        · exact below
      obtain ⟨longest, below, held, greatest⟩ := ih (shorter start h holds)
      exact ⟨longest, below.trans (List.prefix_append _ _), held,
        fun other within held => greatest other (shorter other within held) held⟩

namespace Engine

/-- The value resolved for a position is itself null: a plain null, or the null
that the data of a leaf are. -/
def ResolvedNull (engine : Engine) (place : Place) : Prop :=
  ∃ type resolved, place.content = .declared type resolved ∧
    (resolved.settle = .ok (.json .null) ∨
      engine.schema.HasLeaf type ∧ resolved.data? = some .null)

/-- No position strictly below allows a null on the way to an error. -/
def Rises (engine : Engine) (place : Place) (error : ExecutionError) : Prop :=
  ∀ rest below, engine.LiesAt place rest below → rest ≠ [] → below.path <+: error.path →
    below.nullable = false

/-- The errors of an outcome at a position account for the nulls in it, and the other way round. -/
structure Accounted (engine : Engine) (place : Place) (outcome : Outcome Json) : Prop where
  /-- A path in the value leads to a position, or into the value of one without parts. -/
  covered : ∀ json, outcome.value? = some json → ∀ rest found, json.at? rest = some found →
    ∃ start below, engine.LiesAt place start below ∧ start <+: rest ∧
      (start = rest ∨ engine.partsOf below = [])
  /-- Errors are at positions. -/
  located : ∀ error ∈ outcome.errors, ∃ rest, error.path = place.path ++ rest ∧
    ∀ start, start <+: rest → ∃ below, engine.LiesAt place start below
  apart : outcome.errors.Pairwise fun a b => ¬ a.path <+: b.path ∧ ¬ b.path <+: a.path
  missing : outcome.value? = none →
    ∃ error ∈ outcome.errors, place.path <+: error.path ∧ engine.Rises place error
  /-- Each error is under a null that is allowed. -/
  nulled : ∀ json, outcome.value? = some json → ∀ error ∈ outcome.errors, ∃ rest below,
    engine.LiesAt place rest below ∧ below.path <+: error.path ∧ below.nullable = true ∧
      json.at? rest = some .null
  /-- Each null that was not resolved is there for an error. -/
  explained : ∀ json, outcome.value? = some json → ∀ rest below,
    engine.LiesAt place rest below → json.at? rest = some .null → ¬ engine.ResolvedNull below →
    ∃ error ∈ outcome.errors, below.path <+: error.path ∧ engine.Rises below error

variable {engine : Engine} {place : Place} {outcome base : Outcome Json}

/-- An error at the position itself. -/
theorem accounted_of_failure {error : ExecutionError} (missing : outcome.value? = none)
    (errors : outcome.errors = [error]) (path : error.path = place.path) :
    engine.Accounted place outcome where
  covered := by
    intro json h
    rw [missing] at h
    cases h
  located := by
    rw [errors]
    intro e member
    cases List.mem_singleton.mp member
    refine ⟨[], by rw [path, List.append_nil], fun start h => ?_⟩
    cases List.prefix_nil.mp h
    exact ⟨place, .here place⟩
  apart := by
    rw [errors]
    exact List.pairwise_singleton _ _
  missing _ := by
    refine ⟨error, ?_, path ▸ List.prefix_refl _, ?_⟩
    · rw [errors]
      exact List.mem_singleton_self _
    · intro rest below lies strict within
      rw [lies.path_eq, path] at within
      exact absurd (eq_nil_of_append_within within) strict
  nulled := by
    intro json h
    rw [missing] at h
    cases h
  explained := by
    intro json h
    rw [missing] at h
    cases h

/-- A value that is not looked into. -/
theorem accounted_of_kept {data : Json} (value : outcome.value? = some data)
    (errors : outcome.errors = []) (bare : engine.partsOf place = [])
    (resolved : data = .null → engine.ResolvedNull place) : engine.Accounted place outcome where
  covered _ _ _ _ _ := ⟨[], place, .here place, List.nil_prefix, .inr bare⟩
  located := by
    rw [errors]
    nofun
  apart := by
    rw [errors]
    exact .nil
  missing h := by
    rw [value] at h
    cases h
  nulled := by
    rw [errors]
    nofun
  explained := by
    intro json h rest below lies null unresolved
    cases value.symm.trans h
    cases lies with
    | here =>
      cases null
      exact absurd (resolved rfl) unresolved
    | part member =>
      rw [bare] at member
      cases member

/-- The errors below one part rise from there on as they do from the part. -/
theorem Rises.of_part {part : PathSegment × Place} {error : ExecutionError}
    (member : part ∈ engine.partsOf place) (within : part.2.path <+: error.path)
    (excluded : part.2.nullable = false) (h : engine.Rises part.2 error) :
    engine.Rises place error := by
  intro rest below lies strict above
  cases lies with
  | here => exact absurd rfl strict
  | @part _ next _ segment rest member' lies =>
    have here : place.path ++ [segment] <+: error.path := by
      rw [lies.path_eq, path_of_mem_partsOf member'] at above
      exact (List.prefix_append _ _).trans above
    have there : place.path ++ [part.1] <+: error.path := by
      rw [path_of_mem_partsOf member] at within
      exact within
    -- both are on the way to the error, so it is the same part
    cases segment_eq_of_within here there
    cases partsOf_unique member' member
    cases rest with
    | nil =>
      cases lies
      exact excluded
    | cons segment rest => exact h _ below lies (List.cons_ne_nil _ _) above

/-- A position has no value only if it excludes null. -/
theorem nullable_of_missing (h : (engine.complete place).value? = none) :
    place.nullable = false := by
  unfold complete at h
  unfold Place.nullable
  cases shown : place.content with
  | typename object => rfl
  | undeclared object =>
    rw [shown] at h
    cases h
  | declared type resolved =>
    rw [shown] at h
    exact (value?_completeField_eq_none.mp h).1

/-- An error of a part is on the way that the part is on. -/
theorem Accounted.within_part {part : PathSegment × Place} {error : ExecutionError}
    (h : engine.Accounted part.2 outcome) (member : part ∈ engine.partsOf place)
    (raised : error ∈ outcome.errors) : place.path ++ [part.1] <+: error.path := by
  obtain ⟨rest, path, -⟩ := h.located error raised
  rw [path, path_of_mem_partsOf member]
  exact List.prefix_append _ _

/-- A list or an object, whose errors and nulls are those of its parts. -/
theorem accounted_of_composed (composed : engine.Composed (engine.partsOf place) outcome)
    (parts : ∀ part ∈ engine.partsOf place,
      engine.Accounted part.2 (engine.complete part.2)) : engine.Accounted place outcome where
  covered := by
    intro json h rest found held
    cases rest with
    | nil => exact ⟨[], place, .here place, List.nil_prefix, .inl rfl⟩
    | cons segment rest =>
      obtain ⟨value, step, held⟩ := Option.bind_eq_some_iff.mp held
      obtain ⟨next, present, out⟩ := composed.all json h segment value step
      obtain ⟨start, below, lies, within, reached⟩ :=
        (parts _ present).covered value out rest found held
      refine ⟨segment :: start, below, .part present lies, ?_, ?_⟩
      · exact (List.prefix_cons_inj segment).mpr within
      · exact reached.imp_left (congrArg _)
  located := by
    rw [composed.errors]
    intro error member
    obtain ⟨part, present, raised⟩ := List.mem_flatMap.mp member
    obtain ⟨rest, path, located⟩ := (parts part present).located error raised
    refine ⟨part.1 :: rest, ?_, fun start h => ?_⟩
    · rw [path, path_of_mem_partsOf present, List.append_assoc, List.singleton_append]
    · rcases List.prefix_cons_iff.mp h with rfl | ⟨later, rfl, within⟩
      · exact ⟨place, .here place⟩
      · obtain ⟨below, lies⟩ := located later within
        exact ⟨below, .part present lies⟩
  apart := by
    rw [composed.errors, List.pairwise_flatMap]
    refine ⟨fun part present => (parts part present).apart, ?_⟩
    have distinct := List.pairwise_map.mp (engine.nodup_partsOf place)
    refine distinct.imp_of_mem fun {a b} ha hb different x hx y hy => ?_
    have hx := (parts a ha).within_part ha hx
    have hy := (parts b hb).within_part hb hy
    exact ⟨fun h => different (segment_eq_of_within (hx.trans h) hy),
      fun h => different (segment_eq_of_within hx (hy.trans h))⟩
  missing h := by
    obtain ⟨part, present, missing⟩ := composed.missing h
    obtain ⟨error, raised, within, rises⟩ := (parts part present).missing missing
    have here := (parts part present).within_part present raised
    refine ⟨error, ?_, (List.prefix_append _ _).trans here,
      rises.of_part present within (nullable_of_missing missing)⟩
    rw [composed.errors]
    exact List.mem_flatMap.mpr ⟨part, present, raised⟩
  nulled := by
    rw [composed.errors]
    intro json h error member
    obtain ⟨part, present, raised⟩ := List.mem_flatMap.mp member
    obtain ⟨value, out, step⟩ := composed.each json h part present
    obtain ⟨rest, below, lies, within, nullable, null⟩ :=
      (parts part present).nulled value out error raised
    refine ⟨part.1 :: rest, below, .part present lies, within, nullable, ?_⟩
    rw [Json.at?, step]
    exact null
  explained := by
    intro json h rest below lies null unresolved
    cases lies with
    | here =>
      cases null
      exact absurd h composed.notNull
    | @part _ next _ segment rest present lies =>
      obtain ⟨value, out, step⟩ := composed.each json h _ present
      rw [Json.at?, step] at null
      obtain ⟨error, raised, within, rises⟩ :=
        (parts _ present).explained value out rest below lies null unresolved
      refine ⟨error, ?_, within, rises⟩
      rw [composed.errors]
      exact List.mem_flatMap.mpr ⟨_, present, raised⟩

/-- Only the value and the errors matter. -/
theorem Accounted.congr (h : engine.Accounted place base) (value : outcome.value? = base.value?)
    (errors : outcome.errors = base.errors) : engine.Accounted place outcome := by
  obtain ⟨covered, located, apart, missing, nulled, explained⟩ := h
  rw [← errors] at located apart missing nulled explained
  rw [← value] at covered missing nulled explained
  exact ⟨covered, located, apart, missing, nulled, explained⟩

/-- At a position that allows null, a missing value becomes null. -/
theorem Accounted.allow (h : engine.Accounted place base) (nullable : place.nullable = true)
    (value : outcome.value? = some (base.value?.getD .null))
    (errors : outcome.errors = base.errors) : engine.Accounted place outcome := by
  cases built : base.value? with
  | some found =>
    rw [built] at value
    exact h.congr (value.trans built.symm) errors
  | none =>
    rw [built] at value
    constructor
    case covered =>
      intro json same rest found held
      cases value.symm.trans same
      obtain ⟨rfl, -⟩ := Json.at?_null held
      exact ⟨[], place, .here place, List.nil_prefix, .inl rfl⟩
    case located =>
      rw [errors]
      exact h.located
    case apart =>
      rw [errors]
      exact h.apart
    case missing =>
      intro missing
      rw [value] at missing
      cases missing
    case nulled =>
      rw [errors]
      intro json same error raised
      cases value.symm.trans same
      obtain ⟨rest, path, -⟩ := h.located error raised
      refine ⟨[], place, .here place, ?_, nullable, rfl⟩
      rw [path]
      exact List.prefix_append _ _
    case explained =>
      rw [errors]
      intro json same rest below lies null unresolved
      cases value.symm.trans same
      obtain ⟨rfl, -⟩ := Json.at?_null null
      cases lies
      exact h.missing built

/-- At a position that excludes null, a null becomes an error of its own. -/
theorem Accounted.exclude (h : engine.Accounted place base) {error : ExecutionError}
    (path : error.path = place.path) (clean : base.value? = some .null → base.errors = [])
    (value : outcome.value? = base.value?.filter fun json => !json.isNull)
    (errors : outcome.errors =
      base.errors ++ if base.value? = some .null then [error] else []) :
    engine.Accounted place outcome := by
  by_cases null : base.value? = some .null
  · -- the new error is at the position itself, where nothing was wrong so far
    rw [null] at value
    rw [if_pos null, clean null] at errors
    exact accounted_of_failure value errors path
  · rw [if_neg null, List.append_nil] at errors
    refine h.congr (value.trans ?_) errors
    cases built : base.value? with
    | none => rfl
    | some json =>
      rw [built] at null
      cases json <;> first | rfl | exact absurd rfl null

/-- What is built of a resolved value is accounted for, if everything below it is. -/
theorem accounted_of_taken {type : TypeRef} {resolved : Resolved}
    (content : place.content = .declared type resolved) {shape : Shape}
    (taken : engine.schema.Takes type resolved shape)
    (partsOf : engine.partsOf place = engine.parts place.field place.path place.context shape)
    (parts : ∀ part ∈ engine.partsOf place,
      engine.Accounted part.2 (engine.complete part.2)) :
    engine.Accounted place (engine.build place.field place.path shape place.context) := by
  cases taken with
  | failure => exact accounted_of_failure rfl rfl rfl
  | null plain => exact accounted_of_kept rfl rfl partsOf fun _ => ⟨_, _, content, .inl plain⟩
  | leaf leaf kept =>
    exact accounted_of_kept rfl rfl partsOf fun null => ⟨_, _, content, .inr ⟨leaf, null ▸ kept⟩⟩
  | list =>
    refine accounted_of_composed ?_ parts
    rw [partsOf]
    exact engine.composed_list _ _ _ _ _
  | object =>
    refine accounted_of_composed ?_ parts
    rw [partsOf]
    exact engine.composed_object _ _ _ _ _

/-- Nothing is wrong where a null is built. -/
theorem errors_of_built_null {field : SelectedField} {path : Path} {context : Context}
    {shape : Shape} (h : (engine.build field path shape context).value? = some .null) :
    (engine.build field path shape context).errors = [] := by
  cases shape with
  | failure cause => cases h
  | leaf data => rfl
  | list itemType items =>
    exact absurd h (engine.composed_list field path context itemType items).notNull
  | object object parent =>
    exact absurd h (engine.composed_object field path context object parent).notNull

/-- At every position the errors account for the nulls, and the other way round. -/
theorem accounted (engine : Engine) (place : Place) :
    engine.Accounted place (engine.complete place) := by
  induction place using engine.place_induction with
  | step place parts =>
    obtain ⟨field, path, content, context⟩ := place
    cases content with
    | typename object => exact accounted_of_kept rfl rfl rfl fun null => by cases null
    | undeclared object =>
      let error := field.errorAt path (.undeclaredField field.name object)
      have failed : engine.Accounted ⟨field, path, .undeclared object, context⟩
          (Exec.fail error context) := accounted_of_failure rfl rfl rfl
      exact failed.allow rfl rfl rfl
    | declared type resolved =>
      have taken := engine.schema.takes_shape field.name type resolved
      have built := accounted_of_taken rfl taken rfl parts
      have value := engine.value?_completeField type field path resolved context
      have errors := engine.errors_completeField type field path resolved context
      cases nullable : type.nullable with
      | true =>
        rw [nullable, if_pos rfl] at value
        rw [nullable, if_neg (by simp), List.append_nil] at errors
        exact built.allow nullable value errors
      | false =>
        -- a null is built without errors, so the one for it is alone
        rw [nullable, if_neg Bool.false_ne_true] at value
        simp only [nullable, true_and] at errors
        exact built.exclude rfl errors_of_built_null value errors

/-! ## The response -/

section Response

variable (engine : Engine) (subscription : Subscription) (event : Event) (context : Context)

/-- The last position on the way to an error, its own included, that allows null. -/
structure Nearest (error : ExecutionError) (place : Place) : Prop where
  visited : engine.Visits subscription event context place
  within : place.path <+: error.path
  nullable : place.nullable = true
  last : ∀ other, engine.Visits subscription event context other → other.path <+: error.path →
    other.nullable = true → other.path <+: place.path

/-- The errors of a response and the nulls in its data explain each other. -/
structure Explains (response : Response) : Prop where
  /-- A path in the data leads to a position, or into the value of one without parts. -/
  covered : ∀ path found, path ≠ [] → response.at? path = some found →
    ∃ place, engine.Visits subscription event context place ∧ place.path <+: path ∧
      (place.path = path ∨ engine.partsOf place = [])
  /-- All of an error's path consists of positions. -/
  located : ∀ error ∈ response.errors, error.path ≠ [] ∧ ∀ path, path ≠ [] →
    path <+: error.path → ∃ place, engine.Visits subscription event context place ∧
      place.path = path
  /-- A failure is recorded once, and not again further up. -/
  apart : response.errors.Pairwise fun a b => ¬ a.path <+: b.path ∧ ¬ b.path <+: a.path
  /-- The null for an error is at the nearest position that allows it, or was lifted further. -/
  nulled : ∀ error ∈ response.errors, ∀ place,
    engine.Nearest subscription event context error place → response.data? = none ∨
      ∃ path, path <+: place.path ∧ response.at? path = some .null
  absent : ∀ error ∈ response.errors,
    (¬ ∃ place, engine.Nearest subscription event context error place) → response.data? = none
  /-- Data are absent only for an error below which nothing allows null. -/
  missing : response.data? = none → ∃ error ∈ response.errors, ∀ place,
    engine.Visits subscription event context place → place.path <+: error.path →
      place.nullable = false
  /-- A null that was not resolved is there for an error from which it was lifted. -/
  explained : ∀ place, engine.Visits subscription event context place →
    response.at? place.path = some .null → ¬ engine.ResolvedNull place →
    ∃ error ∈ response.errors, place.path <+: error.path ∧ ∀ below,
      engine.Visits subscription event context below → place.path <+: below.path →
        below.path ≠ place.path → below.path <+: error.path → below.nullable = false

end Response

variable {subscription : Subscription} {event : Event} {context : Context} {response : Response}

theorem visits_iff {root : Place} (rooted : engine.root? subscription event context = some root) :
    engine.Visits subscription event context place ↔ ∃ rest, engine.LiesAt root rest place := by
  constructor
  · rintro ⟨other, rest, rooted', lies⟩
    cases rooted.symm.trans rooted'
    exact ⟨rest, lies⟩
  · rintro ⟨rest, lies⟩
    exact ⟨root, rest, rooted, lies⟩

/-- Following a path in the data goes on in what is completed at the root. -/
theorem at?_cons_eq_some {name : String} {value? : Option Json}
    (data : response.data? = value?.map fun json => [(name, json)]) {segment : PathSegment}
    {rest : Path} {found : Json} :
    response.at? (segment :: rest) = some found ↔
      segment = .field name ∧ ∃ json, value? = some json ∧ json.at? rest = some found := by
  rw [Response.at?, data]
  cases value? with
  | none => simp
  | some json =>
    cases segment with
    | index i => simp [Json.at?, Json.step?]
    | field other =>
      by_cases same : other = name
      · simp [Json.at?, Json.step?, Members.get?, same]
      · simp [Json.at?, Json.step?, Members.get?, List.lookup_cons, same, beq_false_of_ne same]

/-- Where null may stand at some position on a path, it may at a last one. -/
theorem Visits.exists_last {path : Path}
    (visited : engine.Visits subscription event context place) (within : place.path <+: path)
    (nullable : place.nullable = true) :
    ∃ nearest, engine.Visits subscription event context nearest ∧ nearest.path <+: path ∧
      nearest.nullable = true ∧ ∀ other, engine.Visits subscription event context other →
        other.path <+: path → other.nullable = true → other.path <+: nearest.path := by
  obtain ⟨_, below, ⟨nearest, visited, rfl, nullable⟩, last⟩ :=
    exists_longest
      (P := fun path => ∃ place, engine.Visits subscription event context place ∧
        place.path = path ∧ place.nullable = true)
      within ⟨place, visited, rfl, nullable⟩
  exact ⟨nearest, visited, below, nullable,
    fun other visited within nullable => last _ within ⟨other, visited, rfl, nullable⟩⟩

/-- The nearest position that allows null is there as soon as any is. -/
theorem exists_nearest {error : ExecutionError}
    (visited : engine.Visits subscription event context place)
    (within : place.path <+: error.path) (nullable : place.nullable = true) :
    ∃ nearest, engine.Nearest subscription event context error nearest := by
  obtain ⟨nearest, visited, within, nullable, last⟩ := visited.exists_last within nullable
  exact ⟨nearest, visited, within, nullable, last⟩

/-- The path of a position below the root starts with the subscribed field. -/
theorem path_of_liesAt_root {root : Place} {rest : Path}
    (rooted : engine.root? subscription event context = some root)
    (lies : engine.LiesAt root rest place) :
    place.path = .field subscription.field.outputName :: rest := by
  obtain ⟨-, -, -, -, -, -, path, -⟩ := root?_eq_some rooted
  rw [lies.path_eq, path, List.singleton_append]

/-- What rises from below a position passes every position further down. -/
theorem Rises.excluded {root : Place} {rest : Path} {error : ExecutionError}
    (rises : engine.Rises place error)
    (rooted : engine.root? subscription event context = some root)
    (lies : engine.LiesAt root rest place) :
    ∀ below, engine.Visits subscription event context below → place.path <+: below.path →
      below.path ≠ place.path → below.path <+: error.path → below.nullable = false := by
  intro below visited further strict above
  obtain ⟨deeper, lies'⟩ := (visits_iff rooted).mp visited
  obtain ⟨more, rfl⟩ := (lies.prefix_iff lies').mp further
  have later := lies.after lies'
  refine rises more below later ?_ above
  rintro rfl
  cases later
  exact strict rfl

/-- In every response, whatever the query, the resolvers and the event are, errors
and nulls explain each other. -/
theorem execute_explains
    (h : (engine.execute subscription event context).result = .ok (some response)) :
    engine.Explains subscription event context response := by
  obtain ⟨root, rooted, data, errors⟩ := execute_eq_ok h
  have account := engine.accounted root
  have visits {place : Place} : engine.Visits subscription event context place ↔
      ∃ rest, engine.LiesAt root rest place := visits_iff rooted
  have lifted : ∀ json, (engine.complete root).value? = some json → ∀ error ∈ response.errors,
      ∃ place, engine.Visits subscription event context place ∧ place.path <+: error.path ∧
        place.nullable = true ∧ response.at? place.path = some .null := by
    intro json out error raised
    rw [errors] at raised
    obtain ⟨rest, place, lies, within, nullable, null⟩ := account.nulled json out error raised
    refine ⟨place, visits.mpr ⟨rest, lies⟩, within, nullable, ?_⟩
    rw [path_of_liesAt_root rooted lies, at?_cons_eq_some data]
    exact ⟨rfl, json, out, null⟩
  constructor
  case covered =>
    intro whole found nonempty held
    cases whole with
    | nil => exact absurd rfl nonempty
    | cons segment rest =>
      obtain ⟨rfl, json, out, held⟩ := (at?_cons_eq_some data).mp held
      obtain ⟨start, below, lies, within, reached⟩ := account.covered json out rest found held
      rw [← List.prefix_cons_inj, ← path_of_liesAt_root rooted lies] at within
      refine ⟨below, visits.mpr ⟨start, lies⟩, within, reached.imp_left ?_⟩
      rintro rfl
      exact path_of_liesAt_root rooted lies
  case located =>
    rw [errors]
    intro error raised
    obtain ⟨rest, path, located⟩ := account.located error raised
    rw [path_of_liesAt_root rooted (.here root), List.singleton_append] at path
    rw [path]
    refine ⟨List.cons_ne_nil _ _, fun start nonempty within => ?_⟩
    rcases List.prefix_cons_iff.mp within with rfl | ⟨later, rfl, inner⟩
    · exact absurd rfl nonempty
    · obtain ⟨below, lies⟩ := located later inner
      exact ⟨below, visits.mpr ⟨later, lies⟩, path_of_liesAt_root rooted lies⟩
  case apart =>
    rw [errors]
    exact account.apart
  case nulled =>
    intro error raised nearest last
    cases out : (engine.complete root).value? with
    | none =>
      rw [out] at data
      exact .inl data
    | some json =>
      obtain ⟨place, visited, within, nullable, null⟩ := lifted json out error raised
      exact .inr ⟨place.path, last.last place visited within nullable, null⟩
  case absent =>
    intro error raised none
    cases out : (engine.complete root).value? with
    | none =>
      rw [out] at data
      exact data
    | some json =>
      obtain ⟨place, visited, within, nullable, -⟩ := lifted json out error raised
      exact absurd (exists_nearest visited within nullable) none
  case missing =>
    intro absent
    rw [data, Option.map_eq_none_iff] at absent
    obtain ⟨error, raised, -, rises⟩ := account.missing absent
    refine ⟨error, errors ▸ raised, fun place visited within => ?_⟩
    obtain ⟨rest, lies⟩ := visits.mp visited
    cases rest with
    | nil =>
      cases lies
      exact nullable_of_missing absent
    | cons segment rest => exact rises _ place lies (List.cons_ne_nil _ _) within
  case explained =>
    intro place visited null unresolved
    obtain ⟨rest, lies⟩ := visits.mp visited
    rw [path_of_liesAt_root rooted lies, at?_cons_eq_some data] at null
    obtain ⟨-, json, out, null⟩ := null
    obtain ⟨error, raised, within, rises⟩ :=
      account.explained json out rest place lies null unresolved
    exact ⟨error, errors ▸ raised, within, rises.excluded rooted lies⟩

end Engine

theorem execute_explains_on_created :
    (Shop.engine.execute Shop.subscription Shop.created Shop.context).result =
        .ok (some Shop.response) ∧
      Shop.engine.Explains Shop.subscription Shop.created Shop.context Shop.response :=
  have executed : (Shop.engine.execute Shop.subscription Shop.created Shop.context).result =
      .ok (some Shop.response) := by cbv
  ⟨executed, Engine.execute_explains executed⟩

end WebhookPayload
