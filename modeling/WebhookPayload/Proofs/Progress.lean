import WebhookPayload.Payload
import WebhookPayload.Proofs.Answerable
import WebhookPayload.Proofs.Shop
import WebhookPayload.Proofs.Sources
import WebhookPayload.Proofs.Validity

/-! # What validation accepts, execution can run

Execution finds all that it needs in the schema: at every position it comes to,
the selected field is declared and its type is defined (`Engine.Sound`). This
holds of the root by validation and is kept from each position to those below,
as long as selections that are merged there select fields of one name. -/

namespace WebhookPayload

open GraphQL

/-- Selections that are answered together on objects of a type are of one field. -/
def NamesAgree (schema : Schema) (typeName : String) (fields : List SelectedField) : Prop :=
  ∀ a ∈ applicable schema typeName fields, ∀ b ∈ applicable schema typeName fields,
    a.outputName = b.outputName → a.name = b.name

/-- A collected field has the subfields of the selections that it stands for. All
of them are of its name. -/
theorem exists_merged {schema : Schema} {typeName : String} {fields : List SelectedField}
    {field : SelectedField} (agree : NamesAgree schema typeName fields)
    (collected : field ∈ collectFields schema typeName fields) :
    ∃ merged, merged ≠ [] ∧ field.subfields = merged.flatMap SelectedField.subfields ∧
      ∀ each ∈ merged, each ∈ fields ∧ each.applies schema typeName = true ∧
        each.name = field.name := by
  obtain ⟨first, found, same⟩ := exists_first_of_mem collected
  have applies := List.mem_of_find?_eq_some found
  have output : first.outputName = field.outputName := by simpa using List.find?_some found
  refine ⟨_, ?_, congrArg SelectedField.subfields same, ?_⟩
  · exact List.ne_nil_of_mem (List.mem_filter.mpr ⟨applies, decide_eq_true output⟩)
  · intro each member
    obtain ⟨applies', output'⟩ := List.mem_filter.mp member
    obtain ⟨selected, meets⟩ := List.mem_filter.mp applies'
    have named : each.name = first.name :=
      agree each applies' first applies ((of_decide_eq_true output').trans output.symm)
    refine ⟨selected, meets, named.trans ?_⟩
    rw [same]

namespace Engine

/-- The value at a position is taken for an object. -/
def AnswersObject (engine : Engine) (place : Place) (object : TypeDefinition) (parent : Json) :
    Prop :=
  ∃ type resolved, place.content = .declared type resolved ∧
    engine.schema.shape place.field.name type resolved = .object object parent

/-- No fields of different names are merged during a run. -/
def MergesAlike (engine : Engine) (subscription : Subscription) (event : Event)
    (context : Context) : Prop :=
  ∀ place object parent, engine.Visits subscription event context place →
    engine.AnswersObject place object parent →
      NamesAgree engine.schema object.name place.field.subfields

/-- The type that is expected at a position is defined, and objects of it can
answer what is selected below. -/
def Sound (engine : Engine) (place : Place) : Prop :=
  match place.content with
  | .typename _ => True
  | .undeclared _ => False
  | .declared type _ =>
    (∃ definition, engine.schema.type? type.underlying = some definition) ∧
      ∀ sub ∈ place.field.subfields, engine.schema.Answerable type.underlying sub

variable {engine : Engine} {place : Place}

/-- On an object that a type expects, a collected field comes to a sound position. -/
theorem sound_member {typeName : String} {fields : List SelectedField}
    (answerable : ∀ sub ∈ fields, engine.schema.Answerable typeName sub)
    {object : TypeDefinition} (defined : engine.schema.type? object.name = some object)
    (possible : engine.schema.isPossible typeName object.name = true)
    (agree : NamesAgree engine.schema object.name fields) {field : SelectedField}
    (collected : field ∈ collectFields engine.schema object.name fields) (parent : Json)
    (path : Path) (context : Context) :
    engine.Sound (engine.member object parent path field context) := by
  obtain ⟨merged, nonempty, all, each⟩ := exists_merged agree collected
  unfold member content
  by_cases typename : field.name = typenameField
  · rw [if_pos typename]
    trivial
  -- every selection that is answered here is declared by the object
  have declared : ∀ other ∈ merged, ∃ definition, object.field? field.name = some definition ∧
      (∃ type, engine.schema.type? definition.type.underlying = some type) ∧
      ∀ sub ∈ other.subfields, engine.schema.Answerable definition.type.underlying sub := by
    intro other member
    obtain ⟨selected, applies, named⟩ := each other member
    have meets : engine.schema.Meets typeName other object := ⟨defined, possible, applies⟩
    rw [← named] at typename ⊢
    cases answerable other selected with
    | typename named => exact absurd named typename
    | declared _ found defined below =>
      obtain ⟨definition, declared⟩ := found object meets
      exact ⟨definition, declared, defined object definition meets declared,
        below object definition meets declared⟩
  obtain ⟨first, leading⟩ := List.exists_mem_of_ne_nil merged nonempty
  obtain ⟨definition, declaration, type, -⟩ := declared first leading
  rw [if_neg typename, declaration]
  refine ⟨type, ?_⟩
  intro sub selected
  rw [all] at selected
  obtain ⟨other, member, selected⟩ := List.mem_flatMap.mp selected
  obtain ⟨own, declaration', -, below⟩ := declared other member
  cases declaration.symm.trans declaration'
  exact below sub selected

/-- From a sound position one comes to sound positions. -/
theorem sound_of_mem_partsOf (sound : engine.Sound place)
    (agree : ∀ object parent, engine.AnswersObject place object parent →
      NamesAgree engine.schema object.name place.field.subfields)
    {part : PathSegment × Place} (h : part ∈ engine.partsOf place) : engine.Sound part.2 := by
  unfold Sound at sound
  cases partOf_of_mem_partsOf h with
  | item content value context =>
    rw [content] at sound
    exact sound
  | @member type resolved object parent field content shape collected context =>
    rw [content] at sound
    have agree := agree object parent ⟨type, resolved, content, shape⟩
    have taken := engine.schema.takes_shape place.field.name type resolved
    rw [shape] at taken
    cases taken with
    | object _ defined possible =>
      exact sound_member sound.2 defined possible agree collected parent _ _

theorem sound_of_liesAt {root : Place} (sound : engine.Sound root)
    (agree : ∀ rest below object parent, engine.LiesAt root rest below →
      engine.AnswersObject below object parent →
        NamesAgree engine.schema object.name below.field.subfields)
    {rest : Path} (lies : engine.LiesAt root rest place) : engine.Sound place := by
  induction lies with
  | here root => exact sound
  | @part root next last segment rest member lies ih =>
    have next : engine.Sound next := by
      refine sound_of_mem_partsOf sound ?_ member
      intro object parent answers
      exact agree [] root object parent (.here root) answers
    refine ih next ?_
    intro rest below object parent lies answers
    exact agree (segment :: rest) below object parent (.part member lies) answers

/-! ## The root -/

variable {query : String} {subscription : Subscription} {event : Event} {context : Context}

/-- What is known of the field of an accepted query. -/
structure Rooted (schema : Schema) (subscription : Subscription) (root : TypeDefinition) :
    Prop where
  supported : schema.subscriptionType? = some root
  declared : ∃ definition, root.field? subscription.field.name = some definition
  named : subscription.field.name ≠ typenameField
  meets : schema.Meets root.name subscription.field root
  answerable : schema.Consistent → schema.Answerable root.name subscription.field

theorem ne_typenameField_of_not_introspection {field : SelectedField}
    (h : field.isIntrospection = false) : field.name ≠ typenameField := by
  intro typename
  have introspection : "__".isPrefixOf typenameField = true := by decide +kernel
  rw [SelectedField.isIntrospection, typename, introspection] at h
  cases h

/-- An accepted query is inlined to its field on the root of subscriptions. -/
theorem inlines_of_prepare (prepared : engine.prepare query = .ok subscription) :
    ∃ scope root selections, scope.schema = engine.schema ∧
      engine.schema.subscriptionType? = some root ∧
      engine.schema.type? root.name = some root ∧
      Inlines scope root [] [] selections [subscription.field] ∧
      engine.schema.isSubscribable root subscription.field = true := by
  unfold prepare Schema.prepare Schema.prepareWith at prepared
  split at prepared
  · cases prepared
  rename_i document read
  obtain ⟨operation, root, -, supported, -, inlined, subscribable⟩ := validate_eq_ok_iff.mp prepared
  obtain ⟨name, -, known⟩ := Option.bind_eq_some_iff.mp supported
  exact ⟨_, root, _, rfl, supported, Schema.type?_self known, inlined, subscribable⟩

/-- Validation leaves a field of the root that can be answered there. -/
theorem rooted_of_prepare (prepared : engine.prepare query = .ok subscription) :
    ∃ root, Rooted engine.schema subscription root := by
  obtain ⟨scope, root, selections, same, supported, known, inlined, subscribable⟩ :=
    inlines_of_prepare prepared
  simp only [Schema.isSubscribable, Bool.and_eq_true, Bool.not_eq_true', Option.isSome_iff_exists]
    at subscribable
  obtain ⟨⟨ordinary, declared⟩, applies⟩ := subscribable
  refine ⟨root, supported, declared, ne_typenameField_of_not_introspection ordinary,
    ⟨known, engine.schema.isPossible_self _, applies⟩, ?_⟩
  rw [← same] at known ⊢
  intro consistent
  refine inlined.answerable consistent known ?_ _ (List.mem_singleton_self _)
  exact Scope.implies_of_type? known

/-- The run of an accepted query starts at a sound position. -/
theorem sound_root (consistent : engine.schema.Consistent)
    (prepared : engine.prepare query = .ok subscription)
    (rooted : engine.root? subscription event context = some place) : engine.Sound place := by
  obtain ⟨root, supported, -, named, meets, answerable⟩ := rooted_of_prepare prepared
  obtain ⟨object, definition, resolved, supported', declared, field, -, content⟩ :=
    root?_eq_some rooted
  cases supported.symm.trans supported'
  unfold Sound
  rw [content, field]
  cases answerable consistent with
  | typename typename => exact absurd typename named
  | declared _ _ defined below =>
    exact ⟨defined root definition meets declared, below root definition meets declared⟩

theorem sound_of_visits (consistent : engine.schema.Consistent)
    (prepared : engine.prepare query = .ok subscription)
    (alike : engine.MergesAlike subscription event context)
    (visited : engine.Visits subscription event context place) : engine.Sound place := by
  obtain ⟨root, rest, rooted, lies⟩ := visited
  refine sound_of_liesAt (sound_root consistent prepared rooted) ?_ lies
  intro rest below object parent lies answers
  exact alike below object parent ⟨root, rest, rooted, lies⟩ answers

/-- What is wrong at a sound position is not that the schema lacks something. -/
theorem Sound.not_lacking (sound : engine.Sound place) {cause : ErrorCause}
    (raises : engine.Raises place cause) (field typeName : String) :
    cause ≠ .undeclaredField field typeName ∧ cause ≠ .unknownType field := by
  unfold Sound at sound
  cases raises with
  | undeclared content =>
    rw [content] at sound
    cases sound
  | failure content shape =>
    rw [content] at sound
    obtain ⟨definition, defined⟩ := sound.1
    have fails := Schema.fails_of_shape shape
    exact ⟨fails.not_undeclaredField, fails.not_unknownType defined⟩
  | nullNotAllowed => exact ⟨nofun, nofun⟩

/-! ## Runs -/

section Runs

variable (engine : Engine) (subscription : Subscription) (event : Event) (context : Context)

/-- What subscribing to the root field gives. -/
def stream (engine : Engine) (subscription : Subscription) (event : Event) (context : Context) :
    Except FieldError Stream :=
  ((engine.resolvers.subscriber subscription.field.name event subscription.field).run
    context).answer

/-- A run that finds in the schema all that it looks up there. -/
structure RunsThrough : Prop where
  subscribed : ∀ error name, (engine.execute subscription event context).result = .error error →
    error.cause ≠ .undefinedSubscription name
  /-- Nowhere is a field taken for undeclared. -/
  declared : ∀ place object, engine.Visits subscription event context place →
    place.content ≠ .undeclared object
  /-- Nowhere is a type found missing. -/
  defined : ∀ place type resolved name, engine.Visits subscription event context place →
    place.content = .declared type resolved →
      engine.schema.shape place.field.name type resolved ≠ .failure (.unknownType name)
  recorded : ∀ response,
    (engine.execute subscription event context).result = .ok (some response) →
      ∀ error ∈ response.errors, ∀ field typeName,
        error.cause ≠ .undeclaredField field typeName ∧ error.cause ≠ .unknownType field

end Runs

/-- An accepted query ends as subscribing does: it fails, gives nothing, or gives a response. -/
theorem result_execute (prepared : engine.prepare query = .ok subscription) (event : Event)
    (context : Context) :
    (∃ error, engine.stream subscription event context = .error error ∧
      (engine.execute subscription event context).result = .error
        (subscription.field.errorAt [.field subscription.field.outputName] (.raised error))) ∨
    (engine.stream subscription event context = .ok [] ∧
      (engine.execute subscription event context).result = .ok none) ∨
    (∃ item rest response, engine.stream subscription event context = .ok (item :: rest) ∧
      (engine.execute subscription event context).result = .ok (some response)) := by
  obtain ⟨root, supported, ⟨definition, declared⟩, -⟩ := rooted_of_prepare prepared
  have found : engine.schema.subscriptionType?.bind (·.field? subscription.field.name) =
      some definition := by
    rw [supported]
    exact declared
  unfold execute stream
  simp only [found]
  generalize (engine.resolvers.subscriber subscription.field.name event
    subscription.field).run context = start
  obtain ⟨answer, trace, after⟩ := start
  cases answer with
  | error error => exact .inl ⟨error, rfl, rfl⟩
  | ok items =>
    cases items with
    | nil => exact .inr (.inl ⟨rfl, rfl⟩)
    | cons item rest => exact .inr (.inr ⟨item, rest, _, rfl, rfl⟩)

/-- An accepted query can be run, on schemas whose objects declare the fields of
their interfaces, as long as no fields of different names are merged; it gives no
payload only if subscribing fails or gives nothing. -/
theorem prepared_runs (consistent : engine.schema.Consistent)
    (prepared : engine.prepare query = .ok subscription) :
    (∀ event context, engine.MergesAlike subscription event context →
      engine.RunsThrough subscription event context) ∧
    ∀ event context owner?,
      (engine.generate event query context owner?).payload? = none ↔
        (∃ error, engine.stream subscription event (context.attachApp owner?) = .error error) ∨
          engine.stream subscription event (context.attachApp owner?) = .ok [] := by
  constructor
  · intro event context alike
    have sound {place : Place} (visited : engine.Visits subscription event context place) :
        engine.Sound place := sound_of_visits consistent prepared alike visited
    constructor
    case subscribed =>
      intro error name failed
      rcases result_execute prepared event context with
        ⟨raised, -, result⟩ | ⟨-, result⟩ | ⟨item, rest, response, -, result⟩
      · cases failed.symm.trans result
        exact nofun
      · cases failed.symm.trans result
      · cases failed.symm.trans result
    case declared =>
      intro place object visited content
      exact ((sound visited).not_lacking (.undeclared content) _ object).1 rfl
    case defined =>
      intro place type resolved name visited content shape
      exact ((sound visited).not_lacking (.failure content shape) name name).2 rfl
    case recorded =>
      intro response answered error raised field typeName
      obtain ⟨root, rooted, -, errors⟩ := execute_eq_ok answered
      rw [errors] at raised
      obtain ⟨rest, below, cause, lies, raises, rfl⟩ :=
        engine.records_of_mem_errors root error raised
      exact (sound ⟨root, rest, rooted, lies⟩).not_lacking raises field typeName
  · intro event context owner?
    unfold Generation.payload? generate generatePrepared
    simp only [prepared]
    rcases result_execute prepared event (context.attachApp owner?) with
      ⟨raised, stream, result⟩ | ⟨stream, result⟩ | ⟨item, rest, response, stream, result⟩
    · simp [stream, result, Except.toOption]
    · simp [stream, result, Except.toOption]
    · simp [stream, result, Except.toOption]

end Engine

/-! ## Queries without aliases -/

namespace SelectedField

mutual

/-- Neither the field nor any below it has an alias. -/
def isPlain : SelectedField → Bool
  | ⟨alias?, _, _, _, _, subfields⟩ => alias?.isNone && arePlain subfields

def arePlain : List SelectedField → Bool
  | [] => true
  | field :: rest => field.isPlain && arePlain rest

end

theorem isPlain_iff {field : SelectedField} :
    field.isPlain = true ↔ field.alias? = none ∧ arePlain field.subfields = true := by
  obtain ⟨alias?, name, arguments, conditions, position, subfields⟩ := field
  simp [isPlain]

theorem arePlain_iff {fields : List SelectedField} :
    arePlain fields = true ↔ ∀ field ∈ fields, field.isPlain = true := by
  induction fields with
  | nil => simp [arePlain]
  | cons first rest ih => simp [arePlain, ih]

/-- Collecting brings in no alias. -/
theorem isPlain_of_mem_collectFields {schema : Schema} {typeName : String}
    {fields : List SelectedField} (plain : arePlain fields = true) {field : SelectedField}
    (h : field ∈ collectFields schema typeName fields) : field.isPlain = true := by
  obtain ⟨first, found, merged⟩ := exists_first_of_mem h
  have selected : ∀ other ∈ applicable schema typeName fields, other.isPlain = true :=
    fun other member => arePlain_iff.mp plain other (List.mem_filter.mp member).1
  rw [merged, isPlain_iff, arePlain_iff]
  constructor
  · exact (isPlain_iff.mp (selected first (List.mem_of_find?_eq_some found))).1
  · intro sub member
    obtain ⟨other, among, below⟩ := List.mem_flatMap.mp member
    have own := isPlain_iff.mp (selected other (List.mem_filter.mp among).1)
    exact arePlain_iff.mp own.2 sub below

/-- Without aliases fields of one output name have one name. -/
theorem namesAgree_of_arePlain {schema : Schema} {typeName : String}
    {fields : List SelectedField} (plain : arePlain fields = true) :
    NamesAgree schema typeName fields := by
  have plainly : ∀ field ∈ applicable schema typeName fields, field.outputName = field.name := by
    intro field member
    have own := arePlain_iff.mp plain field (List.mem_filter.mp member).1
    rw [outputName, (isPlain_iff.mp own).1, Option.getD_none]
  intro a ha b hb same
  rw [← plainly a ha, ← plainly b hb, same]

end SelectedField

namespace Engine

variable {engine : Engine} {place : Place} {subscription : Subscription} {event : Event}
  {context : Context}

theorem isPlain_of_mem_partsOf (plain : place.field.isPlain = true) {part : PathSegment × Place}
    (h : part ∈ engine.partsOf place) : part.2.field.isPlain = true := by
  cases partOf_of_mem_partsOf h with
  | item content value context => exact plain
  | member content shape collected context =>
    have below := (SelectedField.isPlain_iff.mp plain).2
    exact SelectedField.isPlain_of_mem_collectFields below collected

theorem isPlain_of_liesAt {root : Place} (plain : root.field.isPlain = true) {rest : Path}
    (lies : engine.LiesAt root rest place) : place.field.isPlain = true := by
  induction lies with
  | here root => exact plain
  | part member _ ih => exact ih (isPlain_of_mem_partsOf plain member)

/-- Without aliases no fields of different names are merged. -/
theorem mergesAlike_of_isPlain (plain : subscription.field.isPlain = true) :
    engine.MergesAlike subscription event context := by
  intro place object parent ⟨root, rest, rooted, lies⟩ _
  obtain ⟨-, -, -, -, -, field, -, -⟩ := root?_eq_some rooted
  have plain : place.field.isPlain = true := isPlain_of_liesAt (field ▸ plain) lies
  exact SelectedField.namesAgree_of_arePlain (SelectedField.isPlain_iff.mp plain).2

end Engine

/-! ## A run -/

namespace Shop

/-- Two types list an interface, and their fields start with those of the interface. -/
theorem consistent : schema.Consistent := by
  intro object interface known isObject defined isInterface listed name declared found
  have lists : ∀ type ∈ schema.types, type.kind.implements = [] ∨
      type.kind.implements = ["Event"] ∧ ∃ more, type.kind.fields = eventFields ++ more := by
    simp [schema, event, orderCreated, TypeKind.implements, TypeKind.fields]
  rcases lists object (Schema.mem_of_type? known) with none | ⟨one, more, fields⟩
  · simp [none] at listed
  · have named : interface.name = "Event" := by simpa [one] using listed
    have same : interface = event := by
      rw [named] at defined
      exact (Option.some.inj defined).symm
    subst same
    have own : eventFields.find? (·.name = name) = some declared := found
    refine ⟨declared, ?_, rfl⟩
    rw [TypeDefinition.field?, fields, List.find?_append, own]
    rfl

/-- Fields of the order are selected in two places, and of the event through its interface. -/
def orderQuery : String :=
  "subscription { event { ...origin ... on OrderCreated { order { number } } issuedAt } } " ++
  "fragment origin on Event \x7b __typename issuer { ... on App { name } } " ++
  "... on OrderCreated { issuedAt order { lines { sku } } } \x7d"

def orderSubscription : Subscription :=
  let plain (column : Nat) (name : String) := (head column name).selected [] [] []
  { name? := none
    field := (head 16 "event").selected [] []
      [plain 115 "__typename",
        (head 126 "issuer").selected [] [] [(head 148 "name").selected ["App"] [] []],
        (head 179 "issuedAt").selected ["OrderCreated"] [] [],
        (head 188 "order").selected ["OrderCreated"] []
          [(head 196 "lines").selected [] [] [plain 204 "sku"]],
        (head 56 "order").selected ["OrderCreated"] [] [plain 64 "number"],
        plain 75 "issuedAt"] }

end Shop

theorem prepared_runs_on_orderQuery :
    Shop.schema.Consistent ∧
      Shop.engine.prepare Shop.orderQuery = .ok Shop.orderSubscription ∧
      Shop.engine.MergesAlike Shop.orderSubscription Shop.created Shop.context ∧
      Shop.engine.RunsThrough Shop.orderSubscription Shop.created Shop.context ∧
      (Shop.engine.generate Shop.created Shop.orderQuery Shop.context none).payload? ≠ none := by
  have prepared : Shop.engine.prepare Shop.orderQuery = .ok Shop.orderSubscription := by cbv
  have alike : Shop.engine.MergesAlike Shop.orderSubscription Shop.created Shop.context :=
    Engine.mergesAlike_of_isPlain (by decide)
  obtain ⟨runs, pays⟩ := Engine.prepared_runs Shop.consistent prepared
  refine ⟨Shop.consistent, prepared, alike, runs _ _ alike, ?_⟩
  intro missing
  rcases (pays Shop.created Shop.context none).mp missing with ⟨error, failed⟩ | silent
  · cases failed
  · cases silent

end WebhookPayload
