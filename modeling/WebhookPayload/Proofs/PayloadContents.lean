import WebhookPayload.Payload
import WebhookPayload.Proofs.NullPropagation

/-! # What a payload holds

A payload is the data of a response and the records of its errors. Both are in
one map, so the records take the place of the data if the root field is called
`errors`; under any other name nothing is lost. A response without data has
recorded an error, so a payload is never empty. -/

namespace WebhookPayload

/-- One record for each error, in the order in which they were recorded. -/
def Response.records (response : Response) : List Json :=
  response.errors.map fun error => .object (error.record recognizedKinds)

/-- A payload holds the data of a response under a name and the records of its
errors under `errors`, and nothing else. -/
structure Response.KeptIn (response : Response) (name : String) (payload : Members) : Prop where
  data : ∀ value, response.data? = some [(name, value)] → payload.get? name = some value
  records : response.errors ≠ [] → payload.get? "errors" = some (.array response.records)
  clean : response.errors = [] → payload.get? "errors" = none
  only : ∀ key ∈ payload.keys,
    key = name ∧ response.data?.isSome = true ∨ key = "errors" ∧ response.errors ≠ []

namespace Response

/-- A response holds one value, under the given name, or else it has errors. -/
def Tells (response : Response) (name : String) : Prop :=
  response.data? = none ∧ response.errors ≠ [] ∨
    ∃ value, response.data? = some [(name, value)]

variable {response : Response} {name : String} {value : Json}

theorem payload_eq_of_errors (failed : response.errors ≠ []) :
    response.payload =
      Members.insert "errors" (.array response.records) (response.data?.getD []) := by
  unfold payload records errorRecords
  obtain ⟨error, rest, errors⟩ := List.exists_cons_of_ne_nil failed
  rw [errors]
  rfl

theorem payload_eq_data (clean : response.errors = []) :
    response.payload = response.data?.getD [] := by
  unfold payload errorRecords
  rw [clean]
  rfl

/-- Whatever the root field is called, the errors are told of. -/
theorem get?_errors_payload (failed : response.errors ≠ []) :
    Members.get? response.payload "errors" = some (.array response.records) := by
  rw [payload_eq_of_errors failed]
  exact Members.get?_insert_self _ _ _

/-- There is something in the payload as soon as there are data or errors. -/
theorem payload_ne_nil (h : response.Tells name) : response.payload ≠ [] := by
  intro empty
  by_cases clean : response.errors = []
  · rcases h with ⟨-, failed⟩ | ⟨value, data⟩
    · exact failed clean
    · rw [payload_eq_data clean, data] at empty
      cases empty
  · have recorded := get?_errors_payload clean
    rw [empty] at recorded
    cases recorded

/-- Under the name `errors` only the records are left. -/
theorem payload_eq_records (h : response.Tells "errors") (failed : response.errors ≠ []) :
    response.payload = [("errors", .array response.records)] := by
  rw [payload_eq_of_errors failed]
  rcases h with ⟨data, -⟩ | ⟨value, data⟩
  · rw [data]
    rfl
  · rw [data]
    exact if_pos rfl

/-- Under another name than `errors` the data stand beside the records. -/
theorem keptIn_payload (h : response.Tells name) (other : name ≠ "errors") :
    response.KeptIn name response.payload := by
  have distinct : ("errors" == name) = false := beq_false_of_ne (Ne.symm other)
  by_cases clean : response.errors = []
  · rcases h with ⟨-, failed⟩ | ⟨value, data⟩
    · exact absurd clean failed
    · rw [payload_eq_data clean, data]
      exact
        { data := fun found same => by
            cases data.symm.trans same
            simp [Members.get?]
          records := fun failed => absurd clean failed
          clean := fun _ => by simp [Members.get?, List.lookup_cons, distinct]
          only := fun key held => .inl ⟨by simpa [Members.keys] using held, by rw [data]; rfl⟩ }
  · have recorded := get?_errors_payload clean
    refine ⟨fun value data => ?_, fun _ => recorded, fun none => absurd none clean, ?_⟩
    · rw [payload_eq_of_errors clean, Members.get?_insert_of_ne other, data]
      simp [Members.get?]
    · intro key held
      rw [payload_eq_of_errors clean] at held
      rcases h with ⟨data, -⟩ | ⟨value, data⟩
      · rw [data] at held
        exact .inr ⟨by simpa [Members.keys, Members.insert] using held, clean⟩
      · rw [data] at held
        have fresh : "errors" ∉ Members.keys [(name, value)] := by
          simpa [Members.keys] using Ne.symm other
        have two : key = name ∨ key = "errors" := by
          simpa [Members.insert_of_not_mem_keys fresh, Members.keys] using held
        exact two.imp (fun same => ⟨same, by rw [data]; rfl⟩) fun same => ⟨same, clean⟩

end Response

namespace Engine

variable {engine : Engine} {subscription : Subscription} {event : Event} {context : Context}
  {response : Response}

/-- Data are absent from a response only for an error. -/
theorem tells_of_execute
    (h : (engine.execute subscription event context).result = .ok (some response)) :
    response.Tells subscription.field.outputName := by
  obtain ⟨root, -, data, errors⟩ := execute_eq_ok h
  unfold Response.Tells
  cases out : (engine.complete root).value? with
  | none =>
    obtain ⟨error, raised, -⟩ := (engine.accounted root).missing out
    rw [data, out, errors]
    exact .inl ⟨rfl, List.ne_nil_of_mem raised⟩
  | some value =>
    rw [data, out]
    exact .inr ⟨value, rfl⟩

/-- A payload is that of a response to the prepared query. -/
theorem generate_eq_ok_iff {query : String} {owner? : Option App} {payload : Members} :
    (engine.generate event query context owner?).result = .ok payload ↔
      ∃ subscription response, engine.prepare query = .ok subscription ∧
        (engine.execute subscription event (context.attachApp owner?)).result =
          .ok (some response) ∧ payload = response.payload := by
  unfold generate generatePrepared
  constructor
  · intro h
    split at h
    · cases h
    · rename_i subscription prepared
      dsimp only at h
      split at h
      · cases h
      · cases h
      · rename_i response answered
        cases h
        exact ⟨subscription, response, prepared, answered, rfl⟩
  · intro h
    obtain ⟨subscription, response, prepared, answered, rfl⟩ := h
    simp only [prepared, answered]

/-- A payload is never empty and tells of all errors; it holds the data as well,
and nothing else, if the root field is not called `errors`. Otherwise an error
leaves nothing of the data. -/
theorem generated_payload_keeps {query : String} {owner? : Option App} {payload : Members}
    (h : (engine.generate event query context owner?).result = .ok payload) :
    ∃ subscription response, engine.prepare query = .ok subscription ∧
      (engine.execute subscription event (context.attachApp owner?)).result =
        .ok (some response) ∧
      response.Tells subscription.field.outputName ∧ payload ≠ [] ∧
      (response.errors ≠ [] → payload.get? "errors" = some (.array response.records)) ∧
      (subscription.field.outputName ≠ "errors" →
        response.KeptIn subscription.field.outputName payload) ∧
      (subscription.field.outputName = "errors" → response.errors ≠ [] →
        payload = [("errors", .array response.records)]) := by
  obtain ⟨subscription, response, prepared, answered, rfl⟩ := generate_eq_ok_iff.mp h
  have tells := tells_of_execute answered
  exact ⟨subscription, response, prepared, answered, tells, Response.payload_ne_nil tells,
    Response.get?_errors_payload, Response.keptIn_payload tells,
    fun named => Response.payload_eq_records (named ▸ tells)⟩

end Engine

/-! ## An event called `errors` -/

namespace Shop

def eventQuery : String :=
  "subscription { event { ... on OrderCreated { order { lines { sku } } } } }"

def errorsQuery : String :=
  "subscription { errors: event { ... on OrderCreated { order { lines { sku } } } } }"

/-- The lines of the order, where the alias of the event moves them to the right. -/
def linesSubscription (alias? : Option String) (shift : Nat) : Subscription :=
  { name? := none
    field := { (head 16 "event").selected [] []
        [(head (46 + shift) "order").selected ["OrderCreated"] []
          [(head (54 + shift) "lines").selected [] []
            [(head (62 + shift) "sku").selected [] [] []]]] with alias? } }

def orderLines : Json := .object [("order", .object [("lines", deliveredLines)])]

/-- The second line has no `sku`. -/
def linesResponse (name : String) (column : Nat) : Response :=
  { data? := some [(name, orderLines)]
    errors := [{
      cause := .nullNotAllowed "sku", locations := [⟨1, column⟩]
      path := [.field name, .field "order", .field "lines", .index 1, .field "sku"] }] }

theorem prepare_eventQuery : schema.prepare eventQuery = .ok (linesSubscription none 0) := by
  cbv

end Shop

theorem generated_payload_keeps_lines :
    ∃ payload,
      (Shop.engine.generate Shop.created Shop.eventQuery Shop.context none).result = .ok payload ∧
        payload ≠ [] ∧ (Shop.linesResponse "event" 62).KeptIn "event" payload := by
  have prepared : Shop.engine.prepare Shop.eventQuery = .ok (Shop.linesSubscription none 0) :=
    Shop.prepare_eventQuery
  have answered : (Shop.engine.execute (Shop.linesSubscription none 0) Shop.created
      (Shop.context.attachApp none)).result = .ok (some (Shop.linesResponse "event" 62)) := by
    cbv
  have generated := Engine.generate_eq_ok_iff.mpr ⟨_, _, prepared, answered, rfl⟩
  obtain ⟨subscription, response, found, executed, -, filled, -, kept, -⟩ :=
    Engine.generated_payload_keeps generated
  cases prepared.symm.trans found
  cases answered.symm.trans executed
  exact ⟨_, generated, filled, kept (by decide)⟩

/-- An event that is called `errors` is lost if anything in it fails. -/
theorem errors_replace_data :
    ∃ payload,
      (Shop.engine.generate Shop.created Shop.errorsQuery Shop.context none).result = .ok payload ∧
        (Shop.engine.execute (Shop.linesSubscription (some "errors") 8) Shop.created
          (Shop.context.attachApp none)).result = .ok (some (Shop.linesResponse "errors" 70)) ∧
        ¬ (Shop.linesResponse "errors" 70).KeptIn "errors" payload := by
  have prepared : Shop.engine.prepare Shop.errorsQuery =
      .ok (Shop.linesSubscription (some "errors") 8) := by
    cbv
  have answered : (Shop.engine.execute (Shop.linesSubscription (some "errors") 8) Shop.created
      (Shop.context.attachApp none)).result = .ok (some (Shop.linesResponse "errors" 70)) := by
    cbv
  have generated := Engine.generate_eq_ok_iff.mpr ⟨_, _, prepared, answered, rfl⟩
  refine ⟨_, generated, answered, fun kept => ?_⟩
  have data := kept.data Shop.orderLines rfl
  cases (kept.records (by simp [Shop.linesResponse])).symm.trans data

end WebhookPayload
