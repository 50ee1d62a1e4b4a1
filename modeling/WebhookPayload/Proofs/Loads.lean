import WebhookPayload.Payload
import WebhookPayload.Proofs.Calls

/-! # The loads of a generation

The services of a generation answer a load from an earlier one of the same key, or
they run its loader. Seen for one key the loads of any session are failing runs, then
one run that succeeds, then answers with its value (`Services.settles`), and loads of
other keys make no difference to them (`Services.ofKey_loadAll`). All that a
generation asks of its context is such a session, whatever becomes of the positions it
is asked for (`generate_loadsOnce`). -/

namespace WebhookPayload

structure LoadRequest where
  key : String
  loader : Loader

/-- A load with its answer. -/
structure LoadRecord extends LoadRequest where
  outcome : LoadOutcome

def Operation.load? : Operation → Option LoadRequest
  | .load key loader => some ⟨key, loader⟩
  | _ => none

def TraceEntry.load? : TraceEntry → Option (String × LoadOutcome)
  | .load key outcome => some (key, outcome)
  | _ => none

namespace LoadRecord

/-- What is noted of a load. -/
def noted (record : LoadRecord) : String × LoadOutcome := (record.key, record.outcome)

def ofKey (key : String) (records : List LoadRecord) : List LoadRecord :=
  records.filter (·.key = key)

/-- The loads of one key: the loaders fail, until one succeeds and its value is kept. -/
inductive Settles : Option Json → List LoadRecord → Prop
  | nothing {kept? : Option Json} : Settles kept? []
  | failed {record : LoadRecord} {rest : List LoadRecord} {error : FieldError}
      (ran : record.outcome = .ran (.error error)) (later : Settles none rest) :
      Settles none (record :: rest)
  | succeeded {record : LoadRecord} {rest : List LoadRecord} {value : Json}
      (ran : record.outcome = .ran (.ok value)) (later : Settles (some value) rest) :
      Settles none (record :: rest)
  | reused {record : LoadRecord} {rest : List LoadRecord} {value : Json}
      (reused : record.outcome = .reused value) (later : Settles (some value) rest) :
      Settles (some value) (record :: rest)

theorem Settles.reuses {value : Json} {records : List LoadRecord}
    (h : Settles (some value) records) : ∀ record ∈ records, record.outcome = .reused value := by
  induction records with
  | nil => exact nofun
  | cons first rest ih =>
    cases h with
    | reused reused later => exact List.forall_mem_cons.mpr ⟨reused, ih later⟩

/-- Before anything is kept there are failures, then there may be one success, and then reuse. -/
theorem Settles.split {records : List LoadRecord} (h : Settles none records) :
    ∃ failures later, records = failures ++ later ∧
      (∀ record ∈ failures, ∃ error, record.outcome = .ran (.error error)) ∧
      (later = [] ∨ ∃ first reuses value, later = first :: reuses ∧
        first.outcome = .ran (.ok value) ∧ ∀ record ∈ reuses, record.outcome = .reused value) := by
  induction records with
  | nil => exact ⟨[], [], rfl, nofun, .inl rfl⟩
  | cons first rest ih =>
    cases h with
    | failed ran later =>
      obtain ⟨failures, others, rfl, failed, settled⟩ := ih later
      exact ⟨first :: failures, others, rfl, List.forall_mem_cons.mpr ⟨⟨_, ran⟩, failed⟩, settled⟩
    | succeeded ran later =>
      exact ⟨[], first :: rest, rfl, nofun, .inr ⟨first, rest, _, rfl, ran, later.reuses⟩⟩

end LoadRecord

/-! ## Services -/

namespace Services

variable {services : Services}

/-- A load is answered by its own loader unless its key has a value. -/
theorem outcome_load (services : Services) (key : String) (loader : Loader) :
    (services.load key loader).1 =
      match services.loaded? key with
      | some value => .reused value
      | none => .ran loader := by
  unfold load
  cases found : services.loaded? key with
  | some value => rfl
  | none =>
    cases loader with
    | error error => rfl
    | ok value => simp [finishLoad, keep, found]

theorem loaded?_load_self (services : Services) (key : String) (loader : Loader) :
    (services.load key loader).2.loaded? key = (services.loaded? key).or loader.toOption := by
  unfold load
  cases found : services.loaded? key with
  | some value => exact found
  | none =>
    cases loader with
    | error error => exact found
    | ok value =>
      have kept : (services.keep key value).1 = value := by simp [keep, found]
      exact (loaded?_keep_self services key value).trans (congrArg some kept)

theorem loaded?_load_of_ne {key other : String} (different : other ≠ key) (loader : Loader) :
    (services.load key loader).2.loaded? other = services.loaded? other := by
  unfold load
  cases found : services.loaded? key with
  | some value => rfl
  | none =>
    cases loader with
    | error error => rfl
    | ok value =>
      have kept : services.keep key value =
          (value, { services with loaded := (key, value) :: services.loaded }) := by
        simp [keep, found]
      show ((services.keep key value).2).loaded? other = services.loaded? other
      rw [kept, loaded?, List.lookup_cons, beq_false_of_ne different]
      rfl

/-- Answers loads one after another. -/
def loadAll (services : Services) : List LoadRequest → List LoadRecord
  | [] => []
  | request :: rest =>
    let answered := services.load request.key request.loader
    { request with outcome := answered.1 } :: answered.2.loadAll rest

/-- Whatever else is loaded, the loads of a key are answered as if they were alone. -/
theorem ofKey_loadAll {alone : Services} {key : String} (requests : List LoadRequest)
    (same : services.loaded? key = alone.loaded? key) :
    LoadRecord.ofKey key (services.loadAll requests) =
      alone.loadAll (requests.filter (·.key = key)) := by
  induction requests generalizing services alone with
  | nil => rfl
  | cons request rest ih =>
    rw [loadAll, LoadRecord.ofKey]
    by_cases own : request.key = key
    · subst own
      rw [List.filter_cons_of_pos (by simp), List.filter_cons_of_pos (by simp), loadAll]
      rw [outcome_load, outcome_load, same]
      refine congrArg _ (ih ?_)
      rw [loaded?_load_self, loaded?_load_self, same]
    · rw [List.filter_cons_of_neg (by simpa using own),
        List.filter_cons_of_neg (by simpa using own)]
      refine ih ?_
      rw [loaded?_load_of_ne (Ne.symm own), same]

theorem settles_loadAll (services : Services) {key : String} {requests : List LoadRequest}
    (own : ∀ request ∈ requests, request.key = key) :
    LoadRecord.Settles (services.loaded? key) (services.loadAll requests) := by
  induction requests generalizing services with
  | nil => exact .nothing
  | cons request rest ih =>
    obtain ⟨rfl, others⟩ := List.forall_mem_cons.mp own
    have later := ih (services.load request.key request.loader).2 others
    have outcome := services.outcome_load request.key request.loader
    rw [loaded?_load_self] at later
    rw [loadAll]
    cases found : services.loaded? request.key with
    | some value =>
      rw [found] at later outcome
      exact .reused outcome later
    | none =>
      rw [found] at later outcome
      cases loader : request.loader with
      | error error =>
        rw [loader] at later outcome
        exact .failed outcome later
      | ok value =>
        rw [loader] at later outcome
        exact .succeeded outcome later

end Services

/-! ## Sessions -/

/-- Only loads change what the services answer. -/
theorem Context.services_perform (context : Context) (op : Operation) :
    (context.perform op).context.services =
      match op.load? with
      | some request => (context.services.load request.key request.loader).2
      | none => context.services := by
  cases op with
  | headers key | header key =>
    show (context.headers key).context.services = context.services
    unfold headers
    split <;> rfl
  | _ => rfl

theorem Context.loads_perform (context : Context) (op : Operation) :
    (context.perform op).trace.filterMap TraceEntry.load? =
      match op.load? with
      | some request =>
        [(request.key, (context.services.load request.key request.loader).1)]
      | none => [] := by
  have lookUp : context.request.lookUpTrace.filterMap TraceEntry.load? = [] := by
    unfold Request.lookUpTrace
    split <;> rfl
  have headers (key : String) : (context.headers key).trace.filterMap TraceEntry.load? = [] := by
    unfold Context.headers
    split
    · rfl
    · exact lookUp
    · rfl
  cases op with
  | serverName | absoluteUri location => exact lookUp
  | headers key | header key => exact headers key
  | _ => rfl

/-- The loads of a session are answered one after another. -/
theorem Context.loads_performAll (context : Context) (ops : List Operation) :
    (context.performAll ops).trace.filterMap TraceEntry.load? =
      (context.services.loadAll (ops.filterMap Operation.load?)).map LoadRecord.noted := by
  induction ops generalizing context with
  | nil => rfl
  | cons op rest ih =>
    rw [performAll, List.filterMap_append, loads_perform, ih, services_perform,
      List.filterMap_cons]
    cases op.load? <;> rfl

/-! ## Generations -/

/-- Each key is loaded with success once at most. -/
structure Services.LoadsOnce (services : Services) (records : List LoadRecord) : Prop where
  /-- Loaders of a key fail, until one runs that succeeds and whose value is given from then on. -/
  once : ∀ key, services.loaded? key = none →
    ∃ failures later, LoadRecord.ofKey key records = failures ++ later ∧
      (∀ record ∈ failures, ∃ error, record.outcome = .ran (.error error)) ∧
      (later = [] ∨ ∃ first reuses value, later = first :: reuses ∧
        first.outcome = .ran (.ok value) ∧ ∀ record ∈ reuses, record.outcome = .reused value)
  /-- What was loaded before is not loaded again. -/
  kept : ∀ key value, services.loaded? key = some value →
    ∀ record ∈ LoadRecord.ofKey key records, record.outcome = .reused value
  /-- A loader that runs answers its own load. -/
  own : ∀ record ∈ records, record.outcome.loaderRan = true → record.outcome = .ran record.loader
  fails : ∀ record ∈ records, ∀ error, record.outcome.result = .error error ↔
    record.outcome.loaderRan = true ∧ record.loader = .error error
  /-- Loads of other keys make no difference. -/
  apart : ∀ key, LoadRecord.ofKey key records =
    services.loadAll ((LoadRecord.ofKey key records).map LoadRecord.toLoadRequest)

theorem Services.requests_loadAll (services : Services) (requests : List LoadRequest) :
    (services.loadAll requests).map LoadRecord.toLoadRequest = requests := by
  induction requests generalizing services with
  | nil => rfl
  | cons request rest ih =>
    rw [loadAll, List.map_cons, ih]

theorem Services.outcome_of_mem_loadAll {services : Services} {requests : List LoadRequest}
    {record : LoadRecord} (h : record ∈ services.loadAll requests) :
    record.outcome = .ran record.loader ∨ ∃ value, record.outcome = .reused value := by
  induction requests generalizing services with
  | nil => cases h
  | cons request rest ih =>
    rw [loadAll] at h
    rcases List.mem_cons.mp h with rfl | later
    · have outcome := services.outcome_load request.key request.loader
      cases found : services.loaded? request.key with
      | some value =>
        rw [found] at outcome
        exact .inr ⟨value, outcome⟩
      | none =>
        rw [found] at outcome
        exact .inl outcome
    · exact ih later

theorem Services.loadAll_loadsOnce (services : Services) (requests : List LoadRequest) :
    services.LoadsOnce (services.loadAll requests) := by
  have alone (key : String) : LoadRecord.ofKey key (services.loadAll requests) =
      services.loadAll (requests.filter (·.key = key)) := ofKey_loadAll requests rfl
  have settles (key : String) : LoadRecord.Settles (services.loaded? key)
      (LoadRecord.ofKey key (services.loadAll requests)) := by
    rw [alone]
    refine services.settles_loadAll fun request member => ?_
    exact of_decide_eq_true (List.mem_filter.mp member).2
  constructor
  case once =>
    intro key fresh
    exact (fresh ▸ settles key).split
  case kept =>
    intro key value found
    exact (found ▸ settles key).reuses
  case own =>
    intro record member ran
    rcases outcome_of_mem_loadAll member with own | ⟨value, reused⟩
    · exact own
    · rw [reused] at ran
      cases ran
  case fails =>
    intro record member error
    rcases outcome_of_mem_loadAll member with own | ⟨value, reused⟩
    · simp [own, LoadOutcome.result, LoadOutcome.loaderRan]
    · simp [reused, LoadOutcome.result, LoadOutcome.loaderRan]
  case apart =>
    intro key
    rw [alone, requests_loadAll]

namespace Engine

variable (engine : Engine) (event : Event) (query : String) (context : Context)
  (owner? : Option App)

/-- What is asked of the context while a payload is generated. -/
def asked : List Operation :=
  match engine.prepare query with
  | .error _ => []
  | .ok subscription => engine.operations subscription event (context.attachApp owner?)

/-- The loads of a generation, with their answers. -/
def loads : List LoadRecord :=
  context.services.loadAll ((engine.asked event query context owner?).filterMap Operation.load?)

theorem generate_performs :
    (engine.generate event query context owner?).trace.filter TraceEntry.isOperation =
      ((context.attachApp owner?).performAll (engine.asked event query context owner?)).trace := by
  unfold generate generatePrepared asked
  cases engine.prepare query with
  | error error => rfl
  | ok subscription => exact (engine.execute_performs subscription event _).1

/-- Whatever the query, the resolvers and the event are, a generation loads each key
with success once at most. -/
theorem generate_loadsOnce :
    (engine.generate event query context owner?).trace.filterMap TraceEntry.load? =
        (engine.loads event query context owner?).map LoadRecord.noted ∧
      context.services.LoadsOnce (engine.loads event query context owner?) := by
  refine ⟨?_, context.services.loadAll_loadsOnce _⟩
  have operations : ∀ entry : TraceEntry,
      (if entry.isOperation = true then entry.load? else none) = entry.load? := by
    intro entry
    cases entry <;> rfl
  have loads := congrArg (List.filterMap TraceEntry.load?)
    (engine.generate_performs event query context owner?)
  rw [List.filterMap_filter, Context.loads_performAll] at loads
  simp only [operations] at loads
  exact loads

end Engine

end WebhookPayload
