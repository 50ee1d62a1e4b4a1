import WebhookPayload.Proofs.LetterCase
import WebhookPayload.Proofs.Loads
import WebhookPayload.Proofs.Ownership

/-! # Laziness over whole runs

A context makes two things when they are first needed and keeps them then: the host
name and the services. Whatever is done with it in whatever order, what it answers and
what it has made can be told from its history (`History.Recalls`): the host is looked
up by the first operation that needs it and at no other time, services start with the
first operation that uses them, and the one has no influence on the other
(`History.isLazy`). -/

namespace WebhookPayload

/-! ## What an operation needs -/

namespace Request

def lowered (key : String) : String := String.ofList (key.toList.flatMap Text.lowercase)

theorem header?_eq (key : String) :
    header? key =
      if lowered key = "host" then some .host
      else if lowered key = "x-forwarded-proto" then some .forwardedProtocol
      else none := by
  have texts (text : String) :
      lowered key = text ↔ key.toList.flatMap Text.lowercase = text.toList := by
    rw [lowered, ← String.toList_inj, String.toList_ofList]
  simp only [header?, texts]

/-- The case of letters in a key makes no difference, however often it is removed. -/
theorem header?_lowered (key : String) : header? (lowered key) = header? key := by
  have twice : lowered (lowered key) = lowered key := by
    rw [lowered, lowered, String.toList_ofList, Text.flatMap_lowercase_lowercase]
  rw [header?_eq, header?_eq, twice]

end Request

/-- The host name is asked for itself, for absolute addresses and as a header. -/
def Operation.needsHost : Operation → Bool
  | serverName | absoluteUri _ => true
  | headers key | header key => Request.lowered key = "host"
  | _ => false

def Operation.usesServices : Operation → Bool
  | plugins | hasPlugin _ | requestorIdentity | load _ _ => true
  | _ => false

def TraceEntry.isHostLookup : TraceEntry → Bool
  | hostLookup => true
  | _ => false

/-- How often the host is looked up. -/
def hostLookups (trace : Trace) : Nat := trace.countP TraceEntry.isHostLookup

theorem Request.hostLookups_lookUpTrace (request : Request) :
    hostLookups request.lookUpTrace = if request.knownHost?.isNone then 1 else 0 := by
  unfold lookUpTrace
  cases request.knownHost? <;> rfl

theorem Services.load_keeps (services : Services) (key : String) (loader : Loader) :
    (services.load key loader).2.plugins = services.plugins ∧
      (services.load key loader).2.requestor? = services.requestor? := by
  cases found : services.loaded? key with
  | some value => simp [load, found]
  | none => cases loader <;> simp [load, finishLoad, keep, found]

namespace Context

variable (context : Context)

theorem headers_eq (key : String) :
    context.headers key =
      if Request.lowered key = "host" then context.replyWithHost (·.headerValues .host)
      else if Request.lowered key = "x-forwarded-proto" then
        context.reply (context.request.headerValues .forwardedProtocol)
      else context.reply [] := by
  unfold headers
  rw [Request.header?_eq]
  by_cases host : Request.lowered key = "host"
  · rw [if_pos host, if_pos host]
  · rw [if_neg host, if_neg host]
    by_cases protocol : Request.lowered key = "x-forwarded-proto"
    · rw [if_pos protocol, if_pos protocol]
    · rw [if_neg protocol, if_neg protocol]

/-- A header that is not the host is found without a change. -/
theorem headers_of_ne {key : String} (other : Request.lowered key ≠ "host") :
    (context.headers key).trace = [] ∧ (context.headers key).context = context := by
  rw [headers_eq, if_neg other]
  split <;> exact ⟨rfl, rfl⟩

theorem request_headers (key : String) :
    (context.headers key).context.request =
      if Request.lowered key = "host" then context.request.lookUpHost else context.request := by
  split
  case isTrue host =>
    rw [headers_eq, if_pos host]
    rfl
  case isFalse other => rw [(context.headers_of_ne other).2]

theorem hostLookups_headers (key : String) :
    hostLookups (context.headers key).trace =
      if Request.lowered key = "host" ∧ context.request.knownHost?.isNone then 1 else 0 := by
  by_cases host : Request.lowered key = "host"
  · rw [headers_eq, if_pos host]
    simp only [host, true_and]
    exact context.request.hostLookups_lookUpTrace
  · simp [(context.headers_of_ne host).1, host, hostLookups]

/-- Headers are found without the services. -/
theorem headers_keeps (key : String) :
    (context.headers key).context.services? = context.services? ∧
      (context.headers key).context.requestor? = context.requestor? ∧
      (context.headers key).context.synchronous = context.synchronous ∧
      (context.headers key).context.plugins = context.plugins := by
  unfold headers
  split <;> exact ⟨rfl, rfl, rfl, rfl⟩

/-- Only what needs the host changes the request. -/
theorem request_perform (op : Operation) :
    (context.perform op).context.request =
      if op.needsHost then context.request.lookUpHost else context.request := by
  cases op with
  | headers key | header key =>
    refine (context.request_headers key).trans ?_
    simp [Operation.needsHost]
  | _ => rfl

theorem hostLookups_perform (op : Operation) :
    hostLookups (context.perform op).trace =
      if op.needsHost ∧ context.request.knownHost?.isNone then 1 else 0 := by
  cases op with
  | serverName | absoluteUri location =>
    refine context.request.hostLookups_lookUpTrace.trans ?_
    simp [Operation.needsHost]
  | headers key | header key =>
    refine (context.hostLookups_headers key).trans ?_
    simp [Operation.needsHost]
  | _ => rfl

/-- Only what uses the services starts them. -/
theorem services?_perform (op : Operation) :
    (context.perform op).context.services? =
      if op.usesServices then some (context.perform op).context.services
      else context.services? := by
  cases op with
  | headers key | header key => exact (context.headers_keeps key).1
  | _ => rfl

/-- What a context is made with stays. -/
theorem perform_keeps (op : Operation) :
    (context.perform op).context.requestor? = context.requestor? ∧
      (context.perform op).context.synchronous = context.synchronous ∧
      (context.perform op).context.plugins = context.plugins := by
  cases op with
  | headers key | header key => exact (context.headers_keeps key).2
  | _ => exact ⟨rfl, rfl, rfl⟩

end Context

/-! ## Actions -/

/-- What is done with a context: something is asked of it, or the payload gets an owner. -/
inductive Action where
  | ask (op : Operation)
  | attachApp (app? : Option App)

namespace Action

def needsHost : Action → Bool
  | ask op => op.needsHost
  | attachApp _ => false

def usesServices : Action → Bool
  | ask op => op.usesServices
  | attachApp _ => false

/-- The owner that the action attaches. -/
def attached? : Action → Option (Option App)
  | ask _ => none
  | attachApp app? => some app?

/-- The value that the action keeps for a key, if there is none yet. -/
def keeps? (key : String) : Action → Option Json
  | ask (.load other (.ok value)) => if other = key then some value else none
  | _ => none

end Action

namespace Context

def act (context : Context) : Action → Traced Unit
  | .ask op => (context.perform op).map fun _ => ()
  | .attachApp app? => (context.attachApp app?).reply ()

/-- Acts one after another. -/
def actAll (context : Context) : List Action → Traced Unit
  | [] => context.reply ()
  | action :: rest =>
    let first := context.act action
    let others := first.context.actAll rest
    { others with trace := first.trace ++ others.trace }

theorem context_actAll_append (context : Context) (earlier later : List Action) :
    (context.actAll (earlier ++ later)).context =
      ((context.actAll earlier).context.actAll later).context := by
  induction earlier generalizing context with
  | nil => rfl
  | cons action rest ih => exact ih (context.act action).context

theorem trace_actAll_append (context : Context) (earlier later : List Action) :
    (context.actAll (earlier ++ later)).trace =
      (context.actAll earlier).trace ++ ((context.actAll earlier).context.actAll later).trace := by
  induction earlier generalizing context with
  | nil => rfl
  | cons action rest ih =>
    rw [List.cons_append, actAll, actAll, ih, List.append_assoc]

variable (context : Context)

theorem request_act (action : Action) :
    (context.act action).context.request =
      if action.needsHost then context.request.lookUpHost else context.request := by
  cases action with
  | ask op => exact context.request_perform op
  | attachApp app? => rfl

theorem hostLookups_act (action : Action) :
    hostLookups (context.act action).trace =
      if action.needsHost ∧ context.request.knownHost?.isNone then 1 else 0 := by
  cases action with
  | ask op => exact context.hostLookups_perform op
  | attachApp app? => rfl

theorem services?_act (action : Action) :
    (context.act action).context.services? =
      if action.usesServices then some (context.act action).context.services
      else context.services? := by
  cases action with
  | ask op => exact context.services?_perform op
  | attachApp app? => rfl

/-- Only loads change what is kept, and a value that is kept stays. -/
theorem loaded?_act (action : Action) (key : String) :
    (context.act action).context.services.loaded? key =
      (context.services.loaded? key).or (action.keeps? key) := by
  cases action with
  | attachApp app? => exact (Option.or_none).symm
  | ask op =>
    refine (congrArg (·.loaded? key) (context.services_perform op)).trans ?_
    cases op with
    | load other loader =>
      by_cases same : other = key
      · subst same
        refine (Services.loaded?_load_self context.services other loader).trans ?_
        cases loader <;> simp [Action.keeps?, Except.toOption]
      · refine (Services.loaded?_load_of_ne (Ne.symm same) loader).trans ?_
        cases loader <;> simp [Action.keeps?, same]
    | _ => exact (Option.or_none).symm

theorem services_act (action : Action) :
    (context.act action).context.services.plugins = context.services.plugins ∧
      (context.act action).context.services.requestor? = context.services.requestor? := by
  cases action with
  | attachApp app? => exact ⟨rfl, rfl⟩
  | ask op =>
    have services := context.services_perform op
    show (context.perform op).context.services.plugins = _ ∧
      (context.perform op).context.services.requestor? = _
    rw [services]
    cases op with
    | load key loader => exact context.services.load_keeps key loader
    | _ => exact ⟨rfl, rfl⟩

theorem services_act_congr {context other : Context} (same : context.services = other.services)
    (action : Action) :
    (context.act action).context.services = (other.act action).context.services := by
  cases action with
  | attachApp app? => exact same
  | ask op =>
    refine (context.services_perform op).trans (Eq.trans ?_ (other.services_perform op).symm)
    rw [same]

theorem act_keeps (action : Action) :
    (context.act action).context.requestor? = context.requestor? ∧
      (context.act action).context.synchronous = context.synchronous ∧
      (context.act action).context.plugins = context.plugins := by
  cases action with
  | attachApp app? => exact ⟨rfl, rfl, rfl⟩
  | ask op => exact context.perform_keeps op

theorem app?_act (action : Action) :
    (context.act action).context.app? = action.attached?.getD context.app? := by
  cases action with
  | attachApp app? => rfl
  | ask op => exact context.perform_app? op

end Context

/-! ## Histories -/

/-- What a context is made with, and what is done with it afterwards, in order. -/
structure History where
  settings : Settings
  requestor? : Option Requestor
  synchronous : Bool
  actions : List Action

namespace History

variable (h : History)

def start : Context := .ofSettings h.settings h.requestor? h.synchronous

/-- All that happened. -/
def trace : Trace := (h.start.actAll h.actions).trace

/-- The context as it is at the end. -/
def context : Context := (h.start.actAll h.actions).context

/-- The history with one more action. -/
def add (action : Action) : History := { h with actions := h.actions ++ [action] }

/-- The history without the actions that `p` does not hold of. -/
def only (p : Action → Bool) : History := { h with actions := h.actions.filter p }

def needsHost : Bool := h.actions.any Action.needsHost

def usesServices : Bool := h.actions.any Action.usesServices

/-- The owner that was attached last. -/
def owner? : Option App := (h.actions.filterMap Action.attached?).getLast?.join

/-- The value of a key: what the first loader that succeeded gave. -/
def loaded? (key : String) : Option Json := h.actions.findSome? (·.keeps? key)

/-- The first answer of the host source. -/
def host : String := h.settings.host 0

def scheme : String := if h.settings.secure then "https" else "http"

def headers (key : String) : List String :=
  if Request.lowered key = "host" then [h.host]
  else if Request.lowered key = "x-forwarded-proto" ∧ h.settings.secure then ["https"]
  else []

/-- What is answered to an operation, told from the history. -/
def answer : (op : Operation) → op.Answer
  | .serverName => h.host
  | .serverPort => if h.settings.secure then (443 : Nat) else (80 : Nat)
  | .scheme => h.scheme
  | .isSecure => h.settings.secure
  | .absoluteUri location => h.scheme ++ "://" ++ h.host ++ location
  | .headers key => h.headers key
  | .header key => (h.headers key).head?
  | .path => "/graphql/"
  | .method => "GET"
  | .requestor => h.requestor?
  | .synchronous => h.synchronous
  | .app => h.owner?
  | .appId => h.owner?.map App.id
  | .servicesStarted => h.usesServices
  | .plugins => h.settings.plugins
  | .hasPlugin name => decide (name ∈ h.settings.plugins)
  | .requestorIdentity => h.requestor?.map Requestor.identity
  | .load key loader =>
    match h.loaded? key with
    | some value => .reused value
    | none => .ran loader

/-- The context is as the history tells. -/
structure Recalls (context : Context) : Prop where
  request : context.request = {
    secure := h.settings.secure, host := h.settings.host
    lookups := if h.needsHost then 1 else 0
    knownHost? := if h.needsHost then some h.host else none }
  requestor : context.requestor? = h.requestor?
  synchronous : context.synchronous = h.synchronous
  app : context.app? = h.owner?
  plugins : context.plugins = h.settings.plugins
  started : context.services?.isSome = h.usesServices
  servicePlugins : context.services.plugins = h.settings.plugins
  serviceRequestor : context.services.requestor? = h.requestor?
  loaded : ∀ key, context.services.loaded? key = h.loaded? key

theorem needsHost_add (action : Action) :
    (h.add action).needsHost = (h.needsHost || action.needsHost) := by
  simp [needsHost, add]

theorem usesServices_add (action : Action) :
    (h.add action).usesServices = (h.usesServices || action.usesServices) := by
  simp [usesServices, add]

theorem owner?_add (action : Action) :
    (h.add action).owner? = action.attached?.getD h.owner? := by
  cases action <;> simp [owner?, add, Action.attached?]

theorem loaded?_add (action : Action) (key : String) :
    (h.add action).loaded? key = (h.loaded? key).or (action.keeps? key) := by
  simp [loaded?, add, List.findSome?_append]

theorem context_add (action : Action) : (h.add action).context = (h.context.act action).context :=
  h.start.context_actAll_append h.actions [action]

theorem trace_add (action : Action) :
    (h.add action).trace = h.trace ++ (h.context.act action).trace := by
  refine (h.start.trace_actAll_append h.actions [action]).trans ?_
  rw [Context.actAll, Context.actAll, Context.reply, List.append_nil]
  rfl

/-- Histories grow at their end. -/
theorem add_induction {motive : History → Prop}
    (start : ∀ settings requestor? synchronous,
      motive { settings, requestor?, synchronous, actions := [] })
    (add : ∀ h action, motive h → motive (h.add action)) (h : History) : motive h := by
  obtain ⟨settings, requestor?, synchronous, actions⟩ := h
  induction actions using List.reverseRecOn with
  | nil => exact start settings requestor? synchronous
  | append_singleton earlier action ih => exact add _ action ih

theorem recalls_context (h : History) : h.Recalls h.context := by
  induction h using add_induction with
  | start settings requestor? synchronous =>
    exact ⟨rfl, rfl, rfl, rfl, rfl, rfl, rfl, rfl, fun _ => rfl⟩
  | add h action recalls =>
    rw [context_add]
    constructor
    case request =>
      rw [Context.request_act, recalls.request, needsHost_add]
      cases h.needsHost <;> cases action.needsHost <;> rfl
    case requestor => exact (h.context.act_keeps action).1.trans recalls.requestor
    case synchronous => exact (h.context.act_keeps action).2.1.trans recalls.synchronous
    case plugins => exact (h.context.act_keeps action).2.2.trans recalls.plugins
    case app => rw [Context.app?_act, recalls.app, owner?_add]
    case started =>
      rw [Context.services?_act, usesServices_add, ← recalls.started]
      cases action.usesServices <;> simp
    case servicePlugins => exact (h.context.services_act action).1.trans recalls.servicePlugins
    case serviceRequestor => exact (h.context.services_act action).2.trans recalls.serviceRequestor
    case loaded =>
      intro key
      rw [Context.loaded?_act, recalls.loaded, loaded?_add]

/-! ## Answers -/

namespace Recalls

variable {h : History} {context : Context}

theorem serverName (recalls : h.Recalls context) : context.request.serverName = h.host := by
  rw [recalls.request]
  cases h.needsHost <;> rfl

theorem scheme (recalls : h.Recalls context) : context.request.scheme = h.scheme := by
  rw [recalls.request]
  rfl

theorem headers (recalls : h.Recalls context) (key : String) :
    (context.headers key).answer = h.headers key := by
  rw [Context.headers_eq, History.headers]
  by_cases host : Request.lowered key = "host"
  · rw [if_pos host, if_pos host]
    show [context.request.lookUpHost.serverName] = _
    rw [Request.serverName_lookUpHost, recalls.serverName]
  · rw [if_neg host, if_neg host]
    by_cases protocol : Request.lowered key = "x-forwarded-proto"
    · simp [protocol, Context.reply, Request.headerValues, recalls.request]
    · simp [protocol, Context.reply]

theorem absoluteUri (recalls : h.Recalls context) (location : String) :
    context.request.lookUpHost.absoluteUri location =
      h.scheme ++ "://" ++ h.host ++ location := by
  have scheme : context.request.lookUpHost.scheme = context.request.scheme := by
    unfold Request.lookUpHost
    split <;> rfl
  rw [Request.absoluteUri, Request.serverName_lookUpHost, recalls.serverName, scheme,
    recalls.scheme]

/-- What the history tells of an answer is the answer. -/
theorem answer (recalls : h.Recalls context) (op : Operation) :
    (context.perform op).answer = h.answer op := by
  cases op with
  | serverName => exact context.request.serverName_lookUpHost.trans recalls.serverName
  | serverPort | isSecure =>
    simp only [Context.perform, Context.reply, recalls.request]
    rfl
  | scheme => exact recalls.scheme
  | absoluteUri location => exact recalls.absoluteUri location
  | headers key => exact recalls.headers key
  | header key => exact congrArg List.head? (recalls.headers key)
  | path | method => rfl
  | requestor => exact recalls.requestor
  | synchronous => exact recalls.synchronous
  | app => exact recalls.app
  | appId => exact congrArg (Option.map App.id) recalls.app
  | servicesStarted => exact recalls.started
  | plugins => exact recalls.servicePlugins
  | hasPlugin name =>
    show decide (name ∈ context.services.plugins) = decide (name ∈ h.settings.plugins)
    rw [recalls.servicePlugins]
  | requestorIdentity => exact congrArg (Option.map Requestor.identity) recalls.serviceRequestor
  | load key loader =>
    refine (context.services.outcome_load key loader).trans ?_
    rw [recalls.loaded]
    rfl

end Recalls

/-! ## Laziness -/

/-- The request is as if nothing had been done but what needs the host. -/
theorem request_only (h : History) :
    h.context.request = (h.only Action.needsHost).context.request := by
  have same : (h.only Action.needsHost).needsHost = h.needsHost := by
    simp [only, needsHost]
  rw [h.recalls_context.request, (h.only Action.needsHost).recalls_context.request, same]
  rfl

/-- The services are as if nothing had been done but what uses them. -/
theorem services?_only (h : History) :
    h.context.services? = (h.only Action.usesServices).context.services? := by
  induction h using add_induction with
  | start settings requestor? synchronous => rfl
  | add h action ih =>
    have services : h.context.services = (h.only Action.usesServices).context.services := by
      rw [Context.services, Context.services, ih, h.recalls_context.plugins,
        h.recalls_context.requestor, (h.only Action.usesServices).recalls_context.plugins,
        (h.only Action.usesServices).recalls_context.requestor]
      rfl
    rw [context_add, Context.services?_act]
    cases uses : action.usesServices with
    | false =>
      have same : (h.add action).only Action.usesServices = h.only Action.usesServices := by
        simp [only, add, List.filter_append, uses]
      rw [same]
      exact ih
    | true =>
      have same : (h.add action).only Action.usesServices =
          (h.only Action.usesServices).add action := by
        simp [only, add, List.filter_append, uses]
      rw [same, context_add, Context.services?_act, uses, if_pos rfl, if_pos rfl,
        Context.services_act_congr services]

theorem hostLookups_act (h : History) (action : Action) :
    hostLookups (h.context.act action).trace =
      if action.needsHost ∧ h.needsHost = false then 1 else 0 := by
  rw [Context.hostLookups_act, h.recalls_context.request]
  cases h.needsHost <;> simp

theorem hostLookups_trace (h : History) :
    hostLookups h.trace = if h.needsHost then 1 else 0 := by
  induction h using add_induction with
  | start settings requestor? synchronous => rfl
  | add h action ih =>
    have parts : hostLookups (h.add action).trace =
        hostLookups h.trace + hostLookups (h.context.act action).trace := by
      rw [trace_add, hostLookups, List.countP_append]
      rfl
    rw [parts, ih, hostLookups_act, needsHost_add]
    cases h.needsHost <;> cases action.needsHost <;> rfl

/-- A context makes nothing before it is needed, and makes it once. -/
structure IsLazy (h : History) : Prop where
  /-- The host is looked up once if anything needed it, and otherwise not at all. -/
  once : hostLookups h.trace = if h.needsHost then 1 else 0
  /-- The first action that needs the host looks it up, and no other action does. -/
  first : ∀ action, hostLookups (h.context.act action).trace =
    if action.needsHost ∧ h.needsHost = false then 1 else 0
  /-- Every answer is what the history tells, those that depend on the host with the first
  answer of its source. -/
  answers : ∀ op, (h.context.perform op).answer = h.answer op
  /-- There are services if anything used them. -/
  started : h.context.services?.isSome = h.usesServices
  /-- Services have the plugins and the requestor of the context. -/
  kept : ∀ services, h.context.services? = some services →
    services.plugins = h.settings.plugins ∧ services.requestor? = h.requestor?
  hostApart : h.context.request = (h.only Action.needsHost).context.request
  servicesApart : h.context.services? = (h.only Action.usesServices).context.services?
  letterCase : ∀ key, h.context.headers (Request.lowered key) = h.context.headers key

theorem isLazy (h : History) : h.IsLazy := by
  have recalls := h.recalls_context
  constructor
  case once => exact h.hostLookups_trace
  case first => exact h.hostLookups_act
  case answers => exact recalls.answer
  case started => exact recalls.started
  case kept =>
    intro services found
    have same : h.context.services = services := by
      rw [Context.services, found]
      rfl
    exact ⟨same ▸ recalls.servicePlugins, same ▸ recalls.serviceRequestor⟩
  case hostApart => exact h.request_only
  case servicesApart => exact h.services?_only
  case letterCase =>
    intro key
    rw [Context.headers, Context.headers, Request.header?_lowered]

end History

end WebhookPayload
