/-!
# Computations that report events

What a computation reports on its way stays reported when it fails later on.
-/
namespace TrackerSearch

/-- What is worth a line in the log. -/
inductive Event where
  | filterUnknown
  | filterFailed
  | templateBadPattern
  | templateUnresolvedFallback
  | searchInputUnresolved
  | searchStarted
  | searchCompleted
  | downloadResolved
  | relayNotConfigured
  | relayConnectionFailed
  | relayEnvelopeInvalid
  | relayStatusNotOk
  | relayFetched
  | directFetchFailed
  | directBadStatus
  | directFetched
  /-- A request was answered. -/
  | answered (method url : String) (status : Int)
  | rowsParsed
  | definitionLoadFailed
  | definitionValidationFailed
  | definitionDirectoryNotFound
  | definitionsDiscovered
  | noDefinitionsFound
  | definitionLoaded
  | definitionSkipped
  | indexerSearchFailed
  | indexerSearchCrashed
  | deadlineExceeded
  | downloadResolutionFailed
  | aggregatedSearchCompleted
  | probeUnhealthy
  | probeDone
  | logConfigured
  | clientInitialized
  | runtimeReady
  | clientClosed
  | commandFailed
  deriving Repr, DecidableEq

inductive Level where
  | debug
  | info
  | warning
  | error
  deriving Repr, DecidableEq

namespace Level

def name : Level → String
  | debug => "debug"
  | info => "info"
  | warning => "warning"
  | error => "error"

/-- The rank of a level: what matters more has the higher one. -/
def rank : Level → Nat
  | debug => 0
  | info => 1
  | warning => 2
  | error => 3

end Level

namespace Event

def level : Event → Level
  | definitionLoadFailed | definitionValidationFailed | indexerSearchCrashed | commandFailed => .error
  | filterUnknown | filterFailed | templateBadPattern | templateUnresolvedFallback
  | searchInputUnresolved | relayNotConfigured | relayConnectionFailed | relayEnvelopeInvalid
  | definitionDirectoryNotFound | noDefinitionsFound | definitionSkipped | indexerSearchFailed
  | deadlineExceeded | downloadResolutionFailed => .warning
  | searchCompleted | relayStatusNotOk | answered .. | definitionsDiscovered
  | aggregatedSearchCompleted => .info
  | searchStarted | downloadResolved | relayFetched | directFetchFailed | directBadStatus
  | directFetched | rowsParsed | definitionLoaded | probeUnhealthy | probeDone | logConfigured
  | clientInitialized | runtimeReady | clientClosed => .debug

/-- The phrase that goes with a status in the log. -/
def statusPhrases : List (Int × String) :=
  [(100, "Continue"), (101, "Switching Protocols"), (102, "Processing"), (103, "Early Hints"),
    (200, "OK"), (201, "Created"), (202, "Accepted"), (203, "Non-Authoritative Information"),
    (204, "No Content"), (205, "Reset Content"), (206, "Partial Content"), (207, "Multi-Status"),
    (208, "Already Reported"), (226, "IM Used"), (300, "Multiple Choices"),
    (301, "Moved Permanently"), (302, "Found"), (303, "See Other"), (304, "Not Modified"),
    (305, "Use Proxy"), (307, "Temporary Redirect"), (308, "Permanent Redirect"),
    (400, "Bad Request"), (401, "Unauthorized"), (402, "Payment Required"), (403, "Forbidden"),
    (404, "Not Found"), (405, "Method Not Allowed"), (406, "Not Acceptable"),
    (407, "Proxy Authentication Required"), (408, "Request Timeout"), (409, "Conflict"),
    (410, "Gone"), (411, "Length Required"), (412, "Precondition Failed"),
    (413, "Request Entity Too Large"), (414, "Request-URI Too Long"),
    (415, "Unsupported Media Type"), (416, "Requested Range Not Satisfiable"),
    (417, "Expectation Failed"), (418, "I'm a teapot"), (421, "Misdirected Request"),
    (422, "Unprocessable Entity"), (423, "Locked"), (424, "Failed Dependency"),
    (425, "Too Early"), (426, "Upgrade Required"), (428, "Precondition Required"),
    (429, "Too Many Requests"), (431, "Request Header Fields Too Large"),
    (451, "Unavailable For Legal Reasons"), (500, "Internal Server Error"),
    (501, "Not Implemented"), (502, "Bad Gateway"), (503, "Service Unavailable"),
    (504, "Gateway Timeout"), (505, "HTTP Version Not Supported"),
    (506, "Variant Also Negotiates"), (507, "Insufficient Storage"), (508, "Loop Detected"),
    (510, "Not Extended"), (511, "Network Authentication Required")]

/-- The phrase of a status; an unknown one has an empty phrase. -/
def statusPhrase (status : Int) : String :=
  ((statusPhrases.find? (·.1 == status)).map (·.2)).getD ""

/-- The name under which an event is logged. -/
def name : Event → String
  | filterUnknown => "filter_unknown"
  | filterFailed => "filter_failed"
  | templateBadPattern => "template_bad_pattern"
  | templateUnresolvedFallback => "template_unresolved_fallback"
  | searchInputUnresolved => "search_input_unresolved"
  | searchStarted => "indexer_search_started"
  | searchCompleted => "indexer_search_completed"
  | downloadResolved => "download_resolved"
  | relayNotConfigured => "relay_not_configured"
  | relayConnectionFailed => "relay_connection_failed"
  | relayEnvelopeInvalid => "relay_envelope_invalid"
  | relayStatusNotOk => "relay_status_not_ok"
  | relayFetched => "relay_fetch_ok"
  | directFetchFailed => "direct_fetch_failed"
  | directBadStatus => "direct_fetch_bad_status"
  | directFetched => "direct_fetch_ok"
  | answered method url status =>
    s!"HTTP Request: {method} {url} \"HTTP/1.1 {status} {statusPhrase status}\""
  | rowsParsed => "rows_parsed"
  | definitionLoadFailed => "definition_load_failed"
  | definitionValidationFailed => "definition_validation_failed"
  | definitionDirectoryNotFound => "definition_directory_not_found"
  | definitionsDiscovered => "definitions_discovered"
  | noDefinitionsFound => "no_definitions_found"
  | definitionLoaded => "definition_loaded"
  | definitionSkipped => "definition_skipped"
  | indexerSearchFailed => "indexer_search_failed"
  | indexerSearchCrashed => "indexer_search_crashed"
  | deadlineExceeded => "aggregated_search_deadline_exceeded"
  | downloadResolutionFailed => "download_resolution_failed"
  | aggregatedSearchCompleted => "aggregated_search_completed"
  | probeUnhealthy => "probe_unhealthy"
  | probeDone => "probe_done"
  | logConfigured => "logging_configured"
  | clientInitialized => "http_client_initialized"
  | runtimeReady => "runtime_ready"
  | clientClosed => "http_client_closed"
  | commandFailed => "command_failed"

/-- The logger that an event is written by. -/
def logger : Event → String
  | answered .. => "httpx"
  | filterUnknown | filterFailed => "indexarr.infrastructure.scraping.filters"
  | rowsParsed => "indexarr.infrastructure.scraping.row_parser"
  | templateBadPattern | templateUnresolvedFallback =>
    "indexarr.infrastructure.templating.resolver"
  | searchInputUnresolved | searchStarted | searchCompleted | downloadResolved =>
    "indexarr.infrastructure.search.search_engine"
  | relayNotConfigured => "indexarr.infrastructure.fetching.selector"
  | relayConnectionFailed | relayEnvelopeInvalid | relayStatusNotOk | relayFetched =>
    "indexarr.infrastructure.fetching.relay"
  | directFetchFailed | directBadStatus | directFetched => "indexarr.infrastructure.fetching.direct"
  | definitionLoadFailed | definitionValidationFailed =>
    "indexarr.infrastructure.definitions.loader"
  | definitionDirectoryNotFound | definitionsDiscovered | noDefinitionsFound | definitionLoaded
  | definitionSkipped => "indexarr.infrastructure.definitions.registry"
  | indexerSearchFailed | indexerSearchCrashed | deadlineExceeded | downloadResolutionFailed
  | aggregatedSearchCompleted => "indexarr.application.use_cases.indexer_search"
  | probeUnhealthy | probeDone => "indexarr.infrastructure.probing.prober"
  | logConfigured => "indexarr.infrastructure.logging.setup"
  | clientInitialized | runtimeReady | clientClosed => "indexarr.infrastructure.composition"
  | commandFailed => "indexarr.interfaces.cli.cli"

end Event

instance decidableEqExcept {ε α : Type} [DecidableEq ε] [DecidableEq α] : DecidableEq (Except ε α)
  | .ok a, .ok b => decidable_of_iff (a = b) (by rw [Except.ok.injEq])
  | .error a, .error b => decidable_of_iff (a = b) (by rw [Except.error.injEq])
  | .ok _, .error _ => isFalse fun h => by cases h
  | .error _, .ok _ => isFalse fun h => by cases h

theorem mapError_ok {ε ε' α : Type} (f : ε → ε') (a : α) :
    (.ok a : Except ε α).mapError f = .ok a := rfl

theorem mapError_error {ε ε' α : Type} (f : ε → ε') (e : ε) :
    (.error e : Except ε α).mapError f = .error (f e) := rfl

theorem except_bind_eq_ok {ε α β : Type} {x : Except ε α} {f : α → Except ε β} {b : β} :
    (x >>= f) = .ok b ↔ ∃ a, x = .ok a ∧ f a = .ok b := by
  cases x <;> simp [bind, Except.bind]

theorem except_bind_eq_error {ε α β : Type} {x : Except ε α} {f : α → Except ε β} {e : ε} :
    (x >>= f) = .error e ↔ x = .error e ∨ ∃ a, x = .ok a ∧ f a = .error e := by
  cases x <;> simp [bind, Except.bind]

theorem except_map_eq_ok {ε α β : Type} {x : Except ε α} {f : α → β} {b : β} :
    x.map f = .ok b ↔ ∃ a, x = .ok a ∧ f a = b := by
  constructor
  · intro h
    cases x with
    | error e => cases h
    | ok a => exact ⟨a, rfl, Except.ok.inj h⟩
  · rintro ⟨a, rfl, rfl⟩
    rfl

theorem except_map_eq_error {ε α β : Type} {x : Except ε α} {f : α → β} {e : ε} :
    x.map f = .error e ↔ x = .error e := by
  constructor
  · intro h
    cases x with
    | error e' => exact congrArg _ (Except.error.inj h)
    | ok a => cases h
  · rintro rfl
    rfl

/-- A result or a failure, and the events reported on the way to it, first one first. -/
structure Traced (ε α : Type) where
  outcome : Except ε α
  events : List Event := []
  deriving DecidableEq

namespace Traced

variable {ε α β : Type}

instance : Monad (Traced ε) where
  pure a := ⟨.ok a, []⟩
  bind x f :=
    match x.outcome with
    | .error e => ⟨.error e, x.events⟩
    | .ok a => ⟨(f a).outcome, x.events ++ (f a).events⟩

instance : MonadExceptOf ε (Traced ε) where
  throw e := ⟨.error e, []⟩
  tryCatch x handle :=
    match x.outcome with
    | .error e => ⟨(handle e).outcome, x.events ++ (handle e).events⟩
    | .ok a => ⟨.ok a, x.events⟩

/-- Report an event. -/
def report (e : Event) : Traced ε Unit := ⟨.ok (), [e]⟩

def ofExcept (r : Except ε α) : Traced ε α := ⟨r, []⟩

/-- Rename the failures. -/
def mapError {ε' : Type} (f : ε → ε') (x : Traced ε α) : Traced ε' α :=
  ⟨x.outcome.mapError f, x.events⟩

/-- The outcome as a value; this never fails. -/
def attempt {ε' : Type} (x : Traced ε α) : Traced ε' (Except ε α) := ⟨.ok x.outcome, x.events⟩

@[simp] theorem outcome_pure (a : α) : (pure a : Traced ε α).outcome = .ok a := rfl

@[simp] theorem events_pure (a : α) : (pure a : Traced ε α).events = [] := rfl

@[simp] theorem outcome_throw (e : ε) : (throw e : Traced ε α).outcome = .error e := rfl

@[simp] theorem pure_bind (a : α) (f : α → Traced ε β) : (pure a >>= f) = f a := rfl

@[simp] theorem mapError_pure {ε' : Type} (g : ε → ε') (a : α) :
    (pure a : Traced ε α).mapError g = pure a := rfl

@[simp] theorem attempt_pure {ε' : Type} (a : α) :
    (pure a : Traced ε α).attempt = (pure (.ok a) : Traced ε' (Except ε α)) := rfl

theorem outcome_bind (x : Traced ε α) (f : α → Traced ε β) :
    (x >>= f).outcome = x.outcome.bind fun a => (f a).outcome := by
  cases h : x.outcome <;> simp [bind, h, Except.bind]

theorem outcome_bind_eq_ok {x : Traced ε α} {f : α → Traced ε β} {b : β} :
    (x >>= f).outcome = .ok b ↔ ∃ a, x.outcome = .ok a ∧ (f a).outcome = .ok b := by
  rw [outcome_bind]
  cases x.outcome <;> simp [Except.bind]

theorem outcome_bind_eq_error {x : Traced ε α} {f : α → Traced ε β} {e : ε} :
    (x >>= f).outcome = .error e ↔
      x.outcome = .error e ∨ ∃ a, x.outcome = .ok a ∧ (f a).outcome = .error e := by
  rw [outcome_bind]
  cases x.outcome <;> simp [Except.bind]

@[simp] theorem ofExcept_ok (a : α) : (ofExcept (.ok a) : Traced ε α) = pure a := rfl

@[simp] theorem outcome_ofExcept (r : Except ε α) : (ofExcept r).outcome = r := rfl

end Traced

end TrackerSearch
