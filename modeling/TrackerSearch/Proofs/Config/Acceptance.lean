import TrackerSearch.Config.Load
import TrackerSearch.Proofs.Document.Checked
import TrackerSearch.Trace

/-!
# Configurations that are accepted

A configuration is accepted just if each setting by itself is read to its value in it
(`load_eq_ok`). So what is checked of a setting holds in every configuration.
-/
namespace TrackerSearch.Config

open Document

variable {entries : Entries} {c : Config} {dir : Checked Location} {src : Sources} {s : Setting}

theorem checkThat_eq_ok {α : Type} {fits : α → Bool} {message : String} {x : Checked α} {a : α} :
    checkThat fits message x = .ok a ↔ x = .ok a ∧ fits a = true := by
  unfold checkThat
  rw [Checked.andThen_eq_ok]
  constructor
  · rintro ⟨a', ha', h⟩
    split at h
    · rename_i hfits
      obtain rfl := Checked.ok.inj h
      exact ⟨ha', hfits⟩
    · cases h
  · rintro ⟨rfl, hfits⟩
    exact ⟨a, rfl, if_pos hfits⟩

/-- The value of a setting in a merged layer. -/
def valueIn (entries : Entries) (s : Setting) : Document := (get? entries s).getD s.default

theorem underPlace_eq_ok {α : Type} {x : Checked α} {a : α} :
    underPlace s x = .ok a ↔ x = .ok a := by
  unfold underPlace
  split <;> simp only [Checked.under_eq_ok]

theorem reading_eq_ok {α : Type} {check : Document → Checked α} {a : α} :
    reading entries s check = .ok a ↔ check (valueIn entries s) = .ok a := underPlace_eq_ok

/-- Each setting but the directory of definitions is read to its value in the configuration. -/
structure Agrees (entries : Entries) (c : Config) : Prop where
  appName : reading entries .appName asString = .ok c.appName
  deployment : reading entries .deployment (oneOf Deployment.names) = .ok c.deployment
  httpTimeout : reading entries .httpTimeout (fun d =>
    checkThat isPositive "http_timeout_seconds must be > 0" d.asNumber) = .ok c.httpTimeout
  followRedirects : reading entries .followRedirects asBool = .ok c.followRedirects
  userAgent : reading entries .userAgent asString = .ok c.userAgent
  relayUrl : reading entries .relayUrl (fun d => (d.nullable asString).map addressOf) =
    .ok c.relayUrl
  relayTimeout : reading entries .relayTimeout (fun d =>
    checkThat (0 < ·) "relay_max_timeout_ms must be > 0" d.asInt) = .ok c.relayTimeout
  maxConcurrent : reading entries .maxConcurrent (fun d =>
    checkThat (1 ≤ ·) "concurrency limits must be >= 1" d.asInt) = .ok c.maxConcurrent
  deadline : reading entries .deadline (fun d =>
    checkThat (fun x => (x.map isPositive).getD true) "search_deadline_seconds must be > 0"
      (d.nullable asNumber)) = .ok c.deadline
  configFallback : reading entries .configFallback asString = .ok c.configFallback
  probeConcurrency : reading entries .probeConcurrency (fun d =>
    checkThat (1 ≤ ·) "concurrency limits must be >= 1" d.asInt) = .ok c.probeConcurrency
  logLevel : reading entries .logLevel (oneOf LogLevel.names) = .ok c.logLevel
  logFormat : ∃ format, reading entries .logFormat (nullable (oneOf LogFormat.names)) =
    .ok format ∧ format.getD c.deployment.logFormat = c.logFormat

theorem checkAll_eq_ok :
    checkAll entries dir = .ok c ↔ dir = .ok c.definitionsDir ∧ Agrees entries c := by
  unfold checkAll
  constructor
  · intro h
    obtain ⟨_, format, h₁, hformat, hc⟩ := Checked.seq_eq_ok.mp h
    obtain ⟨_, _, h₂, hlevel, rfl⟩ := Checked.seq_eq_ok.mp h₁
    obtain ⟨_, _, h₃, hprobes, rfl⟩ := Checked.seq_eq_ok.mp h₂
    obtain ⟨_, _, h₄, hfallback, rfl⟩ := Checked.seq_eq_ok.mp h₃
    obtain ⟨_, _, h₅, hdeadline, rfl⟩ := Checked.seq_eq_ok.mp h₄
    obtain ⟨_, _, h₆, hlimit, rfl⟩ := Checked.seq_eq_ok.mp h₅
    obtain ⟨_, _, h₇, hrelayTimeout, rfl⟩ := Checked.seq_eq_ok.mp h₆
    obtain ⟨_, _, h₈, hrelay, rfl⟩ := Checked.seq_eq_ok.mp h₇
    obtain ⟨_, _, h₉, hagent, rfl⟩ := Checked.seq_eq_ok.mp h₈
    obtain ⟨_, _, h₁₀, hredirects, rfl⟩ := Checked.seq_eq_ok.mp h₉
    obtain ⟨_, _, h₁₁, htimeout, rfl⟩ := Checked.seq_eq_ok.mp h₁₀
    obtain ⟨_, dir', h₁₂, hdir, rfl⟩ := Checked.seq_eq_ok.mp h₁₁
    obtain ⟨_, _, h₁₃, hdeployment, rfl⟩ := Checked.seq_eq_ok.mp h₁₂
    obtain ⟨_, hname, rfl⟩ := Checked.map_eq_ok.mp h₁₃
    subst hc
    exact ⟨underPlace_eq_ok.mp hdir, hname, hdeployment, htimeout, hredirects, hagent, hrelay,
      hrelayTimeout, hlimit, hdeadline, hfallback, hprobes, hlevel, format, hformat, rfl⟩
  · rintro ⟨rfl, h⟩
    obtain ⟨format, hformat, hc⟩ := h.logFormat
    have hdir : underPlace .definitionsDir (.ok c.definitionsDir) = .ok c.definitionsDir :=
      underPlace_eq_ok.mpr rfl
    simp only [hdir, h.appName, h.deployment, h.httpTimeout, h.followRedirects, h.userAgent,
      h.relayUrl, h.relayTimeout, h.maxConcurrent, h.deadline, h.configFallback,
      h.probeConcurrency, h.logLevel, hformat]
    refine congrArg Checked.ok ?_
    dsimp only
    rw [hc]

/-- Where every other setting is accepted, what does not fit is the directory of definitions. -/
theorem checkAll_of_bad (h : Agrees entries c) (problems : List Mismatch) :
    checkAll entries (.bad problems) = .bad (problems.map fun p =>
      { p with path := [.key "definitions", .key "dir"] ++ p.path }) := by
  obtain ⟨format, hformat, -⟩ := h.logFormat
  unfold checkAll
  simp only [h.appName, h.deployment, h.httpTimeout, h.followRedirects, h.userAgent, h.relayUrl,
    h.relayTimeout, h.maxConcurrent, h.deadline, h.configFallback, h.probeConcurrency, h.logLevel,
    hformat]
  exact congrArg Checked.bad List.map_map

theorem ofEntries_eq_ok {homes : Homes} :
    ofEntries homes entries = .ok c ↔
      pathOf homes (valueIn entries .definitionsDir) = .ok (.ok c.definitionsDir) ∧
        Agrees entries c := by
  unfold ofEntries
  rw [except_bind_eq_ok]
  have hchecked (dir : Checked Location) :
      (checkAll entries dir).toExcept.mapError (ConfigError.mismatches .merged) = .ok c ↔
        checkAll entries dir = .ok c := by
    cases checkAll entries dir <;> simp [Checked.toExcept, Except.mapError]
  simp only [hchecked, checkAll_eq_ok]
  constructor
  · rintro ⟨dir, hdir, rfl, h⟩
    exact ⟨hdir, h⟩
  · rintro ⟨hdir, h⟩
    exact ⟨_, hdir, rfl, h⟩

theorem load_eq_ok :
    load src = .ok c ↔ ∃ vars file env, environmentOf src = .ok vars ∧ fileLayer src = .ok file ∧
      ofVariables (src.homes vars) vars = .ok env ∧
      pathOf (src.homes vars)
        (valueIn (stack [defaults, file, env, src.overrides]) .definitionsDir) =
          .ok (.ok c.definitionsDir) ∧ Agrees (stack [defaults, file, env, src.overrides]) c := by
  simp only [load, except_bind_eq_ok, ofEntries_eq_ok]
  constructor
  · rintro ⟨vars, hvars, file, hfile, env, henv, h⟩
    exact ⟨vars, file, env, hvars, hfile, henv, h⟩
  · rintro ⟨vars, file, env, hvars, hfile, henv, h⟩
    exact ⟨vars, hvars, file, hfile, env, henv, h⟩

end TrackerSearch.Config
