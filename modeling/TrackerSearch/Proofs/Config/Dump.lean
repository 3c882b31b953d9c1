import TrackerSearch.Proofs.Config.Acceptance
import TrackerSearch.Proofs.Config.Precedence
import TrackerSearch.Proofs.Location
import TrackerSearch.Proofs.Text.Blank

/-!
# Loading what was written down

A configuration that is written down by sections gives every setting, also one without a value. On
the command line it counts before all layers below it, and each setting is read to the value that it
had. Only the directory of definitions is looked at once more for a tilde at its start; there is none
unless the home directory was relative. Main statement: `load_dump`.
-/
namespace TrackerSearch

namespace Config

open Document Text

variable {lower upper : Entries} {c : Config} {s : Setting} {origin src : Sources}
  {vars : Variables} {file env : Entries}

/-! ## What is written down -/

/-- The entries of a configuration by sections. -/
def entries (c : Config) : Entries :=
  c.entriesOf none ++ sections.map fun name => (.str name, .map (c.entriesOf (some name)))

theorem toDocument_eq_map_iff {layer : Entries} : c.toDocument = .map layer ↔ layer = c.entries := by
  rw [toDocument, Document.map.injEq]
  exact eq_comm

theorem sectionOf_entries (c : Config) {name : String} (hname : name ∈ sections) :
    sectionOf c.entries name = some (c.entriesOf (some name)) := by
  simp only [sections, List.mem_cons, List.not_mem_nil, or_false] at hname
  rcases hname with rfl | rfl | rfl | rfl | rfl | rfl <;> rfl

/-- Every setting is written down with its value. -/
theorem given?_entries (c : Config) (s : Setting) : given? c.entries s = some (c.value s) := by
  cases s <;> rfl

theorem value_ne_map (c : Config) (s : Setting) (inner : Entries) : c.value s ≠ .map inner := by
  cases s
  case relayUrl => cases h : c.relayUrl <;> simp [value, h]
  case deadline => cases h : c.deadline <;> simp [value, h]
  all_goals exact Document.noConfusion

theorem plain_entries (c : Config) : Plain c.entries where
  wellFormed name hname inner hinner := by
    rw [sectionOf_entries c hname] at hinner
    obtain rfl := Option.some.inj hinner
    have hkeys : (Setting.all.filter fun s => s.place.1 == some name).Pairwise fun s t =>
        sameKey (.str s.place.2) (.str t.place.2) = false := by
      simp only [sections, List.mem_cons, List.not_mem_nil, or_false] at hname
      rcases hname with rfl | rfl | rfl | rfl | rfl | rfl <;> decide
    unfold Distinct entriesOf
    rw [List.map_map]
    exact List.pairwise_map.mpr hkeys
  values s d hd inner := by
    rw [given?_entries] at hd
    exact Option.some.inj hd ▸ value_ne_map c s inner

/-- On top of any layers, a setting has the value that is written down. -/
theorem valueIn_stack_entries (c : Config) (lower : List Entries) (s : Setting) :
    valueIn (stack (lower ++ [c.entries])) s = c.value s := by
  rw [stack, List.foldl_append, List.foldl_cons, List.foldl_nil, valueIn,
    get?_merge_sectioned (plain_entries c), given?_entries]
  rfl

/-! ## Reading it again -/

theorem addressOf_addressOf (text : Option String) : addressOf (addressOf text) = addressOf text := by
  cases text with
  | none => rfl
  | some text =>
    by_cases hblank : stripped text = ""
    · simp [addressOf, hblank]
    · simp [addressOf, hblank, stripped_of_trimmed (trimmed_stripped text)]

/-- A value that passed a check once passes it again. -/
theorem reading_checkThat {α : Type} {check : Document → Checked α} {fits : α → Bool}
    {message : String} {a : α}
    (h : reading lower s (fun d => checkThat fits message (check d)) = .ok a)
    (hvalue : check (valueIn upper s) = .ok a) :
    reading upper s (fun d => checkThat fits message (check d)) = .ok a := by
  have hfits : fits a = true := (checkThat_eq_ok.mp (reading_eq_ok.mp h)).2
  exact reading_eq_ok.mpr (checkThat_eq_ok.mpr ⟨hvalue, hfits⟩)

/-- Where the settings have the values of a configuration that was accepted, they are read to these
values again. -/
theorem Agrees.of_values (h : Agrees lower c) (hvalues : ∀ s, valueIn upper s = c.value s) :
    Agrees upper c where
  appName := reading_eq_ok.mpr (by rw [hvalues]; rfl)
  deployment := reading_eq_ok.mpr (by rw [hvalues, value]; cases c.deployment <;> rfl)
  httpTimeout := reading_checkThat h.httpTimeout (by rw [hvalues]; rfl)
  followRedirects := reading_eq_ok.mpr (by rw [hvalues]; rfl)
  userAgent := reading_eq_ok.mpr (by rw [hvalues]; rfl)
  relayUrl := reading_eq_ok.mpr (by
    obtain ⟨text, -, htext⟩ := Checked.map_eq_ok.mp (reading_eq_ok.mp h.relayUrl)
    have hstripped : addressOf c.relayUrl = c.relayUrl := by rw [← htext, addressOf_addressOf]
    rw [hvalues, Checked.map_eq_ok]
    refine ⟨c.relayUrl, ?_, hstripped⟩
    rw [value]
    cases c.relayUrl <;> rfl)
  relayTimeout := reading_checkThat h.relayTimeout (by rw [hvalues]; rfl)
  maxConcurrent := reading_checkThat h.maxConcurrent (by rw [hvalues]; rfl)
  deadline := reading_checkThat h.deadline (by rw [hvalues, value]; cases c.deadline <;> rfl)
  configFallback := reading_eq_ok.mpr (by rw [hvalues]; rfl)
  probeConcurrency := reading_checkThat h.probeConcurrency (by rw [hvalues]; rfl)
  logLevel := reading_eq_ok.mpr (by rw [hvalues, value]; cases c.logLevel <;> rfl)
  logFormat := by
    refine ⟨some c.logFormat, reading_eq_ok.mpr ?_, rfl⟩
    rw [hvalues, value]
    cases c.logFormat <;> rfl

/-! ## The directory of definitions -/

theorem pathOf_eq_ok {homes : Homes} {d : Document} {l : Location} :
    pathOf homes d = .ok (.ok l) ↔ ∃ text, d = .str text ∧
      (Location.ofString text).expandHome? homes = some l := by
  constructor
  · intro h
    cases d with
    | str text =>
      refine ⟨text, rfl, ?_⟩
      rw [pathOf] at h
      split at h
      · rename_i l' hl'
        exact hl'.trans (congrArg some (Checked.ok.inj (Except.ok.inj h)))
      · split at h <;> cases h
    | _ => cases h
  · rintro ⟨text, rfl, h⟩
    rw [pathOf, h]

/-- The directory of an accepted configuration was read from a text below a home directory that was
known in its environment. -/
theorem definitionsDir_of_load (hload : load origin = .ok c) : ∃ vars text,
    environmentOf origin = .ok vars ∧
      (Location.ofString text).expandHome? (origin.homes vars) = some c.definitionsDir := by
  obtain ⟨vars, file, env, hvars, -, -, hdir, -⟩ := load_eq_ok.mp hload
  obtain ⟨text, -, hexpand⟩ := pathOf_eq_ok.mp hdir
  exact ⟨vars, text, hvars, hexpand⟩

theorem written_definitionsDir (hload : load origin = .ok c) : c.definitionsDir.Written := by
  obtain ⟨_, text, -, hexpand⟩ := definitionsDir_of_load hload
  exact Location.written_of_expandHome? (Location.written_ofString text) hexpand

/-- The failure of a directory of definitions below a home that is not known. -/
def homelessError (dir : Location) : ConfigError :=
  if dir.account?.any isNoAccount then
    .mismatches .merged [⟨[.key "definitions", .key "dir"], "value_error",
      "Value error, embedded null byte"⟩]
  else .noHome

/-- Where every other setting is accepted, a home that is not known is the only problem. -/
theorem ofEntries_of_agrees {homes : Homes} {entries : Entries} (h : Agrees entries c)
    (hwritten : c.definitionsDir.Written)
    (hdir : valueIn entries .definitionsDir = .str c.definitionsDir.text) :
    ofEntries homes entries = (c.definitionsDir.expandHome? homes).elim
      (.error (homelessError c.definitionsDir)) fun dir => .ok { c with definitionsDir := dir } := by
  cases hexpand : c.definitionsDir.expandHome? homes with
  | some dir =>
    have hpath : pathOf homes (valueIn entries .definitionsDir) = .ok (.ok dir) := by
      rw [hdir, pathOf, hwritten.ofString_text, hexpand]
    -- No other setting depends on the directory, so the readings are those of the new record too.
    exact ofEntries_eq_ok.mpr ⟨hpath, { h with }⟩
  | none =>
    by_cases hname : c.definitionsDir.account?.any isNoAccount = true
    · have hpath : pathOf homes (valueIn entries .definitionsDir) =
          .ok (refused "embedded null byte") := by
        rw [hdir, pathOf, hwritten.ofString_text, hexpand]
        exact if_pos hname
      rw [homelessError, if_pos hname]
      refine except_bind_eq_error.mpr (.inr ⟨_, hpath, ?_⟩)
      rw [refused, Checked.mismatch, checkAll_of_bad h]
      rfl
    · have hpath : pathOf homes (valueIn entries .definitionsDir) = .error .noHome := by
        rw [hdir, pathOf, hwritten.ofString_text, hexpand]
        exact if_neg hname
      rw [homelessError, if_neg hname]
      exact except_bind_eq_error.mpr (.inl hpath)

/-- Written down and loaded again, a configuration is the same up to its directory of definitions,
in which a home directory is put once more. -/
theorem load_dump_eq (hload : load origin = .ok c) (hdump : c.toDocument = .map src.overrides)
    (hvars : environmentOf src = .ok vars) (hfile : fileLayer src = .ok file)
    (henv : ofVariables (src.homes vars) vars = .ok env) :
    load src = (c.definitionsDir.expandHome? (src.homes vars)).elim
      (.error (homelessError c.definitionsDir)) fun dir => .ok { c with definitionsDir := dir } := by
  have hvalues (s : Setting) :
      valueIn (stack [defaults, file, env, src.overrides]) s = c.value s := by
    rw [toDocument_eq_map_iff.mp hdump]
    exact valueIn_stack_entries c [defaults, file, env] s
  obtain ⟨_, _, _, -, -, -, -, hagrees⟩ := load_eq_ok.mp hload
  have hagain : ofEntries (src.homes vars) _ = _ :=
    ofEntries_of_agrees (hagrees.of_values hvalues) (written_definitionsDir hload)
      (hvalues .definitionsDir)
  simpa only [load, hvars, hfile, henv, bind, Except.bind] using hagain

/-- A configuration that is written down and given on the command line is loaded again over any
file and any environment, unless its directory of definitions starts with a tilde in which another
directory is put, or none is known. Where no known home directory is relative that does not
happen. -/
theorem load_dump (hload : load origin = .ok c) (hdump : c.toDocument = .map src.overrides)
    (hvars : environmentOf src = .ok vars) (hfile : fileLayer src = .ok file)
    (henv : ofVariables (src.homes vars) vars = .ok env) :
    load src = (c.definitionsDir.expandHome? (src.homes vars)).elim
      (.error (homelessError c.definitionsDir)) (fun dir => .ok { c with definitionsDir := dir }) ∧
    (load src = .ok c ↔
      c.definitionsDir.expandHome? (src.homes vars) = some c.definitionsDir) ∧
    (¬c.definitionsDir.StartsWithTilde → load src = .ok c) ∧
    (∀ vars', environmentOf origin = .ok vars' → (origin.homes vars').FromTop →
      load src = .ok c) := by
  have heq := load_dump_eq hload hdump hvars hfile henv
  have hiff : load src = .ok c ↔
      c.definitionsDir.expandHome? (src.homes vars) = some c.definitionsDir := by
    rw [heq]
    constructor
    · intro h
      cases hexpand : c.definitionsDir.expandHome? (src.homes vars) with
      | none => rw [hexpand] at h; cases h
      | some dir =>
        rw [hexpand] at h
        exact congrArg some (congrArg definitionsDir (Except.ok.inj h))
    · intro h
      rw [h]
      rfl
  have hplain (h : ¬c.definitionsDir.StartsWithTilde) : load src = .ok c :=
    hiff.mpr (Location.expandHome?_of_not_tilde h _)
  refine ⟨heq, hiff, hplain, fun vars' hvars' hhome => hplain ?_⟩
  obtain ⟨vars'', text, hvars'', hexpand⟩ := definitionsDir_of_load hload
  obtain rfl := Except.ok.inj (hvars'.symm.trans hvars'')
  exact Location.not_tilde_of_expandHome? hhome hexpand

/-- Settings that are changed while they are read: a directory below the home directory, an address
with blanks around it, no deadline, and the format of the log. -/
def homeSources : Sources where
  files := {}
  environment := [("HOME", "/home/a")]
  overrides := [(.str "environment", .str "prod"), (.str "definitions_dir", .str "~/./d"),
    (.str "relay_url", .str " http://r "), (.str "search", .map [(.str "deadline_seconds", .null)])]

/-- They are loaded again over a file and a variable that say something else. -/
theorem load_dump_of_homeSources : ∃ c overrides, load homeSources = .ok c ∧
    c.toDocument = .map overrides ∧
    c.definitionsDir.text = "/home/a/d" ∧ c.relayUrl = some "http://r" ∧ c.deadline.isNone = true ∧
    c.logFormat = .json ∧ load { layeredSources with overrides } = .ok c := by
  have hload : (load homeSources).toOption.any (fun c => c.definitionsDir.text = "/home/a/d" ∧
      c.relayUrl = some "http://r" ∧ c.deadline.isNone = true ∧ c.logFormat = .json) = true := by
    decide +kernel
  have hfile : (fileLayer layeredSources).isOk = true := by decide +kernel
  have henv : (ofVariables (layeredSources.homes layeredSources.environment)
      layeredSources.environment).isOk = true := by decide +kernel
  cases hc : load homeSources with
  | error e => rw [hc] at hload; cases hload
  | ok c =>
    rw [hc] at hload
    obtain ⟨hdir, hrelay, hdeadline, hformat⟩ := of_decide_eq_true hload
    cases hread : fileLayer layeredSources with
    | error e => rw [hread] at hfile; cases hfile
    | ok file =>
      cases hvars : ofVariables (layeredSources.homes layeredSources.environment)
          layeredSources.environment with
      | error e => rw [hvars] at henv; cases henv
      | ok env =>
        have hhomes : homeSources.homes homeSources.environment = "/home/a" := by decide +kernel
        have hfromTop : (homeSources.homes homeSources.environment).FromTop := by
          rw [hhomes]
          refine Homes.fromTop_of_forall (fun dir hdir => ?_) (List.forall_mem_nil _)
          obtain rfl := Option.some.inj hdir
          exact Location.fromTop_of_head? (by decide +kernel)
        have hdump : c.toDocument =
            .map ({ layeredSources with overrides := c.entries } : Sources).overrides := rfl
        exact ⟨c, _, rfl, rfl, hdir, hrelay, hdeadline, hformat,
          (load_dump hc hdump rfl hread hvars).2.2.2 homeSources.environment rfl hfromTop⟩

/-- A directory that starts with a tilde in the place of another one, below a relative home
directory. -/
def tildeSources : Sources where
  files := {}
  environment := [("HOME", ".")]
  overrides := [(.str "definitions_dir", .str "~/~defs")]

/-- What is written down of its configuration is not loaded again in the same environment. -/
theorem not_load_dump : ∃ c overrides, load tildeSources = .ok c ∧ c.toDocument = .map overrides ∧
    load { tildeSources with overrides } = .error .noHome := by
  have hload : (load tildeSources).toOption.any (fun c => c.definitionsDir = ⟨0, ["~defs"]⟩) =
      true := by decide +kernel
  cases hc : load tildeSources with
  | error e => rw [hc] at hload; cases hload
  | ok c =>
    rw [hc] at hload
    have hdir : c.definitionsDir = ⟨0, ["~defs"]⟩ := of_decide_eq_true hload
    obtain ⟨vars, file, env, hvars, hfile, henv, -, -⟩ := load_eq_ok.mp hc
    have hdump : c.toDocument =
        .map ({ tildeSources with overrides := c.entries } : Sources).overrides := rfl
    refine ⟨c, c.entries, rfl, rfl, ?_⟩
    have haccount : Location.account? ⟨0, ["~defs"]⟩ = some "defs" := by decide +kernel
    -- A name behind the tilde is that of an account, whatever the user's home directory is.
    have hunknown : (Sources.homes { tildeSources with overrides := c.entries } vars).directory?
        "defs" = none := by
      have hown : "defs".isEmpty = false := by decide +kernel
      have hname : isNoAccount "defs" = false := by decide +kernel
      simp [Homes.directory?, Sources.homes, tildeSources, hown, hname]
    have herror : homelessError ⟨0, ["~defs"]⟩ = .noHome := by decide +kernel
    rw [load_dump_eq hc hdump hvars hfile henv, hdir,
      Location.expandHome?_of_unknown haccount hunknown, Option.elim_none, herror]

end Config
end TrackerSearch
