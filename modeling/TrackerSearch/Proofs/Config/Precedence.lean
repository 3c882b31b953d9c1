import TrackerSearch.Config.Load
import TrackerSearch.Proofs.Config.Layer
import TrackerSearch.Proofs.Document.Checked
import TrackerSearch.Proofs.Yaml.Mapping

/-!
# Which layer a setting comes from

The command line counts before the environment, the environment before the file, and the file before
the defaults, for each setting by itself (`load_by_precedence`). Nothing is said about settings
whose value in the file or on the command line is a mapping.
-/
namespace TrackerSearch

namespace Config

open Document

variable {homes : Homes} {vars : Variables} {env layer : Entries} {s : Setting} {d : Document}

/-! ## The layer of the environment -/

/-- What the environment gives for a setting: what its variable stands for, if it is set. -/
def variableValue? (homes : Homes) (vars : Variables) (s : Setting) : Option Document := do
  let text ← variableText vars (variableLead ++ s.flatKey)
  let value ← (readVariable homes s text).toOption
  value.toExcept.toOption

/-- A variable stands for a single value. -/
theorem plain_of_checkVariable {text : String} (h : checkVariable s text = .ok d)
    (inner : Entries) : d ≠ .map inner := by
  rintro rfl
  cases s <;> simp only [checkVariable] at h
  case appName | definitionsDir | userAgent | relayUrl | configFallback =>
    cases Checked.ok.inj h
  all_goals
    obtain ⟨_, -, h⟩ := Checked.map_eq_ok.mp h
    cases h

theorem plain_of_readVariable {text : String} (h : readVariable homes s text = .ok (.ok d))
    (inner : Entries) : d ≠ .map inner := by
  unfold readVariable at h
  split at h
  · obtain ⟨path, -, h⟩ := except_bind_eq_ok.mp h
    obtain ⟨l, -, rfl⟩ := Checked.map_eq_ok.mp (Except.ok.inj h)
    exact Document.noConfusion
  · exact plain_of_checkVariable (Except.ok.inj h) inner

theorem variableValue?_eq_some : variableValue? homes vars s = some d ↔
    ∃ text, variableText vars (variableLead ++ s.flatKey) = some text ∧
      readVariable homes s text = .ok (.ok d) := by
  simp only [variableValue?, Option.bind_eq_bind, Option.bind_eq_some_iff]
  refine exists_congr fun text => and_congr_right fun _ => ?_
  cases readVariable homes s text with
  | error e => simp [Except.toOption]
  | ok value => cases value <;> simp [Except.toOption, Checked.toExcept]

theorem plain_of_variableValue? (h : variableValue? homes vars s = some d) (inner : Entries) :
    d ≠ .map inner := by
  obtain ⟨text, -, hread⟩ := variableValue?_eq_some.mp h
  exact plain_of_readVariable hread inner

/-- The entries that the variables of some settings make. -/
def variableEntries (homes : Homes) (vars : Variables) (settings : List Setting) : Entries :=
  settings.filterMap fun s => (variableValue? homes vars s).map fun d => (.str s.flatKey, d)

theorem find?_variableEntries (homes : Homes) (vars : Variables) {settings : List Setting}
    (hnodup : settings.Nodup) (s : Setting) :
    find? (variableEntries homes vars settings) s.flatKey =
      if s ∈ settings then variableValue? homes vars s else none := by
  unfold variableEntries
  induction settings with
  | nil => rfl
  | cons t settings ih =>
    obtain ⟨ht, hrest⟩ := List.nodup_cons.mp hnodup
    rw [List.filterMap_cons]
    by_cases hst : s = t
    · subst hst
      cases variableValue? homes vars s with
      | none => simp [ih hrest, ht]
      | some d => simp [find?_cons_self]
    · have hne : Document.str t.flatKey ≠ .str s.flatKey := fun he =>
        Setting.flatKey_ne hst (Document.str.inj he).symm
      cases variableValue? homes vars t with
      | none => simp [ih hrest, hst]
      | some d => simp [find?_cons_of_ne hne, ih hrest, hst]

theorem sectionOf_variableEntries (homes : Homes) (vars : Variables) (settings : List Setting)
    {name : String} (hname : name ∈ sections) :
    sectionOf (variableEntries homes vars settings) name = none := by
  have hnone : find? (variableEntries homes vars settings) name = none := by
    rw [find?_eq_none_iff]
    intro entry hentry he
    obtain ⟨s, -, hs⟩ := List.mem_filterMap.mp hentry
    obtain ⟨d, -, rfl⟩ := Option.map_eq_some_iff.mp hs
    exact s.flatKey_not_mem (Document.str.inj he ▸ hname)
  rw [sectionOf, hnone]

theorem given?_variableEntries (homes : Homes) (vars : Variables) (s : Setting) :
    given? (variableEntries homes vars Setting.all) s = variableValue? homes vars s := by
  have hflat := find?_variableEntries homes vars Setting.nodup_all s
  rw [if_pos s.mem_all] at hflat
  rw [given?, hflat]
  rcases hs : s.place with ⟨_ | name, key⟩
  · rw [get?_of_general hs, ← Setting.flatKey_of_general hs, hflat, Option.or_self]
  · rw [get?_of_section hs, sectionOf_variableEntries homes vars _ (Setting.section_mem hs)]
    exact Option.or_none

theorem variableValue?_of_unset (h : variableText vars (variableLead ++ s.flatKey) = none) :
    variableValue? homes vars s = none := by
  simp [variableValue?, h]

/-- The variables of some settings are accepted if each of them that is set stands for a value. -/
theorem variableEntries_of_accepted {settings : List Setting}
    {values : List (Setting × Checked Document)}
    (hvalues : (settings.filterMap fun s =>
        (variableText vars (variableLead ++ s.flatKey)).map fun text => (s, text)).mapM
      (fun (s, text) => do return (s, ← readVariable homes s text)) = .ok values)
    (henv : Checked.all (values.map fun (s, value) =>
      (value.under (.key s.flatKey)).map fun d => (Document.str s.flatKey, d)) = .ok env) :
    env = variableEntries homes vars settings ∧
      ∀ s ∈ settings, (variableValue? homes vars s).isSome =
        (variableText vars (variableLead ++ s.flatKey)).isSome := by
  unfold variableEntries
  induction settings generalizing values env with
  | nil =>
    obtain rfl := Except.ok.inj hvalues
    obtain rfl := Checked.ok.inj henv
    exact ⟨rfl, by simp⟩
  | cons s settings ih =>
    rw [List.filterMap_cons] at hvalues ⊢
    cases htext : variableText vars (variableLead ++ s.flatKey) with
    | none =>
      have hvalue : variableValue? homes vars s = none := variableValue?_of_unset htext
      rw [htext] at hvalues
      obtain ⟨rfl, hset⟩ := ih hvalues henv
      rw [hvalue]
      exact ⟨rfl, List.forall_mem_cons.mpr ⟨by rw [hvalue, htext]; rfl, hset⟩⟩
    | some text =>
      rw [htext, Option.map_some, List.mapM_cons] at hvalues
      obtain ⟨first, hfirst, hvalues⟩ := except_bind_eq_ok.mp hvalues
      obtain ⟨rest, hrest, hvalues⟩ := except_bind_eq_ok.mp hvalues
      obtain rfl := Except.ok.inj hvalues
      obtain ⟨value, hread, hfirst⟩ := except_bind_eq_ok.mp hfirst
      obtain rfl := Except.ok.inj hfirst
      rw [List.map_cons] at henv
      obtain ⟨entry, env', hentry, henv', rfl⟩ := Checked.all_cons_eq_ok.mp henv
      obtain ⟨d, hd, rfl⟩ := Checked.map_eq_ok.mp hentry
      obtain rfl := Checked.under_eq_ok.mp hd
      have hvalue : variableValue? homes vars s = some d :=
        variableValue?_eq_some.mpr ⟨text, htext, hread⟩
      obtain ⟨rfl, hset⟩ := ih hrest henv'
      rw [hvalue]
      exact ⟨rfl, List.forall_mem_cons.mpr ⟨by rw [hvalue, htext]; rfl, hset⟩⟩

theorem ofVariables_eq_ok (h : ofVariables homes vars = .ok env) :
    env = variableEntries homes vars Setting.all ∧
      ∀ s, (variableValue? homes vars s).isSome =
        (variableText vars (variableLead ++ s.flatKey)).isSome := by
  unfold ofVariables at h
  obtain ⟨values, hvalues, h⟩ := except_bind_eq_ok.mp h
  dsimp only at h
  generalize hall : Checked.all (values.map fun (s, value) =>
      (value.under (.key s.flatKey)).map fun d => (Document.str s.flatKey, d)) = checked at h
  cases checked with
  | bad problems => cases h
  | ok env' =>
    obtain rfl := Except.ok.inj h
    obtain ⟨henv, hset⟩ := variableEntries_of_accepted hvalues hall
    exact ⟨henv, fun s => hset s s.mem_all⟩

theorem plain_variableEntries (homes : Homes) (vars : Variables) :
    Plain (variableEntries homes vars Setting.all) where
  wellFormed name hname inner hinner := by
    rw [sectionOf_variableEntries homes vars _ hname] at hinner
    cases hinner
  values s d hd := by
    rw [given?_variableEntries] at hd
    exact plain_of_variableValue? hd

/-! ## The defaults and the file -/

theorem given?_defaults (s : Setting) : given? defaults s = some s.default := by
  cases s <;> rfl

theorem plain_defaults : Plain defaults where
  wellFormed :=
    (bySections_putAll (fun s => some s.default) Setting.all
      ⟨distinct_nil, fun _ _ _ h => by cases h⟩).wellFormed
  values s d hd inner := by
    rw [given?_defaults] at hd
    rw [← Option.some.inj hd]
    cases s <;> exact Document.noConfusion

theorem wellFormed_of_layerOf {text : List Char} (h : layerOf text = .ok layer) :
    WellFormed layer := by
  unfold layerOf at h
  split at h
  case h_5 =>
    obtain rfl := Except.ok.inj h
    intro _ _ _ hinner
    cases hinner
  case h_6 entries hread =>
    obtain rfl := Except.ok.inj h
    intro name _ inner hinner
    unfold sectionOf at hinner
    split at hinner
    case h_1 inner' hfind =>
      obtain rfl := Option.some.inj hinner
      exact (Yaml.distinct_of_read hread).2 _ (mem_of_find? hfind) _ rfl
    case h_2 => cases hinner
  all_goals cases h

theorem wellFormed_of_fileLayer {src : Sources} (h : fileLayer src = .ok layer) :
    WellFormed layer := by
  unfold fileLayer at h
  split at h
  · obtain rfl := Except.ok.inj h
    intro _ _ _ hinner
    cases hinner
  · obtain ⟨text, -, htext⟩ := except_bind_eq_ok.mp h
    exact wellFormed_of_layerOf htext

/-! ## The value of a setting -/

/-- The value of a setting: what the command line gives, or else its variable, or else the file;
if none of them gives it, its default. -/
def chosen (homes : Homes) (vars : Variables) (file overrides : Entries) (s : Setting) : Document :=
  ((given? overrides s).or ((variableValue? homes vars s).or (given? file s))).getD s.default

theorem reading_congr {a b : Entries} (h : ∀ s, get? a s = get? b s) {α : Type} (s : Setting)
    (check : Document → Checked α) : reading a s check = reading b s check := by
  rw [reading, h s, reading]

/-- Only what is at the places of the settings is checked. -/
theorem ofEntries_congr {a b : Entries} (h : ∀ s, get? a s = get? b s) (homes : Homes) :
    ofEntries homes a = ofEntries homes b := by
  have hcheck (dir : Checked Location) : checkAll a dir = checkAll b dir := by
    unfold checkAll
    simp only [reading_congr h]
  unfold ofEntries
  simp only [h .definitionsDir, hcheck]

/-- An entry that gives nothing for a setting: it is not under its flat key, and if it is under the
name of its section, it is no mapping. -/
def Silent (s : Setting) (k v : Document) : Prop :=
  k ≠ .str s.flatKey ∧ ∀ name, s.place.1 = some name → k = .str name → ∀ inner, v ≠ .map inner

theorem get?_of_silent {front back : Entries} {k v : Document} (h : Silent s k v)
    (hdistinct : Distinct (front ++ (k, v) :: back)) :
    get? (front ++ (k, v) :: back) s = get? (front ++ back) s := by
  rcases hs : s.place with ⟨_ | name, key⟩
  · have hk : k ≠ .str key := Setting.flatKey_of_general hs ▸ h.1
    rw [get?_of_general hs, get?_of_general hs, find?_around hk]
  · rw [get?_of_section hs, get?_of_section hs]
    by_cases hk : k = .str name
    · subst hk
      obtain ⟨hfront, hback⟩ := hdistinct.find?_around
      have hv := h.2 name (by rw [hs]) rfl
      have hwith : sectionOf (front ++ (.str name, v) :: back) name = none := by
        rw [sectionOf, find?_append, hfront, find?_cons_self]
        cases v with
        | map inner => exact absurd rfl (hv inner)
        | _ => rfl
      have hwithout : sectionOf (front ++ back) name = none := by
        rw [sectionOf, find?_append, hfront, hback]
        rfl
      rw [hwith, hwithout]
    · rw [sectionOf, find?_around hk, sectionOf]

/-- An unknown key, an unknown section and a section that is no mapping give no setting. -/
theorem given?_of_silent {front back : Entries} {k v : Document} (h : Silent s k v)
    (hdistinct : Distinct (front ++ (k, v) :: back)) :
    given? (front ++ (k, v) :: back) s = given? (front ++ back) s := by
  rw [given?, find?_around h.1, get?_of_silent h hdistinct, given?]

/-- An entry of a section gives no setting with another key. -/
theorem given?_of_other_key {name : String} (hname : name ∈ sections) {k : Document}
    (hk : k ≠ .str s.place.2) (before after front back : Entries) (v : Document) :
    given? (before ++ (.str name, .map (front ++ (k, v) :: back)) :: after) s =
      given? (before ++ (.str name, .map (front ++ back)) :: after) s := by
  have hflat : Document.str name ≠ .str s.flatKey := fun he =>
    s.flatKey_not_mem (Document.str.inj he ▸ hname)
  rw [given?, given?, find?_around hflat, find?_around hflat]
  congr 1
  rcases hs : s.place with ⟨_ | name', key⟩
  · have hgeneral : Document.str name ≠ .str key := Setting.flatKey_of_general hs ▸ hflat
    rw [get?_of_general hs, get?_of_general hs, find?_around hgeneral, find?_around hgeneral]
  · rw [hs] at hk
    rw [get?_of_section hs, get?_of_section hs, sectionOf, sectionOf]
    by_cases hname' : name = name'
    · subst hname'
      cases hbefore : find? before name with
      | some d =>
        rw [find?_append, find?_append, hbefore]
        rfl
      | none =>
        rw [find?_append, find?_append, hbefore, find?_cons_self, find?_cons_self]
        exact find?_around hk v front back
    · have hne : Document.str name ≠ .str name' := fun he => hname' (Document.str.inj he)
      rw [find?_around hne, find?_around hne]

/-- How a configuration is made from its layers. -/
structure ByPrecedence (src : Sources) (homes : Homes) (vars : Variables) (file env : Entries) :
    Prop where
  load_eq : load src = ofEntries homes (stack [defaults, file, env, src.overrides])
  /-- Each setting by itself has the value of the highest layer that gives it. -/
  value_eq : ∀ s, get? (stack [defaults, file, env, src.overrides]) s =
    some (chosen homes vars file src.overrides s)
  /-- The configuration is read from these values. -/
  load_eq_placed : load src = ofEntries homes (placed (chosen homes vars file src.overrides))
  /-- A variable gives its setting just if it is set. -/
  variable_iff_set : ∀ s, (variableValue? homes vars s).isSome =
    (variableText vars (variableLead ++ s.flatKey)).isSome
  /-- Unknown keys and sections, and sections that are no mappings, give no setting. -/
  silent_entry : ∀ s front k v back, Silent s k v → Distinct (front ++ (k, v) :: back) →
    given? (front ++ (k, v) :: back) s = given? (front ++ back) s
  /-- Other keys of a section give no setting, and unknown ones none at all. -/
  other_key : ∀ s, ∀ name ∈ sections, ∀ before after front k v back, k ≠ .str s.place.2 →
    given? (before ++ (.str name, .map (front ++ (k, v) :: back)) :: after) s =
      given? (before ++ (.str name, .map (front ++ back)) :: after) s

/-- **Strict precedence.** Whatever layers are accepted, the configuration is made from the value
that the highest of them gives for each setting. -/
theorem load_by_precedence {src : Sources} {file : Entries}
    (hvars : environmentOf src = .ok vars) (henv : ofVariables (src.homes vars) vars = .ok env)
    (hfile : fileLayer src = .ok file)
    (hfilePlain : ∀ s d, given? file s = some d → ∀ inner, d ≠ .map inner)
    (hoverrides : Plain src.overrides) : ByPrecedence src (src.homes vars) vars file env := by
  have hload : load src = ofEntries (src.homes vars)
      (stack [defaults, file, env, src.overrides]) := by
    simp only [load, hvars, hfile, henv, bind, Except.bind]
  obtain ⟨rfl, hset⟩ := ofVariables_eq_ok henv
  have hplain : ∀ layer ∈ [defaults, file, variableEntries (src.homes vars) vars Setting.all,
      src.overrides], Plain layer := by
    simp only [List.forall_mem_cons]
    exact ⟨plain_defaults, ⟨wellFormed_of_fileLayer hfile, hfilePlain⟩,
      plain_variableEntries _ vars, hoverrides, fun _ h => absurd h List.not_mem_nil⟩
  have hget (s : Setting) : get? (stack [defaults, file,
      variableEntries (src.homes vars) vars Setting.all, src.overrides]) s =
        some (chosen (src.homes vars) vars file src.overrides s) := by
    rw [get?_stack hplain, chosen]
    simp only [List.reverse_cons, List.reverse_nil, List.nil_append, List.cons_append,
      List.findSome?_cons, given?_variableEntries, given?_defaults]
    cases given? src.overrides s <;> cases variableValue? (src.homes vars) vars s <;>
      cases given? file s <;> rfl
  exact
    { load_eq := hload
      value_eq := hget
      load_eq_placed :=
        hload.trans (ofEntries_congr (fun s => (hget s).trans (get?_placed _ s).symm) _)
      variable_iff_set := hset
      silent_entry := fun s front k v back => given?_of_silent
      other_key := fun s name hname before after front k v back hk =>
        given?_of_other_key hname hk before after front back v }

/-- A file with a flat key, a section, a section that is no mapping and a key nobody knows; a
variable; and a section from the command line. -/
def layeredSources : Sources where
  files :=
    let text := "relay_url: r\nhttp:\n  timeout_seconds: 3\n  user_agent: f\nsearch: 1\nx: 2\n"
    { entries := [(["c.yml"], .file (text.toList.map fun c => UInt8.ofNat c.toNat))] }
  environment := [("INDEXARR_HTTP_TIMEOUT_SECONDS", "7")]
  configFile := some (Location.ofString "c.yml")
  overrides := [(.str "http", .map [(.str "user_agent", .str "o")])]

theorem load_layeredSources : ∃ file env, fileLayer layeredSources = .ok file ∧
    ofVariables {} layeredSources.environment = .ok env ∧
    (∀ s d, given? file s = some d → ∀ inner, d ≠ .map inner) ∧
    Plain layeredSources.overrides ∧
    load layeredSources = ofEntries {}
      (placed (chosen {} layeredSources.environment file layeredSources.overrides)) := by
  have hfile : (fileLayer layeredSources).toOption.any (fun file => Setting.all.all fun s =>
      (given? file s).all fun d => d.kindName != "dict") = true := by decide +kernel
  have hhomes : layeredSources.homes layeredSources.environment = {} := by decide +kernel
  have henv : (ofVariables {} layeredSources.environment).isOk = true := by decide +kernel
  cases hread : fileLayer layeredSources with
  | error e => rw [hread] at hfile; cases hfile
  | ok file =>
    cases hvars : ofVariables {} layeredSources.environment with
    | error e => rw [hvars] at henv; cases henv
    | ok env =>
      have hfilePlain (s : Setting) (d : Document) (hd : given? file s = some d)
          (inner : Entries) : d ≠ .map inner := by
        rintro rfl
        rw [hread] at hfile
        have hs := List.all_eq_true.mp hfile s s.mem_all
        rw [hd] at hs
        cases hs
      have hover : Plain layeredSources.overrides := by
        constructor
        · intro name hname inner hinner
          have hcases : inner = [(.str "user_agent", .str "o")] := by
            unfold layeredSources sectionOf at hinner
            by_cases hhttp : name = "http"
            · subst hhttp
              exact (Option.some.inj hinner).symm
            · rw [find?_cons_of_ne fun he => hhttp (Document.str.inj he).symm] at hinner
              cases hinner
          rw [hcases]
          exact List.pairwise_singleton ..
        · intro s d hd
          cases s <;> cases hd
          exact fun _ => Document.noConfusion
      have henv' : ofVariables (layeredSources.homes layeredSources.environment)
          layeredSources.environment = .ok env := by rw [hhomes, hvars]
      have hplaced := (load_by_precedence rfl henv' hread hfilePlain hover).load_eq_placed
      rw [hhomes] at hplaced
      exact ⟨file, env, rfl, rfl, hfilePlain, hover, hplaced⟩

end Config
end TrackerSearch
