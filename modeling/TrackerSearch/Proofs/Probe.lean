import TrackerSearch.Probe
import TrackerSearch.Proofs.Fetch.Exchange
import TrackerSearch.Proofs.Json.Table
import TrackerSearch.Proofs.Template.Faults

/-!
# What ends a run of probes

In a network that answers every request, and where no fetch meets a fault, a run of probes has one
finding for each identifier unless the path of some definition uses a pattern that ends its
rendering; then the whole run fails. In a network that forgets what it was asked, the findings are
those of the definitions probed alone. Nothing is said about times.
-/
namespace TrackerSearch

open Http

/-- The failure at an end. -/
def Ending.failure? {ε α : Type} : Ending ε α → Option ε
  | .failed e => some e
  | _ => none

namespace Prober

variable {p : Prober} {useRelay : Option Bool} {world : Network} {past : List Request}
  {d : Definition} {ds : List Definition} {concurrency : Int}

/-! ## One probe -/

/-- The fault that keeps a probe from fetching its page. -/
def pathFault? (p : Prober) (d : Definition) : Option Fault :=
  if d.links.isEmpty then none
  else Template.firstFatal? (Template.pathUses d [] p.config p.fallback none)

/-- The fetch of a probe gives an answer or fails; it meets no fault. -/
def Settles (p : Prober) (useRelay : Option Bool) (world : Network) (d : Definition) : Prop :=
  ∀ target route past f,
    (Template.targetUrl d (some []) p.config p.fallback none).outcome = .ok target →
    (p.means.routeFor d useRelay).outcome = .ok route →
    (route.fetch target "GET" [] world past).ending ≠ .failed (.fault f)

theorem probe_built (p : Prober) (d : Definition) (useRelay : Option Bool) :
    (p.probe d useRelay).Built := by
  unfold probe
  split
  · exact Dialogue.Built.pure _
  · refine (Dialogue.Built.ofTraced _).bind fun target => ?_
    refine (Dialogue.Built.ofTraced _).bind fun route => ?_
    refine (route.fetch_built _ _ _).attempt fun ending hne => ?_
    cases ending with
    | waiting => exact absurd rfl hne
    | done page => exact Dialogue.Built.pure _
    | failed e =>
      dsimp only
      cases unhealthy? d target route.viaRelay e with
      | none => exact Dialogue.Built.fail e
      | some finding => exact (Dialogue.Built.report _).bind fun _ => Dialogue.Built.pure _

theorem unhealthy?_eq_none {target : List Char} {viaRelay : Bool} {e : Failure}
    (h : Fetch.IsOfFetch e) (hn : unhealthy? d target viaRelay e = none) : ∃ f, e = .fault f := by
  cases e with
  | network url message status => cases hn
  | relay message status => cases hn
  | fault f => exact ⟨f, rfl⟩
  | _ => cases h

/-- What a probe finds once it is known where to go. -/
def findingOf (d : Definition) (target : List Char) (route : Fetch.Route) :
    Online Failure ProbeFinding := do
  match ← (route.fetch target "GET" []).attempt with
  | .done _ => return ⟨d.id, true, some (String.ofList target), "", none, route.viaRelay⟩
  | .waiting => Dialogue.waitForever
  | .failed e =>
    match unhealthy? d target route.viaRelay e with
    | none => Dialogue.fail e
    | some finding =>
      Dialogue.report .probeUnhealthy
      return finding

/-- Only a fault of the fetch is not taken down. -/
theorem ending_findingOf_eq_failed {target : List Char} {route : Fetch.Route} {e : Failure} :
    (findingOf d target route world past).ending = .failed e ↔
      ∃ f, (route.fetch target "GET" [] world past).ending = .failed (.fault f) ∧ e = .fault f := by
  rw [findingOf, Dialogue.ending_attempt_bind]
  cases hfetch : (route.fetch target "GET" [] world past).ending with
  | done page => simp
  | waiting => simp [Dialogue.waitForever]
  | failed e' =>
    dsimp only
    cases hn : unhealthy? d target route.viaRelay e' with
    | some finding =>
      constructor
      · intro h
        cases h
      · rintro ⟨f, hf, -⟩
        obtain rfl := Ending.failed.inj hf
        cases hn
    | none =>
      obtain ⟨f, rfl⟩ := unhealthy?_eq_none (Fetch.isOfFetch_fetch hfetch) hn
      constructor
      · intro h
        exact ⟨f, rfl, (Ending.failed.inj h).symm⟩
      · rintro ⟨f', hf, rfl⟩
        rw [Ending.failed.inj hf]
        rfl

/-- A probe meets a fault: in rendering its path, or in fetching its page. -/
def MeetsFault (p : Prober) (useRelay : Option Bool) (d : Definition) (world : Network)
    (past : List Request) (f : Fault) : Prop :=
  p.pathFault? d = some f ∨ d.links.isEmpty = false ∧ ∃ target route,
    (Template.targetUrl d (some []) p.config p.fallback none).outcome = .ok target ∧
    (p.means.routeFor d useRelay).outcome = .ok route ∧
    (route.fetch target "GET" [] world past).ending = .failed (.fault f)

/-- There is no other way for a probe to fail. -/
theorem ending_probe_eq_fault (e : Failure) :
    (p.probe d useRelay world past).ending = .failed e ↔
      ∃ f, p.MeetsFault useRelay d world past f ∧ e = .fault f := by
  unfold probe MeetsFault pathFault?
  split
  case isTrue hlinks => simp [hlinks]
  case isFalse hlinks =>
    have hroutes : ∀ e, (p.means.routeFor d useRelay).outcome ≠ .error e := by
      obtain ⟨route, hroute⟩ := p.means.outcome_routeFor d useRelay
      simp [hroute]
    constructor
    · intro h
      rcases Dialogue.ending_bind_eq_failed.mp h with h | ⟨target, htarget, h⟩
      · obtain ⟨f, hf, rfl⟩ :=
          (Template.targetUrl_eq_error_iff ..).mp (Dialogue.ending_ofTraced_eq_failed.mp h)
        exact ⟨f, .inl hf, rfl⟩
      rcases Dialogue.ending_bind_eq_failed.mp h with h | ⟨route, hroute, h⟩
      · exact absurd (Dialogue.ending_ofTraced_eq_failed.mp h) (hroutes _)
      · rw [Dialogue.asked_ofTraced, Dialogue.asked_ofTraced, List.append_nil,
          List.append_nil] at h
        obtain ⟨f, hfetch, rfl⟩ := ending_findingOf_eq_failed.mp h
        exact ⟨f, .inr ⟨Bool.eq_false_iff.mpr hlinks, target, route,
          Dialogue.ending_ofTraced_eq_done.mp htarget,
          Dialogue.ending_ofTraced_eq_done.mp hroute, hfetch⟩, rfl⟩
    · rintro ⟨f, hf | ⟨-, target, route, htarget, hroute, hfetch⟩, rfl⟩
      · exact Dialogue.ending_bind_eq_failed.mpr (.inl (Dialogue.ending_ofTraced_eq_failed.mpr
          ((Template.targetUrl_eq_error_iff ..).mpr ⟨f, hf, rfl⟩)))
      · refine Dialogue.ending_bind_eq_failed.mpr
          (.inr ⟨target, Dialogue.ending_ofTraced_eq_done.mpr htarget, ?_⟩)
        refine Dialogue.ending_bind_eq_failed.mpr
          (.inr ⟨route, Dialogue.ending_ofTraced_eq_done.mpr hroute, ?_⟩)
        rw [Dialogue.asked_ofTraced, Dialogue.asked_ofTraced, List.append_nil, List.append_nil]
        exact ending_findingOf_eq_failed.mpr ⟨f, hfetch, rfl⟩

/-- Where no fetch meets a fault, a probe fails exactly if the rendering of its path does. -/
theorem ending_probe_eq_failed (hsettles : p.Settles useRelay world d) (e : Failure) :
    (p.probe d useRelay world past).ending = .failed e ↔
      ∃ f, p.pathFault? d = some f ∧ e = .fault f := by
  rw [ending_probe_eq_fault]
  refine exists_congr fun f => and_congr_left fun _ => or_iff_left ?_
  rintro ⟨-, target, route, htarget, hroute, hfetch⟩
  exact hsettles target route past f htarget hroute hfetch

/-! ## A run of probes -/

/-- How the probes of a run end, each one after what was asked before it. -/
def probes (p : Prober) (useRelay : Option Bool) (world : Network) :
    List Request → List Definition → List Probed
  | _, [] => []
  | past, d :: ds => (p.probe d useRelay world past).ending ::
      p.probes useRelay world (past ++ (p.probe d useRelay world past).asked) ds

theorem probeOne_apply (p : Prober) (useRelay : Option Bool) (d : Definition) (world : Network)
    (past : List Request) :
    (p.probeOne useRelay d world past).ending = .done (p.probe d useRelay world past).ending ∧
      (p.probeOne useRelay d world past).asked = (p.probe d useRelay world past).asked := by
  unfold probeOne
  rw [Dialogue.attempt_apply]
  cases h : (p.probe d useRelay world past).ending with
  | done finding =>
    rw [Dialogue.bind_of_done h]
    exact ⟨rfl, List.append_nil _⟩
  | failed e =>
    rw [Dialogue.bind_of_failed h]
    exact ⟨rfl, rfl⟩
  | waiting =>
    rw [Dialogue.bind_of_waiting h]
    exact ⟨rfl, rfl⟩

/-- With a free place every probe gets its turn. -/
theorem ending_probeEach (h : Dialogue.Answers world) (p : Prober) (useRelay : Option Bool)
    (free : Nat) (ds : List Definition) (past : List Request) :
    (p.probeEach useRelay (free + 1) ds world past).ending =
      .done (p.probes useRelay world past ds) := by
  induction ds generalizing past with
  | nil => rfl
  | cons d ds ih =>
    obtain ⟨hone, hasked⟩ := probeOne_apply p useRelay d world past
    have hne := (probe_built p d useRelay).ending_ne h past
    have hrest : ∀ (probed : Probed) (past : List Request),
        ((p.probeEach useRelay (free + 1) ds >>= fun rest => pure (probed :: rest)) world
          past).ending = .done (probed :: p.probes useRelay world past ds) := by
      intro probed past
      rw [Dialogue.bind_of_done (ih past)]
      rfl
    rw [probeEach, Dialogue.bind_of_done hone, hasked, probes]
    -- A probe that ends gives its place to the next one.
    cases hprobe : (p.probe d useRelay world past).ending with
    | waiting => exact absurd hprobe hne
    | done finding => exact hrest _ _
    | failed e => exact hrest _ _

theorem probes_ne_waiting (h : Dialogue.Answers world) (p : Prober) (useRelay : Option Bool)
    (past : List Request) (ds : List Definition) :
    ∀ probed ∈ p.probes useRelay world past ds, probed ≠ .waiting := by
  induction ds generalizing past with
  | nil =>
    intro probed hm
    cases hm
  | cons d ds ih => exact List.forall_mem_cons.mpr ⟨(probe_built p d useRelay).ending_ne h past, ih _⟩

theorem length_probes (p : Prober) (useRelay : Option Bool) (world : Network)
    (past : List Request) (ds : List Definition) :
    (p.probes useRelay world past ds).length = ds.length := by
  induction ds generalizing past with
  | nil => rfl
  | cons d ds ih => rw [probes, List.length_cons, ih, List.length_cons]

/-- Every probe of a run is the probe of its definition. -/
theorem getElem?_probes (p : Prober) (useRelay : Option Bool) (world : Network)
    (past : List Request) {i : Nat} (hd : ds[i]? = some d) :
    ∃ past', (p.probes useRelay world past ds)[i]? =
      some (p.probe d useRelay world past').ending := by
  induction ds generalizing past i with
  | nil => cases hd
  | cons first ds ih =>
    cases i with
    | zero =>
      obtain rfl := Option.some.inj hd
      exact ⟨past, rfl⟩
    | succ i => exact ih _ hd

/-- The first failure of a run is that of the first path that cannot be rendered. -/
theorem failure?_probes (hsettles : ∀ d ∈ ds, p.Settles useRelay world d) (past : List Request) :
    (p.probes useRelay world past ds).findSome? Ending.failure? =
      (ds.findSome? p.pathFault?).map Failure.fault := by
  induction ds generalizing past with
  | nil => rfl
  | cons d ds ih =>
    obtain ⟨hd, hds⟩ := List.forall_mem_cons.mp hsettles
    have hprobe : ((p.probe d useRelay world past).ending).failure? =
        (p.pathFault? d).map Failure.fault := by
      cases hfault : p.pathFault? d with
      | some f => rw [(ending_probe_eq_failed hd _).mpr ⟨f, hfault, rfl⟩]; rfl
      | none =>
        cases hend : (p.probe d useRelay world past).ending with
        | failed e =>
          obtain ⟨f, hf, -⟩ := (ending_probe_eq_failed hd e).mp hend
          rw [hfault] at hf
          cases hf
        | done finding => rfl
        | waiting => rfl
    rw [probes, List.findSome?_cons, List.findSome?_cons, hprobe]
    cases p.pathFault? d with
    | some f => rfl
    | none => exact ih hds _

/-! ## What comes of a run -/

theorem findingsOf_eq {probed : List Probed} (hne : ∀ one ∈ probed, one ≠ .waiting) :
    (∃ e, probed.findSome? Ending.failure? = some e ∧ findingsOf probed = .failed e) ∨
      ∃ found, probed.findSome? Ending.failure? = none ∧ probed = found.map .done ∧
        findingsOf probed = .done found := by
  induction probed with
  | nil => exact .inr ⟨[], rfl, rfl, rfl⟩
  | cons one probed ih =>
    obtain ⟨hone, hrest⟩ := List.forall_mem_cons.mp hne
    cases one with
    | waiting => exact absurd rfl hone
    | failed e => exact .inl ⟨e, rfl, rfl⟩
    | done finding =>
      rcases ih hrest with ⟨e, hfirst, he⟩ | ⟨found, hfirst, rfl, hfound⟩
      · refine .inl ⟨e, hfirst, ?_⟩
        simp only [findingsOf, he]
      · refine .inr ⟨finding :: found, hfirst, rfl, ?_⟩
        simp only [findingsOf, hfound]

/-- The findings as the entries of a table. -/
def entriesOf (ds : List Definition) (found : List ProbeFinding) : List (String × ProbeFinding) :=
  (ds.zip found).map fun (d, finding) => (d.id, finding)

/-- An entry of the table is the finding of the last definition with its identifier. -/
theorem probe_of_mem_tableOf {found : List ProbeFinding} {id : String} {finding : ProbeFinding}
    (hfound : p.probes useRelay world past ds = found.map .done)
    (hm : (id, finding) ∈ tableOf (entriesOf ds found)) :
    ∃ before d after past', ds = before ++ d :: after ∧ d.id = id ∧
      (∀ d' ∈ after, d'.id ≠ id) ∧ (p.probe d useRelay world past').ending = .done finding := by
  have hlength : ds.length = found.length := by
    rw [← length_probes p useRelay world past, hfound, List.length_map]
  obtain ⟨front, back, hsplit, hback⟩ := last_of_mem_tableOf hm
  obtain ⟨front', rest, hzip, rfl, hrest⟩ := List.map_eq_append_iff.mp hsplit
  obtain ⟨⟨d, f⟩, back', rfl, hentry, rfl⟩ := List.map_eq_cons_iff.mp hrest
  obtain ⟨rfl, rfl⟩ := Prod.mk.inj hentry
  have hds : ds = front'.map (·.1) ++ d :: back'.map (·.1) := by
    rw [← List.map_fst_zip (Nat.le_of_eq hlength), hzip, List.map_append, List.map_cons]
  have hat : (ds.zip found)[front'.length]? = some (d, f) := by
    rw [hzip, List.getElem?_append_right (Nat.le_refl _), Nat.sub_self]
    rfl
  obtain ⟨hd, hf⟩ := List.getElem?_zip_eq_some.mp hat
  obtain ⟨past', hprobe⟩ := getElem?_probes p useRelay world past hd
  refine ⟨front'.map (·.1), d, back'.map (·.1), past', hds, rfl, ?_, ?_⟩
  · intro d' hm'
    obtain ⟨entry, he, rfl⟩ := List.mem_map.mp hm'
    exact hback _ (List.mem_map_of_mem he)
  · rw [hfound, List.getElem?_map, hf] at hprobe
    exact (Option.some.inj hprobe).symm

theorem keys_entriesOf {found : List ProbeFinding} (h : ds.length = found.length) :
    (tableOf (entriesOf ds found)).map (·.1) = (ds.map (·.id)).eraseDups := by
  have hids : (entriesOf ds found).map (·.1) = ds.map (·.id) := by
    conv_rhs => rw [← List.map_fst_zip (Nat.le_of_eq h)]
    rw [entriesOf, List.map_map, List.map_map]
    rfl
  rw [keys_tableOf, hids]

theorem ending_probeAll (h : Dialogue.Answers world) (p : Prober) (ds : List Definition)
    (hplaces : 1 ≤ concurrency) (useRelay : Option Bool) (past : List Request) :
    (p.probeAll ds concurrency useRelay world past).ending =
      match findingsOf (p.probes useRelay world past ds) with
      | .failed e => .failed e
      | .waiting => .waiting
      | .done found => .done (tableOf (entriesOf ds found)) := by
  have hfree : concurrency.toNat = (concurrency.toNat - 1) + 1 := by omega
  have hnonneg : ¬concurrency < 0 := by omega
  have heach : (p.probeEach useRelay concurrency.toNat ds world past).ending =
      .done (p.probes useRelay world past ds) := by
    rw [hfree]
    exact ending_probeEach h p useRelay _ ds past
  unfold probeAll
  rw [if_neg hnonneg]
  refine (congrArg Talk.ending (Dialogue.bind_of_done heach)).trans ?_
  dsimp only
  cases findingsOf (p.probes useRelay world past ds) with
  | failed e => rfl
  | waiting => rfl
  | done found =>
    have htable : tableOf (entriesOf ds found) =
        (ds.zip found).foldl (fun table (d, f) => insertKey table d.id f) [] := by
      rw [tableOf, entriesOf, List.foldl_map]
    exact congrArg Ending.done htable.symm

/-- With few places, and in any network: a probe of a run has not ended, or it is the probe of a
definition. -/
theorem mem_probeEach (p : Prober) (useRelay : Option Bool) (world : Network) (free : Nat)
    (ds : List Definition) (past : List Request) :
    ∃ probed, (p.probeEach useRelay free ds world past).ending = .done probed ∧
      ∀ one ∈ probed, one = .waiting ∨
        ∃ d ∈ ds, ∃ past', one = (p.probe d useRelay world past').ending := by
  induction ds generalizing free past with
  | nil => exact ⟨[], by cases free <;> rfl, fun _ h => absurd h List.not_mem_nil⟩
  | cons d ds ih =>
    cases free with
    | zero =>
      refine ⟨_, rfl, fun one hone => .inl ?_⟩
      obtain ⟨d, -, rfl⟩ := List.mem_map.mp hone
      rfl
    | succ free =>
      obtain ⟨hone, -⟩ := probeOne_apply p useRelay d world past
      have hrest : ∀ (free : Nat) (past' : List Request) (one : Probed),
          one = (p.probe d useRelay world past).ending →
          ∃ probed, ((p.probeEach useRelay free ds >>= fun rest => pure (one :: rest)) world
            past').ending = .done probed ∧ ∀ one ∈ probed, one = .waiting ∨
              ∃ d' ∈ d :: ds, ∃ past', one = (p.probe d' useRelay world past').ending := by
        intro free past' one hfirst
        obtain ⟨probed, hprobed, hmem⟩ := ih free past'
        refine ⟨one :: probed, by rw [Dialogue.bind_of_done hprobed]; rfl, ?_⟩
        refine List.forall_mem_cons.mpr ⟨.inr ⟨d, List.mem_cons_self, past, hfirst⟩, ?_⟩
        intro other h
        refine (hmem other h).imp_right ?_
        rintro ⟨d', hd', hprobe⟩
        exact ⟨d', List.mem_cons_of_mem d hd', hprobe⟩
      rw [probeEach, Dialogue.bind_of_done hone]
      cases hprobe : (p.probe d useRelay world past).ending with
      | waiting => exact hrest _ _ _ hprobe.symm
      | done finding => exact hrest _ _ _ hprobe.symm
      | failed e => exact hrest _ _ _ hprobe.symm

theorem mem_of_findingsOf_eq_failed {probed : List Probed} {e : Failure}
    (h : findingsOf probed = .failed e) : .failed e ∈ probed := by
  induction probed with
  | nil => cases h
  | cons one probed ih =>
    cases one with
    | failed e' =>
      obtain rfl := Ending.failed.inj h
      exact List.mem_cons_self
    | done finding =>
      refine List.mem_cons_of_mem _ (ih ?_)
      cases hrest : findingsOf probed <;> simp_all [findingsOf]
    | waiting =>
      refine List.mem_cons_of_mem _ (ih ?_)
      cases hrest : findingsOf probed <;> simp_all [findingsOf]

/-- Whatever the network does, a run fails only by the failure of one of its probes. -/
theorem probe_of_probeAll_eq_failed (hplaces : 0 ≤ concurrency) {e : Failure}
    (h : (p.probeAll ds concurrency useRelay world past).ending = .failed e) :
    ∃ d ∈ ds, ∃ past', (p.probe d useRelay world past').ending = .failed e := by
  obtain ⟨probed, hprobed, hmem⟩ := mem_probeEach p useRelay world concurrency.toNat ds past
  unfold probeAll at h
  rw [if_neg (by omega)] at h
  change (((p.probeEach useRelay concurrency.toNat ds) >>= _ : Online Failure _) world past).ending =
    _ at h
  rw [Dialogue.bind_of_done hprobed] at h
  dsimp only at h
  have hfailed : findingsOf probed = .failed e := by
    cases hfindings : findingsOf probed with
    | done found => rw [hfindings] at h; cases h
    | waiting => rw [hfindings] at h; cases h
    | failed e' =>
      rw [hfindings] at h
      rw [Ending.failed.inj h]
  rcases hmem _ (mem_of_findingsOf_eq_failed hfailed) with hwaiting | ⟨d, hd, past', hprobe⟩
  · cases hwaiting
  · exact ⟨d, hd, past', hprobe.symm⟩

/-- Runs in a network that answers, whose fetches meet no fault. -/
theorem run_of_probes (h : Dialogue.Answers world) (hplaces : 1 ≤ concurrency)
    (hsettles : ∀ d ∈ ds, p.Settles useRelay world d) (past : List Request) :
    (∀ e, (p.probeAll ds concurrency useRelay world past).ending = .failed e ↔
      ∃ f, ds.findSome? p.pathFault? = some f ∧ e = .fault f) ∧
    (ds.findSome? p.pathFault? = none →
      ∃ table, (p.probeAll ds concurrency useRelay world past).ending = .done table ∧
        table.map (·.1) = (ds.map (·.id)).eraseDups ∧
        ∀ id finding, (id, finding) ∈ table → ∃ before d after past',
          ds = before ++ d :: after ∧ d.id = id ∧ (∀ d' ∈ after, d'.id ≠ id) ∧
          (p.probe d useRelay world past').ending = .done finding ∧
          (Dialogue.Forgetful world →
            (p.probe d useRelay world []).ending = .done finding)) := by
  have hend := ending_probeAll h p ds hplaces useRelay past
  have hfirst := failure?_probes hsettles past
  rcases findingsOf_eq (probes_ne_waiting h p useRelay past ds)
    with ⟨e, he, hfindings⟩ | ⟨found, hnone, hprobes, hfindings⟩
  · rw [hfindings] at hend
    obtain ⟨f, hf, rfl⟩ := Option.map_eq_some_iff.mp (hfirst.symm.trans he)
    rw [hend, hf]
    constructor
    · intro e
      constructor
      · intro hfailed
        exact ⟨f, rfl, (Ending.failed.inj hfailed).symm⟩
      · rintro ⟨f', hf', rfl⟩
        obtain rfl := Option.some.inj hf'
        rfl
    · intro hno
      cases hno
  · rw [hfindings] at hend
    have hno : ds.findSome? p.pathFault? = none := Option.map_eq_none_iff.mp (hfirst.symm.trans hnone)
    have hlength : ds.length = found.length := by
      rw [← length_probes p useRelay world past, hprobes, List.length_map]
    rw [hend, hno]
    constructor
    · intro e
      constructor
      · intro hfailed
        cases hfailed
      · rintro ⟨f, hf, -⟩
        cases hf
    · intro _
      refine ⟨_, rfl, keys_entriesOf hlength, fun id finding hm => ?_⟩
      obtain ⟨before, d, after, past', hds, hid, hafter, hprobe⟩ := probe_of_mem_tableOf hprobes hm
      refine ⟨before, d, after, past', hds, hid, hafter, hprobe, fun hforgetful => ?_⟩
      rw [(probe_built p d useRelay).eq_of_forgetful h hforgetful [] past']
      exact hprobe

/-- **What ends a rendering ends a run of probes.** Where there are keywords, a rendering gives a
text, or is refused for what remains unresolved, or ends in a fault; the last happens exactly if it
comes to a pattern that is refused otherwise than for being malformed. The address of a search and a
run of probes fail for this reason only, and a run fails as a whole. Any other run has one finding
for each identifier, in the order in which they came first: that of the last definition with it. -/
theorem rendering_decides_runs (p : Prober) (ds : List Definition) (concurrency : Int)
    (useRelay : Option Bool) (world : Network) (past : List Request) :
    (∀ ctx template, ctx.HasKeywords →
      (∃ v, (Template.render ctx template).outcome = .ok v) ∨
      (∃ fragment, (Template.render ctx template).outcome =
        .error (.unresolved (String.ofList template) fragment)) ∨
      ∃ f, Template.firstFatal? (Template.usesOf ctx template) = some f ∧
        (Template.render ctx template).outcome = .error (.fault f)) ∧
    (∀ ctx template f, ctx.HasKeywords →
      ((Template.render ctx template).outcome = .error (.fault f) ↔
        Template.firstFatal? (Template.usesOf ctx template) = some f)) ∧
    (∀ d (keywords : List Char) config fallback category e,
      (Template.targetUrl d keywords config fallback category).outcome = .error e ↔
        ∃ f, Template.firstFatal? (Template.pathUses d keywords config fallback category) = some f ∧
          e = .fault f) ∧
    (Dialogue.Answers world → 1 ≤ concurrency → (∀ d ∈ ds, p.Settles useRelay world d) →
      (∀ e, (p.probeAll ds concurrency useRelay world past).ending = .failed e ↔
        ∃ f, ds.findSome? p.pathFault? = some f ∧ e = .fault f) ∧
      (ds.findSome? p.pathFault? = none →
        ∃ table, (p.probeAll ds concurrency useRelay world past).ending = .done table ∧
          table.map (·.1) = (ds.map (·.id)).eraseDups ∧
          ∀ id finding, (id, finding) ∈ table → ∃ before d after past',
            ds = before ++ d :: after ∧ d.id = id ∧ (∀ d' ∈ after, d'.id ≠ id) ∧
            (p.probe d useRelay world past').ending = .done finding ∧
            (Dialogue.Forgetful world →
              (p.probe d useRelay world []).ending = .done finding))) := by
  refine ⟨fun ctx template hk => ?_, fun ctx template f hk => ?_, Template.targetUrl_eq_error_iff,
    fun h hplaces hsettles => run_of_probes h hplaces hsettles past⟩
  · rcases Template.render_cases ctx template with ⟨v, -, -, hv⟩ | ⟨v, fragment, -, -, hv⟩ |
      ⟨f, hr, hv⟩
    · exact .inl ⟨v, hv⟩
    · exact .inr (.inl ⟨fragment, hv⟩)
    · exact .inr (.inr ⟨f, (Template.rendering_eq_error_iff hk template f).mp hr, hv⟩)
  · rw [Template.render_eq_fault_iff, Template.rendering_eq_error_iff hk]

/-- In a forgetful network one fetch tells about all of them. -/
theorem settles_of_fetch (h : Dialogue.Answers world) (hforgetful : Dialogue.Forgetful world)
    {target : List Char} {route : Fetch.Route}
    (htarget : (Template.targetUrl d (some []) p.config p.fallback none).outcome = .ok target)
    (hroute : (p.means.routeFor d useRelay).outcome = .ok route)
    (hfetch : (route.fetch target "GET" [] world []).ending.failure? = none) :
    p.Settles useRelay world d := by
  intro target' route' past f htarget' hroute' hfault
  obtain rfl := Except.ok.inj (htarget.symm.trans htarget')
  obtain rfl := Except.ok.inj (hroute.symm.trans hroute')
  rw [(route.fetch_built target "GET" []).eq_of_forgetful h hforgetful past []] at hfault
  rw [hfault] at hfetch
  cases hfetch

def answering : Network := fun _ _ => some (.ok { status := 200 })

def directProber : Prober where
  means := { client := { userAgent := none, followRedirects := true }, relay := none }

/-- A site whose searches go under a path. -/
def siteOf (id path : String) : Definition where
  id := id
  name := id
  links := ["https://x.example/"]
  search := some { paths := [{ path }], rows := { selector := "p" } }

theorem siteOf_settles (id path : String) (target : List Char)
    (htarget : (Template.targetUrl (siteOf id path) (some []) directProber.config
      directProber.fallback none).outcome = .ok target)
    (hfetch : ((Fetch.Route.direct directProber.means.client).fetch target "GET" [] answering
      []).ending.failure? = none) : directProber.Settles none answering (siteOf id path) := by
  refine settles_of_fetch ?_ (fun _ _ _ => rfl) htarget rfl hfetch
  intro past r hnone
  cases hnone

/-- The pattern in the second path is malformed. -/
def threeSites : List Definition :=
  [siteOf "a" "s", siteOf "b" "\x7b\x7b re_replace .Keywords \"(\" \"\" \x7d\x7d", siteOf "a" "t"]

theorem run_of_three_sites :
    Dialogue.Answers answering ∧ (1 : Int) ≤ 5 ∧
      (∀ d ∈ threeSites, directProber.Settles none answering d) ∧
      ∃ table, (directProber.probeAll threeSites 5 none answering []).ending = .done table ∧
        table.map (·.1) = ["a", "b"] := by
  have hanswers : Dialogue.Answers answering := by
    intro past r hnone
    cases hnone
  have hsettles : ∀ d ∈ threeSites, directProber.Settles none answering d := by
    unfold threeSites
    simp only [List.forall_mem_cons, List.not_mem_nil, false_imp_iff, implies_true, and_true]
    refine ⟨siteOf_settles _ _ "https://x.example/s".toList ?_ ?_,
      siteOf_settles _ _ "https://x.example/".toList ?_ ?_,
      siteOf_settles _ _ "https://x.example/t".toList ?_ ?_⟩
    all_goals decide +kernel
  obtain ⟨-, -, -, hruns⟩ := rendering_decides_runs directProber threeSites 5 none answering []
  obtain ⟨-, hdone⟩ := hruns hanswers (by decide) hsettles
  obtain ⟨table, htable, hkeys, -⟩ := hdone (by decide +kernel)
  refine ⟨hanswers, by decide, hsettles, table, htable, ?_⟩
  rw [hkeys]
  decide +kernel

/-- The replacement refers to a group that is not there. -/
def unknownGroup : String := "\x7b\x7b re_replace .Keywords \"b\" \"$\x7bx\x7d\" \x7d\x7d"

/-- A run fails although the site that is probed first answers. -/
theorem run_of_unknown_group :
    (Template.render { keywords := ['b'] } unknownGroup.toList).outcome =
      .error (.fault .outOfRange) ∧
    (directProber.probe (siteOf "a" "s") none answering []).ending =
      .done ⟨"a", true, some "https://x.example/s", "", none, false⟩ ∧
    (directProber.probeAll [siteOf "a" "s", siteOf "b" unknownGroup] 5 none answering []).ending =
      .failed (.fault .outOfRange) := by
  decide +kernel

end Prober

end TrackerSearch
