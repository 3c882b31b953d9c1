import TrackerSearch.Proofs.Command.Report
import TrackerSearch.Proofs.Definition.Faulty
import TrackerSearch.Proofs.Probe
import TrackerSearch.Proofs.Search.Resolution

/-!
# How a run ends

A command gets its definitions and works on them. It finishes with a status that tells of its
output, or a fault aborts it; all other failures are told in a line. The faults are those of
definition files, of the sites that are probed and of the page that a link is looked up on; a client
that cannot be used is one as well, and so is an output that cannot be written.
-/
namespace TrackerSearch.Command

open Http

variable {j : Job} {world : Network} {past : List Request} {finish : Finish} {e : Failure}
  {f : Fault} {ds : List Definition}

/-! ## What a finish tells -/

namespace Job

/-- The definitions that a command works on. -/
def definitions (j : Job) : Traced Failure (List Definition) :=
  match j.order with
  | .probe o => if o.ids.isEmpty then j.allDefinitions else definitionsOf j.files o.ids j.registry
  | .list | .search _ => j.allDefinitions

/-- A character of an output that cannot be written. -/
structure Foreign (j : Job) (finish : Finish) (o : Output) (c : Char) : Prop where
  output : finish.output = some o
  part : c ∈ j.written o
  foreign : j.canWrite c = false

/-- What keeps a job from starting: the client cannot be used, or the relay cannot be set up. -/
def startFault? (j : Job) : Option Fault :=
  if !(meansOf j.config).client.isUsable then some .unencodable
  else if !(meansOf j.config).relay.all (·.isTimed) then some .tooLarge
  else none

/-- What ends a run without a finish: the job cannot start, a definition file has a fault, a probe or
the look-up of a link meets one, or what it yields cannot be put out. -/
inductive Aborts (j : Job) (world : Network) : Fault → Prop where
  | starting {f : Fault} (fault : j.startFault? = some f) : Aborts j world f
  | loading {f : Fault} (started : j.startFault? = none)
      (fault : j.definitions.outcome = .error (.fault f)) : Aborts j world f
  | probing {f : Fault} {o : ProbeOptions} {ds : List Definition} (started : j.startFault? = none)
      (order : j.order = .probe o) (definitions : j.definitions.outcome = .ok ds)
      (fault : (j.prober.probeAll ds j.config.probeConcurrency (relayWish j.order)
        world []).ending = .failed (.fault f)) : Aborts j world f
  | lookingUp {f : Fault} {o : SearchOptions} {ds : List Definition}
      (started : j.startFault? = none) (order : j.order = .search o)
      (definitions : j.definitions.outcome = .ok ds)
      (fault : Search.CrashesOn j.engine (j.query o) ds world [] f) : Aborts j world f
  | writing {finish : Finish} {o : Output} {c : Char} (started : j.startFault? = none)
      (yielded : (j.perform world []).ending = .done finish) (foreign : j.Foreign finish o c) :
      Aborts j world .unencodable

theorem someFault_of_allDefinitions (h : j.allDefinitions.outcome = .error (.fault f)) :
    Registry.SomeFault j.files j.registry.directory f := by
  unfold allDefinitions at h
  rcases Traced.outcome_bind_eq_error.mp h with hloading | ⟨ls, -, h⟩
  · exact Registry.someFault_of_loadAll hloading
  · cases h

/-- The definitions are got one after the other from a registry that knows more each time. -/
theorem someFault_of_definitionsOf {files : FileTree} {directory : FilePath} {ids : List String}
    {r : Registry} (hr : r.Over files directory)
    (h : (definitionsOf files ids r).outcome = .error (.fault f)) :
    Registry.SomeFault files directory f := by
  induction ids generalizing r with
  | nil => cases h
  | cons id ids ih =>
    unfold definitionsOf at h
    rcases Traced.outcome_bind_eq_error.mp h with hget | ⟨l, -, h⟩
    · exact hr.someFault hget
    rcases Traced.outcome_bind_eq_error.mp h with hrest | ⟨ds, -, h⟩
    · exact ih (hr.get id) hrest
    · cases h

theorem someFault_of_definitions (h : j.definitions.outcome = .error (.fault f)) :
    Registry.SomeFault j.files j.registry.directory f := by
  unfold definitions at h
  split at h
  · split at h
    · exact someFault_of_allDefinitions h
    · exact someFault_of_definitionsOf (Registry.over_new ..) h
  · exact someFault_of_allDefinitions h
  · exact someFault_of_allDefinitions h

theorem exists_meetsFault_of_probeAll {p : Prober} {concurrency : Int} {useRelay : Option Bool}
    (hplaces : 0 ≤ concurrency)
    (h : (p.probeAll ds concurrency useRelay world past).ending = .failed (.fault f)) :
    ∃ d ∈ ds, ∃ past', p.MeetsFault useRelay d world past' f := by
  obtain ⟨d, hd, past', hprobe⟩ := Prober.probe_of_probeAll_eq_failed hplaces h
  obtain ⟨f', hmeets, hf⟩ := (Prober.ending_probe_eq_fault _).mp hprobe
  obtain rfl := Failure.fault.inj hf
  exact ⟨d, hd, past', hmeets⟩

/-- What makes a command fail that is not told. -/
inductive Cause (j : Job) (world : Network) (f : Fault) : Prop where
  | start (fault : j.startFault? = some f)
  | definition (file : Registry.SomeFault j.files j.registry.directory f)
  | site {o : ProbeOptions} {ds : List Definition} {d : Definition} {past : List Request}
      (order : j.order = .probe o) (definitions : j.definitions.outcome = .ok ds) (member : d ∈ ds)
      (fault : j.prober.MeetsFault (relayWish j.order) d world past f)
  | details {o : SearchOptions} {ds : List Definition} (order : j.order = .search o)
      (definitions : j.definitions.outcome = .ok ds)
      (fault : Search.CrashesOn j.engine (j.query o) ds world [] f)
  | output {finish : Finish} {o : Output} {c : Char}
      (yielded : (j.perform world []).ending = .done finish) (foreign : j.Foreign finish o c)
      (kind : f = .unencodable)

theorem Aborts.cause (h : j.Aborts world f) (hplaces : 1 ≤ j.config.probeConcurrency) :
    j.Cause world f := by
  cases h with
  | starting fault => exact .start fault
  | loading _ fault => exact .definition (someFault_of_definitions fault)
  | probing _ order definitions fault =>
    obtain ⟨d, hd, past, hmeets⟩ := exists_meetsFault_of_probeAll (by omega) fault
    exact .site order definitions hd hmeets
  | lookingUp _ order definitions fault => exact .details order definitions fault
  | writing _ yielded foreign => exact .output yielded foreign rfl

end Job

end TrackerSearch.Command
