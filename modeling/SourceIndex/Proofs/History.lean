import SourceIndex.Proofs.Pass
import SourceIndex.Proofs.Run

/-!
# Histories of a tree

A tree is edited, its state is cleared, and runs bring the state up to date, in any order. What
holds of the state after every run is shown by what one pass keeps: the disk between two runs keeps
the state that the first has written.
-/

namespace SourceIndex.Workspace

/-- What can happen to a tree. -/
inductive Event where
  /-- The disk changes, but not in the state folder. -/
  | edit
  | clear
  | run (reading : Reading)

/-- An event takes one disk to another. Clearing and runs succeed. -/
inductive Step (home : Location) : Disk → Event → Disk → Prop where
  | edit {before after : Disk}
    (outside : after.node? (stateLocation home) = before.node? (stateLocation home)) :
    Step home before .edit after
  | clear {before after : Disk} {root : String} (leads : Leads before root home)
    (done : Workspace.clear root before = (.ok (), after)) : Step home before .clear after
  | run {before after : Disk} {root : String} {summary : Summary} {reading : Reading}
    (leads : Leads before root home) (gathers : Gathers before home reading)
    (done : Workspace.run reading.context root before = (.ok summary, after)) :
    Step home before (.run reading) after

/-- Events that lead from one disk to another. -/
inductive History (home : Location) (start : Disk) : List Event → Disk → Prop where
  | none : History home start [] start
  | next {events : List Event} {event : Event} {before after : Disk}
    (history : History home start events before) (step : Step home before event after) :
    History home start (events ++ [event]) after

/-- What the runs of a history have read. -/
def readings (events : List Event) : List Reading :=
  events.filterMap fun event =>
    match event with
    | .run reading => some reading
    | _ => none

@[simp] theorem readings_run (events : List Event) (reading : Reading) :
    readings (events ++ [.run reading]) = readings events ++ [reading] := by
  simp [readings]

@[simp] theorem readings_edit (events : List Event) :
    readings (events ++ [.edit]) = readings events := by
  simp [readings]

/-- What the last event has read, if it was a run. -/
def lastReading? (events : List Event) : Option Reading :=
  match events.getLast? with
  | some (.run reading) => some reading
  | _ => none

@[simp] theorem lastReading?_run (events : List Event) (reading : Reading) :
    lastReading? (events ++ [.run reading]) = some reading := by
  simp [lastReading?]

@[simp] theorem lastReading?_edit (events : List Event) :
    lastReading? (events ++ [.edit]) = none := by
  simp [lastReading?]

/-- A property of the state that passes keep. It does not look at the times of files, which are not
read back as they are written. -/
structure Kept (holds : List Event → Baseline → Prop) : Prop where
  similar : ∀ {events first second}, holds events first →
    second.manifest.Similar first.manifest → second.store.records = first.store.records →
    holds events second
  edit : ∀ {events state}, holds events state → holds (events ++ [.edit]) state
  run : ∀ {events reading final},
    (∀ state, reading.baseline = some state →
      state.manifest.compatible reading.context.config.granularity
        reading.context.config.tracking.digest = true ∧ holds events state) →
    Pass.final? reading.input reading.baseline = some final →
    holds (events ++ [.run reading]) final

/-- What two properties say together is kept if each is. -/
theorem Kept.and {first second : List Event → Baseline → Prop} (left : Kept first)
    (right : Kept second) : Kept fun events state => first events state ∧ second events state where
  similar known similar same :=
    ⟨left.similar known.1 similar same, right.similar known.2 similar same⟩
  edit known := ⟨left.edit known.1, right.edit known.2⟩
  run before final :=
    ⟨left.run (fun state loaded => ⟨(before state loaded).1, (before state loaded).2.1⟩) final,
      right.run (fun state loaded => ⟨(before state loaded).1, (before state loaded).2.2⟩) final⟩

/-- The state has the settings of the last run. -/
def Matched (events : List Event) (state : Baseline) : Prop :=
  ∀ reading, lastReading? events = some reading →
    state.manifest.compatible reading.context.config.granularity
      reading.context.config.tracking.digest = true

theorem kept_matched : Kept Matched where
  similar := by
    intro events first second matched similar _ reading last
    have settings := Manifest.compatible_iff.1 (matched reading last)
    rw [Manifest.compatible_iff, similar.version, similar.granularity, similar.digest]
    exact settings
  edit _ := by simp [Matched]
  run := by
    intro events reading final before known other last
    rw [lastReading?_run] at last
    cases last
    exact Pass.compatible_final known fun state loaded => (before state loaded).1

variable {home : Location} {before after start finish : Disk} {inside : Folder}
variable {events : List Event} {holds : List Event → Baseline → Prop}

/-- A state folder without state, or with one that was written and has a property. -/
def Held (holds : List Event → Baseline → Prop) (events : List Event) (inside : Folder) : Prop :=
  Blank inside ∨
    ∃ state : Baseline, Stores inside state.manifest state.store.records ∧ holds events state

/-- A tree whose state folder is so. -/
def Settled (holds : List Event → Baseline → Prop) (events : List Event) (disk : Disk)
    (home : Location) : Prop :=
  ∃ inside, Holds disk home inside ∧ Held holds events inside

theorem Held.tidy (held : Held holds events inside) : Tidy inside :=
  held.elim Blank.tidy fun ⟨_, stores, _⟩ => stores.tidy

theorem settled_of_edit (kept : Kept holds)
    (outside : after.node? (stateLocation home) = before.node? (stateLocation home))
    (settled : Settled holds events before home) :
    Settled holds (events ++ [.edit]) after home := by
  obtain ⟨inside, here, held⟩ := settled
  refine ⟨inside, by rwa [Holds, outside], held.imp_right ?_⟩
  exact fun ⟨state, stores, known⟩ => ⟨state, stores, kept.edit known⟩

theorem settled_of_clear {root : String} (proper : Disk.Proper home)
    (leads : Leads before root home) (settled : Settled holds events before home)
    (done : Workspace.clear root before = (.ok (), after)) :
    Settled holds (events ++ [.clear]) after home := by
  obtain ⟨inside, here, held⟩ := settled
  obtain ⟨_, cleared, succeeds, _, ready, blank⟩ := (leads.ready proper here).clear leads held.tidy
  cases succeeds.symm.trans done
  exact ⟨cleared, ready.holds, .inl blank⟩

section

variable {reading : Reading} {state : Baseline} (ready : Ready before home inside)
variable (gathers : Gathers before home reading) (loaded : reading.baseline = some state)
include ready gathers loaded

/-- A run that builds on a state has found one that was written. -/
theorem exists_stores_of_baseline (held : Held holds events inside) :
    ∃ written : Baseline, Stores inside written.manifest written.store.records ∧
      holds events written ∧
      state.manifest.compatible reading.context.config.granularity
        reading.context.config.tracking.digest = true ∧
      state.manifest.Similar written.manifest ∧
      state.store.records = written.store.records := by
  have found := gathers.loaded
  rw [loaded] at found
  rcases held with blank | ⟨written, stores, known⟩
  · have absent := ready.loadBaseline?_missing reading.context.config
      (blank manifestFile.name (by decide))
    cases absent.symm.trans found
  · exact ⟨written, stores, known, ready.loadBaseline?_stored stores found⟩

/-- The state that a run builds on has the property, and its settings fit. -/
theorem holds_of_baseline (kept : Kept holds) (held : Held holds events inside) :
    state.manifest.compatible reading.context.config.granularity
      reading.context.config.tracking.digest = true ∧ holds events state := by
  obtain ⟨_, _, known, compatible, similar, same⟩ :=
    exists_stores_of_baseline ready gathers loaded held
  exact ⟨compatible, kept.similar known similar same⟩

end

/-- What a run of a history has read, and the state that it has left. -/
structure Ran (holds : Baseline → Prop) (home : Location) (reading : Reading)
    (before after : Disk) : Prop where
  ready : ∃ inside, Ready before home inside
  gathers : Gathers before home reading
  same : SameTree home before after
  left : ∃ inside state, Ready after home inside ∧
    Stores inside state.manifest state.store.records ∧ holds state

/-- A run that succeeds leaves a state that was written and has the property. -/
theorem ran_of_run (kept : Kept holds) {root : String} {summary : Summary} {reading : Reading}
    (proper : Disk.Proper home) (leads : Leads before root home)
    (gathers : Gathers before home reading) (settled : Settled holds events before home)
    (done : Workspace.run reading.context root before = (.ok summary, after)) :
    Ran (holds (events ++ [.run reading])) home reading before after := by
  obtain ⟨inside, here, held⟩ := settled
  have ready := leads.ready proper here
  rw [run_of_gathers leads gathers] at done
  have concluded := ready.conclude held.tidy.plain done
  have built : ∀ final, Pass.final? reading.input reading.baseline = some final →
      holds (events ++ [.run reading]) final := fun _ final =>
    kept.run (fun _ loaded => holds_of_baseline ready gathers loaded kept held) final
  rw [Pass.final?, ← Reading.outcome] at built
  cases result : reading.outcome.next with
  | some next =>
    rw [result] at concluded built
    obtain ⟨same, folder, readyAfter, stores⟩ := concluded
    exact ⟨⟨inside, ready⟩, gathers, same, folder, next, readyAfter, stores, built next rfl⟩
  | none =>
    rw [result] at concluded built
    subst concluded
    cases loaded : reading.baseline with
    | none =>
      rw [Reading.outcome, loaded] at result
      cases result
    | some found =>
      obtain ⟨written, stores, _, _, similar, same⟩ :=
        exists_stores_of_baseline ready gathers loaded held
      exact ⟨⟨inside, ready⟩, gathers, rfl, inside, written, ready, stores,
        kept.similar (built found loaded) similar.symm same.symm⟩

/-- What passes keep holds of every state that a history leads to. -/
theorem History.settled (kept : Kept holds) (proper : Disk.Proper home)
    (stateless : Stateless start home) (history : History home start events finish) :
    Settled holds events finish home := by
  induction history with
  | none =>
    obtain ⟨inside, here, blank⟩ := stateless
    exact ⟨inside, here, .inl blank⟩
  | next history step ih =>
    cases step with
    | edit outside => exact settled_of_edit kept outside ih
    | clear leads done => exact settled_of_clear proper leads ih done
    | run leads gathers done =>
      obtain ⟨inside, state, ready, stores, known⟩ :=
        (ran_of_run kept proper leads gathers ih done).left
      exact ⟨inside, ready.holds, .inr ⟨state, stores, known⟩⟩

/-- The last run of a history leaves a state with what passes keep. -/
theorem History.ran (kept : Kept holds) (proper : Disk.Proper home)
    (stateless : Stateless start home) {reading : Reading}
    (history : History home start (events ++ [.run reading]) finish) :
    ∃ before, Ran (holds (events ++ [.run reading])) home reading before finish := by
  generalize whole : events ++ [Event.run reading] = all at history
  cases history with
  | none => simp at whole
  | next history step =>
    obtain ⟨rfl, last⟩ := List.append_inj' whole rfl
    cases last
    cases step with
    | run leads gathers done =>
      exact ⟨_, ran_of_run kept proper leads gathers (history.settled kept proper stateless) done⟩

/-- What passes keep holds after every run of a history. -/
theorem History.persisted (kept : Kept holds) (proper : Disk.Proper home)
    (stateless : Stateless start home) {reading : Reading}
    (history : History home start (events ++ [.run reading]) finish) :
    ∃ state : Baseline, Persisted finish home state.manifest state.store.records ∧
      holds (events ++ [.run reading]) state := by
  obtain ⟨_, ran⟩ := history.ran kept proper stateless
  obtain ⟨inside, state, ready, stores, known⟩ := ran.left
  exact ⟨state, ⟨inside, ready.holds, stores⟩, known⟩

/-! ## A small tree -/

/-- The syntax tree of a file with one function. -/
def sampleTree : Node :=
  ⟨"module", none, true, false, 0, 11,
    [⟨"function_definition", none, true, false, 0, 10,
      [⟨"identifier", some "name", true, false, 4, 5, []⟩,
       ⟨"parameters", some "parameters", true, false, 5, 7, []⟩,
       ⟨"block", some "body", true, false, 9, 10, []⟩]⟩]⟩

/-- A file with one function. -/
def sampleFile : DiskFile := { content := "def f(): 1\n".toUTF8 }

/-- A disk with one tree, which holds that file. -/
def sampleDisk : Disk := { top := [("tree", .folder [("a.py", .file sampleFile)])] }

/-- A disk with a tree of one file and a state folder. -/
def smallDisk (file : DiskFile) (inside : Folder) : Disk :=
  { top := [("tree", .folder [("a.py", .file file), (".arbor", .folder inside)])] }

theorem sameTree_small (file : DiskFile) (first second : Folder) :
    SameTree ["tree"] (smallDisk file first) (smallDisk file second) := rfl

/-- What a scan makes of the file of such a tree. -/
def sampleSource (file : DiskFile) : Source :=
  ⟨"a.py", .python, file.content, some (Instant.ofUnix 0 0)⟩

/-- What a run on the first of these trees reads, which may build on older state. -/
def sampleReading (granularity : Granularity) (baseline : Option Baseline) : Reading where
  context := ⟨fun _ _ => sampleTree, { granularity }, Instant.ofUnix 0 0⟩
  baseline := baseline
  sources := [sampleSource sampleFile]

theorem valid_sample (granularity : Granularity) :
    (sampleReading granularity none).context.config.fault? = none := by
  cases granularity <;> rfl

theorem proper_sample : Disk.Proper ["tree"] := by decide

theorem stateless_sample : Stateless sampleDisk ["tree"] :=
  ⟨[], .inr ⟨rfl, rfl⟩, fun _ _ => rfl⟩

/-- No ignore file of such a tree lies in its state folder. -/
theorem apart_small (file : DiskFile) (inside : Folder) :
    ∀ path ∈ ignorePaths (Path.absolute ["tree"]) {},
      Apart (smallDisk file inside) ["tree"] path := by
  intro path member
  simp only [ignorePaths, List.mem_cons, List.not_mem_nil, or_false] at member
  rcases member with rfl | rfl <;>
  · apply apart_of_name proper_sample rfl (by decide) (by decide)
    intro target known
    cases known

set_option maxRecDepth 4000 in
/-- The sources of that tree, whatever its state folder holds. -/
theorem sources_sample {disk : Disk} (same : SameTree ["tree"] sampleDisk disk) :
    Workspace.sources (Path.absolute ["tree"]) {} disk =
      (.ok [sampleSource sampleFile], disk) := by
  refine Prod.ext ?_ (reads_sources _ _ disk)
  have added : SameTree ["tree"] (smallDisk sampleFile []) sampleDisk := rfl
  have apart : ∀ path ∈ ignorePaths (Path.absolute ["tree"]) {}, Apart sampleDisk ["tree"] path :=
    fun path member => (apart_small sampleFile [] path member).congr added
  rw [sources_congr proper_sample rfl same apart]
  rfl

end SourceIndex.Workspace
