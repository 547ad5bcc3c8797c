import Mathlib.Data.List.Chain
import SourceIndex.Proofs.Reachability

/-!
# Cycles of call graphs

A depth-first search follows calls along a path. Its rules are stated without a bound on the number
of steps, and the bound with which it is run is enough for them. Every cycle that it closes leads
along calls from a node back to it and passes no node twice; each is closed by a call of its own;
and every way along calls from a node back to it has one of these calls.
-/

namespace SourceIndex.CallGraph

variable {graph : CallGraph}

/-! ## The rules of the search -/

/-- How a search goes on over the successors that are left at the end of a path. -/
inductive Explores (graph : CallGraph) :
    (path successors : List String) → (before after : Search) → Prop where
  | done {path : List String} {search : Search} : Explores graph path [] search search
  /-- A successor on the path closes a cycle. -/
  | closes {path rest : List String} {next : String} {before after : Search} (onPath : next ∈ path)
    (onward : Explores graph path rest
      { before with cycles := before.cycles ++ [closing path next] } after) :
    Explores graph path (next :: rest) before after
  /-- A successor that was visited and left again is passed over. -/
  | skips {path rest : List String} {next : String} {before after : Search} (offPath : next ∉ path)
    (visited : next ∈ before.visited) (onward : Explores graph path rest before after) :
    Explores graph path (next :: rest) before after
  /-- A new successor becomes the end of the path until its own successors are done. -/
  | enters {path rest : List String} {next : String} {before between after : Search}
    (offPath : next ∉ path) (new : next ∉ before.visited)
    (inside : Explores graph (next :: path) (graph.dependencies next)
      { before with visited := next :: before.visited } between)
    (onward : Explores graph path rest between after) :
    Explores graph path (next :: rest) before after

/-- The calls of nodes that are not on a path. -/
def callsOff (graph : CallGraph) (path : List String) : List (String × String) :=
  graph.edges.filter fun edge => edge.1 ∉ path

/-- A node that enters a path takes its calls along. -/
theorem length_callsOff_cons (graph : CallGraph) {path : List String} {next : String}
    (offPath : next ∉ path) :
    (graph.dependencies next).length + (graph.callsOff (next :: path)).length =
      (graph.callsOff path).length := by
  rw [dependencies, callsOff, callsOff]
  induction graph.edges with
  | nil => rfl
  | cons edge edges ih =>
    by_cases own : edge.1 = next
    · simp [own, offPath] at ih ⊢
      omega
    · by_cases onPath : edge.1 ∈ path
      · simp [own, onPath] at ih ⊢
        omega
      · simp [own, onPath] at ih ⊢
        omega

/-- The search follows its rules if its bound is above the number of successors that are left and of
calls that it can still find. -/
theorem explores_explore {fuel : Nat} {path successors : List String} {search : Search}
    (enough : successors.length + (graph.callsOff path).length < fuel) :
    graph.Explores path successors search (graph.explore fuel path successors search) := by
  induction fuel generalizing path successors search with
  | zero => cases enough
  | succ fuel ih =>
    cases successors with
    | nil => exact .done
    | cons next rest =>
      rw [List.length_cons] at enough
      rw [explore]
      by_cases onPath : next ∈ path
      · rw [if_pos (List.contains_iff_mem.2 onPath)]
        exact .closes onPath (ih (by omega))
      · rw [if_neg (mt List.contains_iff_mem.1 onPath)]
        by_cases visited : next ∈ search.visited
        · rw [if_pos (List.contains_iff_mem.2 visited)]
          exact .skips onPath visited (ih (by omega))
        · rw [if_neg (mt List.contains_iff_mem.1 visited)]
          -- the calls of `next` are successors now, so that both searches have a smaller bound
          have taken := graph.length_callsOff_cons onPath
          exact .enters onPath visited (ih (by omega)) (ih (by omega))

/-- Searching from each of some nodes follows the rules for successors of an empty path. -/
theorem explores_searchFrom (graph : CallGraph) (nodes : List String) (search : Search) :
    graph.Explores [] nodes search (nodes.foldl graph.searchFrom search) := by
  induction nodes generalizing search with
  | nil => exact .done
  | cons root rest ih =>
    rw [List.foldl_cons]
    by_cases visited : root ∈ search.visited
    · have same : graph.searchFrom search root = search := by
        rw [searchFrom, if_pos (List.contains_iff_mem.2 visited)]
      rw [same]
      exact .skips List.not_mem_nil visited (ih search)
    · have inside : graph.Explores [root] (graph.dependencies root)
          { search with visited := root :: search.visited } (graph.searchFrom search root) := by
        have taken := graph.length_callsOff_cons (List.not_mem_nil : root ∉ [])
        have all : (graph.callsOff []).length = graph.edges.length := by simp [callsOff]
        rw [searchFrom, if_neg (mt List.contains_iff_mem.1 visited)]
        exact explores_explore (by omega)
      exact .enters List.not_mem_nil visited inside (ih _)

/-- The search for cycles follows the rules. -/
theorem exists_explores_cycles (graph : CallGraph) :
    ∃ after : Search, after.cycles = graph.cycles ∧ graph.Explores [] graph.nodes ⟨[], []⟩ after :=
  ⟨_, rfl, graph.explores_searchFrom graph.nodes ⟨[], []⟩⟩

/-! ## Ways along calls -/

/-- The steps of a walk. -/
def steps (walk : List String) : List (String × String) := walk.zip walk.tail

/-- The step that closes a walk. -/
def lastStep? (walk : List String) : Option (String × String) := (steps walk).getLast?

theorem steps_cons_cons (first second : String) (rest : List String) :
    steps (first :: second :: rest) = (first, second) :: steps (second :: rest) :=
  rfl

theorem isChain_iff_steps {Leads : String → String → Prop} {walk : List String} :
    walk.IsChain Leads ↔ ∀ step ∈ steps walk, Leads step.1 step.2 := by
  induction walk with
  | nil => simp [steps]
  | cons first rest ih =>
    cases rest with
    | nil => simp [steps]
    | cons second rest =>
      rw [List.isChain_cons_cons, ih, steps_cons_cons, List.forall_mem_cons]

theorem lastStep?_append (front : List String) (last next : String) :
    lastStep? (front ++ [last, next]) = some (last, next) := by
  induction front with
  | nil => rfl
  | cons first front ih =>
    cases front with
    | nil => rfl
    | cons second front =>
      rw [lastStep?] at ih ⊢
      rw [List.cons_append, List.cons_append, steps_cons_cons, List.getLast?_cons,
        ← List.cons_append, ih, Option.getD_some]

/-- A way along calls from a node back to it. -/
def RoundTrip (graph : CallGraph) (walk : List String) : Prop :=
  ∃ name middle, walk = name :: (middle ++ [name]) ∧ walk.IsChain graph.Calls

theorem exists_caller_of_isChain {first name : String} {others : List String}
    (chain : (first :: others).IsChain graph.Calls) (member : name ∈ others) :
    ∃ caller, graph.Calls caller name := by
  induction others generalizing first with
  | nil => cases member
  | cons second others ih =>
    obtain ⟨calls, chain⟩ := List.isChain_cons_cons.1 chain
    rcases List.mem_cons.1 member with rfl | later
    · exact ⟨first, calls⟩
    · exact ih chain later

/-- Every node of a round trip is called. -/
theorem RoundTrip.exists_caller {walk : List String} (trip : graph.RoundTrip walk) {name : String}
    (member : name ∈ walk) : ∃ caller, graph.Calls caller name := by
  obtain ⟨start, middle, rfl, chain⟩ := trip
  apply exists_caller_of_isChain chain
  rcases List.mem_cons.1 member with rfl | later
  · exact List.mem_append_right _ (List.mem_singleton.2 rfl)
  · exact later

theorem leads_of_isChain {Leads : String → String → Prop} {first last : String}
    {middle : List String} (chain : (first :: (middle ++ [last])).IsChain Leads) :
    Relation.TransGen Leads first last := by
  induction middle generalizing first with
  | nil => exact .single (List.isChain_cons_cons.1 chain).1
  | cons second middle ih =>
    obtain ⟨calls, chain⟩ := List.isChain_cons_cons.1 chain
    exact .head calls (ih chain)

/-- A node that leads back to itself has a round trip. -/
theorem exists_roundTrip {name : String} (around : Relation.TransGen graph.Calls name name) :
    ∃ middle, graph.RoundTrip (name :: (middle ++ [name])) := by
  obtain ⟨next, calls, back⟩ := Relation.TransGen.head'_iff.1 around
  obtain ⟨rest, chain, last⟩ := List.exists_isChain_cons_of_relationReflTransGen back
  have split : next :: rest = (next :: rest).dropLast ++ [name] := by
    rw [← last, List.dropLast_append_getLast]
  refine ⟨(next :: rest).dropLast, name, _, rfl, ?_⟩
  rw [← split]
  exact List.isChain_cons_cons.2 ⟨calls, chain⟩

/-! ## Cycles that are closed -/

/-- A walk along calls that comes back to its start and passes no node twice before. -/
structure SimpleCycle (graph : CallGraph) (walk : List String) : Prop where
  length : 2 ≤ walk.length
  returns : walk.head? = walk.getLast?
  distinct : walk.dropLast.Nodup
  calls : walk.IsChain graph.Calls

theorem SimpleCycle.roundTrip {walk : List String} (cycle : graph.SimpleCycle walk) :
    graph.RoundTrip walk := by
  obtain ⟨length, returns, _, calls⟩ := cycle
  cases walk with
  | nil => cases length
  | cons name rest =>
    rcases rest.eq_nil_or_concat' with rfl | ⟨middle, last, rfl⟩
    · cases length with
      | step le => cases le
    · rw [← List.cons_append, List.getLast?_concat] at returns
      cases returns
      exact ⟨name, middle, rfl, calls⟩

/-- A path, given from its end, that follows calls. -/
def Trail (graph : CallGraph) (path : List String) : Prop :=
  path.IsChain fun later earlier => graph.Calls earlier later

/-- The end of the path calls the node that closes the cycle. -/
theorem lastStep?_closing (last : String) (earlier : List String) (next : String) :
    lastStep? (closing (last :: earlier) next) = some (last, next) := by
  have ends : ∃ front, closing (last :: earlier) next = front ++ [last, next] := by
    by_cases same : last = next
    · exact ⟨[], by simp [closing, same]⟩
    · exact ⟨next :: (earlier.takeWhile (· ≠ next)).reverse, by simp [closing, same]⟩
  obtain ⟨front, ends⟩ := ends
  rw [ends, lastStep?_append]

theorem simpleCycle_closing {path : List String} {next : String} (trail : graph.Trail path)
    (distinct : path.Nodup) (onPath : next ∈ path)
    (calls : ∀ last ∈ path.head?, graph.Calls last next) :
    graph.SimpleCycle (closing path next) := by
  obtain ⟨front, rest, rfl, apart⟩ := List.eq_append_cons_of_mem onPath
  have before : (front ++ next :: rest).takeWhile (· ≠ next) = front := by
    rw [List.takeWhile_append_of_pos, List.takeWhile_cons_of_neg (by simp), List.append_nil]
    intro name member
    have differs : name ≠ next := fun same => apart (same ▸ member)
    simpa using differs
  have back : (next :: front.reverse).IsChain graph.Calls := by
    rw [← List.reverse_concat, List.isChain_reverse]
    exact (List.isChain_split.1 trail).1
  rw [closing, before, ← List.cons_append]
  constructor
  case length => simp
  case returns =>
    rw [List.getLast?_concat]
    rfl
  case distinct =>
    rw [List.dropLast_concat, ← List.reverse_concat, List.nodup_reverse]
    exact List.Nodup.sublist (by simp) distinct
  case calls =>
    apply back.append (List.isChain_singleton next)
    intro last here callee there
    cases there
    rw [← List.reverse_concat, List.getLast?_reverse] at here
    apply calls last
    rw [List.head?_append] at here ⊢
    exact here

/-- Every cycle that a search closes passes no node twice. -/
theorem Explores.simpleCycles {path successors : List String} {before after : Search}
    (explores : graph.Explores path successors before after) (trail : graph.Trail path)
    (distinct : path.Nodup)
    (calls : ∀ next ∈ successors, ∀ last ∈ path.head?, graph.Calls last next)
    (known : ∀ walk ∈ before.cycles, graph.SimpleCycle walk) :
    ∀ walk ∈ after.cycles, graph.SimpleCycle walk := by
  induction explores with
  | done => exact known
  | closes onPath onward ih =>
    apply ih trail distinct fun next member => calls next (List.mem_cons_of_mem _ member)
    intro walk member
    rcases List.mem_append.1 member with old | new
    · exact known walk old
    · rw [List.mem_singleton.1 new]
      exact simpleCycle_closing trail distinct onPath (calls _ (List.mem_cons_self ..))
  | skips offPath visited onward ih =>
    exact ih trail distinct (fun next member => calls next (List.mem_cons_of_mem _ member)) known
  | enters offPath new inside onward ihInside ihOnward =>
    apply ihOnward trail distinct fun next member => calls next (List.mem_cons_of_mem _ member)
    apply ihInside
    · exact List.isChain_cons.2 ⟨calls _ (List.mem_cons_self ..), trail⟩
    · exact List.nodup_cons.2 ⟨offPath, distinct⟩
    · intro callee member last here
      cases here
      exact mem_dependencies_iff.1 member
    · exact known

theorem simpleCycle_of_mem_cycles {walk : List String} (member : walk ∈ graph.cycles) :
    graph.SimpleCycle walk := by
  obtain ⟨after, same, explores⟩ := graph.exists_explores_cycles
  rw [← same] at member
  apply explores.simpleCycles List.isChain_nil List.nodup_nil _ _ walk member
  · intro next _ last here
    cases here
  · intro walk none
    cases none

theorem roundTrip_of_mem_cycles {walk : List String} (member : walk ∈ graph.cycles) :
    graph.RoundTrip walk :=
  (simpleCycle_of_mem_cycles member).roundTrip

/-! ## Calls that close cycles -/

theorem Explores.visited_subset {path successors : List String} {before after : Search}
    (explores : graph.Explores path successors before after) : before.visited ⊆ after.visited := by
  induction explores with
  | done => exact List.Subset.refl _
  | closes onPath onward ih => exact ih
  | skips offPath visited onward ih => exact ih
  | enters offPath new inside onward ihInside ihOnward =>
    exact List.Subset.trans (List.subset_cons_self ..) (List.Subset.trans ihInside ihOnward)

/-- A walk is closed by a call of the end of the path to one of the successors, or by a call of a
node that a search visits on the way. -/
def ClosedBy (path successors before after walk : List String) : Prop :=
  ∃ last next, lastStep? walk = some (last, next) ∧
    (last ∈ path.head? ∧ next ∈ successors ∨ last ∉ before ∧ last ∈ after)

/-- Walks that a search closes, by different calls. -/
structure ClosedApart (path successors before after : List String) (closed : List (List String)) :
    Prop where
  distinct : (closed.map lastStep?).Nodup
  origins : ∀ walk ∈ closed, ClosedBy path successors before after walk

section ClosedApart

variable {path rest before between after : List String} {closed inner outer : List (List String)}
  {next : String}

theorem ClosedApart.cons (apart : ClosedApart path rest before after closed) (next : String) :
    ClosedApart path (next :: rest) before after closed where
  distinct := apart.distinct
  origins := by
    intro walk member
    obtain ⟨last, callee, closes, origin⟩ := apart.origins walk member
    exact ⟨last, callee, closes, origin.imp_left fun here =>
      ⟨here.1, List.mem_cons_of_mem _ here.2⟩⟩

/-- The end of the path has not called the next successor before. -/
theorem ClosedApart.close {last : String} {earlier : List String}
    (apart : ClosedApart (last :: earlier) rest before after closed) (fresh : next ∉ rest)
    (entered : last ∈ before) :
    ClosedApart (last :: earlier) (next :: rest) before after
      (closing (last :: earlier) next :: closed) where
  distinct := by
    rw [List.map_cons, List.nodup_cons, lastStep?_closing]
    refine ⟨?_, apart.distinct⟩
    intro again
    obtain ⟨walk, member, equal⟩ := List.mem_map.1 again
    obtain ⟨caller, callee, closes, origin⟩ := apart.origins walk member
    cases closes.symm.trans equal
    cases origin with
    | inl left => exact fresh left.2
    | inr met => exact met.1 entered
  origins := by
    rw [List.forall_mem_cons]
    exact ⟨⟨last, next, lastStep?_closing .., .inl ⟨rfl, List.mem_cons_self ..⟩⟩,
      (apart.cons next).origins⟩

/-- The walks that are closed while a new node is on the path are closed by calls of nodes that were
not visited before and are visited then. -/
theorem ClosedApart.met {successors : List String}
    (apart : ClosedApart (next :: path) successors (next :: before) between inner)
    (new : next ∉ before) (seen : next ∈ between) {walk : List String} (member : walk ∈ inner) :
    ∃ last callee, lastStep? walk = some (last, callee) ∧ last ∉ before ∧ last ∈ between := by
  obtain ⟨last, callee, closes, origin⟩ := apart.origins walk member
  refine ⟨last, callee, closes, ?_⟩
  cases origin with
  | inl left =>
    cases left.1
    exact ⟨new, seen⟩
  | inr met => exact ⟨fun old => met.1 (List.mem_cons_of_mem _ old), met.2⟩

/-- What is closed from a new node on and what is closed later come from the calls of different
nodes. -/
theorem ClosedApart.append
    (met : ∀ walk ∈ inner, ∃ last callee, lastStep? walk = some (last, callee) ∧ last ∉ before ∧
      last ∈ between)
    (distinct : (inner.map lastStep?).Nodup) (apart : ClosedApart path rest between after outer)
    (entered : ∀ last ∈ path.head?, last ∈ before) (kept : before ⊆ between)
    (later : between ⊆ after) : ClosedApart path rest before after (inner ++ outer) where
  distinct := by
    rw [List.map_append, List.nodup_append]
    refine ⟨distinct, apart.distinct, ?_⟩
    intro step first other second same
    obtain ⟨walk, member, rfl⟩ := List.mem_map.1 first
    obtain ⟨further, listed, equal⟩ := List.mem_map.1 second
    obtain ⟨last, callee, closes, fresh, here⟩ := met walk member
    obtain ⟨caller, target, ends, origin⟩ := apart.origins further listed
    cases (closes.symm.trans (same.trans equal.symm)).trans ends
    cases origin with
    | inl left => exact fresh (entered last left.1)
    | inr there => exact there.1 here
  origins := by
    intro walk member
    cases List.mem_append.1 member with
    | inl first =>
      obtain ⟨last, callee, closes, fresh, here⟩ := met walk first
      exact ⟨last, callee, closes, .inr ⟨fresh, later here⟩⟩
    | inr second =>
      obtain ⟨last, callee, closes, origin⟩ := apart.origins walk second
      exact ⟨last, callee, closes, origin.imp_right fun met => ⟨fun old => met.1 (kept old), met.2⟩⟩

end ClosedApart

/-- A search closes cycles by different calls. -/
theorem Explores.exists_closed (plain : ∀ name, (graph.dependencies name).Nodup)
    {path successors : List String} {before after : Search}
    (explores : graph.Explores path successors before after) (distinct : successors.Nodup)
    (entered : ∀ last ∈ path.head?, last ∈ before.visited) :
    ∃ closed, after.cycles = before.cycles ++ closed ∧
      ClosedApart path successors before.visited after.visited closed := by
  induction explores with
  | done => exact ⟨[], by simp, ⟨List.nodup_nil, fun _ none => by cases none⟩⟩
  | @closes path rest next before after onPath onward ih =>
    obtain ⟨fresh, others⟩ := List.nodup_cons.1 distinct
    obtain ⟨closed, same, apart⟩ := ih others entered
    cases path with
    | nil => cases onPath
    | cons last earlier =>
      refine ⟨closing (last :: earlier) next :: closed, ?_, apart.close fresh (entered last rfl)⟩
      rw [same, List.append_assoc, List.singleton_append]
  | skips offPath visited onward ih =>
    obtain ⟨closed, same, apart⟩ := ih (List.nodup_cons.1 distinct).2 entered
    exact ⟨closed, same, apart.cons _⟩
  | @enters path rest next before between after offPath new inside onward ihInside ihOnward =>
    have seen : next ∈ between.visited := inside.visited_subset (List.mem_cons_self ..)
    have kept : before.visited ⊆ between.visited := fun name member =>
      inside.visited_subset (List.mem_cons_of_mem _ member)
    obtain ⟨inner, innerSame, innerApart⟩ := ihInside (plain next) fun last here => by
      cases here
      exact List.mem_cons_self ..
    obtain ⟨outer, outerSame, outerApart⟩ :=
      ihOnward (List.nodup_cons.1 distinct).2 fun last here => kept (entered last here)
    refine ⟨inner ++ outer, by rw [outerSame, innerSame, List.append_assoc], ?_⟩
    exact .append (fun walk member => innerApart.met new seen member) innerApart.distinct
      (outerApart.cons next) entered kept onward.visited_subset

/-- No two cycles are closed by the same call. -/
theorem nodup_lastSteps_cycles (plain : ∀ name, (graph.dependencies name).Nodup)
    (distinct : graph.nodes.Nodup) : (graph.cycles.map lastStep?).Nodup := by
  obtain ⟨after, same, explores⟩ := graph.exists_explores_cycles
  obtain ⟨closed, all, apart⟩ := explores.exists_closed plain distinct fun _ none => by cases none
  rw [← same, all]
  exact apart.distinct

/-! ## Every round trip -/

/-- A node calls another, and none of the given cycles is closed by this call. -/
def CallsApart (graph : CallGraph) (cycles : List (List String)) (caller callee : String) : Prop :=
  graph.Calls caller callee ∧ some (caller, callee) ∉ cycles.map lastStep?

/-- No endless way starts at a node if the calls that close the given cycles are left out. -/
def Grounded (graph : CallGraph) (cycles : List (List String)) (name : String) : Prop :=
  Acc (fun callee caller => graph.CallsApart cycles caller callee) name

theorem Grounded.not_cyclic {cycles : List (List String)} {name : String}
    (grounded : graph.Grounded cycles name) :
    ¬Relation.TransGen (graph.CallsApart cycles) name name := by
  induction grounded with
  | intro name _ ih =>
    intro around
    obtain ⟨next, calls, back⟩ := Relation.TransGen.head'_iff.1 around
    exact ih next calls (.tail' back calls)

theorem Explores.cycles_subset {path successors : List String} {before after : Search}
    (explores : graph.Explores path successors before after) : before.cycles ⊆ after.cycles := by
  induction explores with
  | done => exact List.Subset.refl _
  | closes onPath onward ih => exact List.Subset.trans (List.subset_append_left ..) ih
  | skips offPath visited onward ih => exact ih
  | enters offPath new inside onward ihInside ihOnward => exact List.Subset.trans ihInside ihOnward

/-- The nodes that a search has left again are grounded, and so are the successors that it has dealt
with, unless the call of such a successor closes a cycle. -/
theorem Explores.grounded {path successors : List String} {before after : Search}
    {cycles : List (List String)} (explores : graph.Explores path successors before after)
    (listed : after.cycles ⊆ cycles)
    (known : ∀ name ∈ before.visited, name ∈ path ∨ graph.Grounded cycles name) :
    (∀ name ∈ after.visited, name ∈ path ∨ graph.Grounded cycles name) ∧
      ∀ next ∈ successors, graph.Grounded cycles next ∨
        ∃ last ∈ path.head?, some (last, next) ∈ cycles.map lastStep? := by
  induction explores with
  | done => exact ⟨known, fun _ member => by cases member⟩
  | @closes path rest next before after onPath onward ih =>
    obtain ⟨left, others⟩ := ih listed known
    refine ⟨left, ?_⟩
    rw [List.forall_mem_cons]
    refine ⟨.inr ?_, others⟩
    cases path with
    | nil => cases onPath
    | cons last earlier =>
      have closed : closing (last :: earlier) next ∈ cycles :=
        listed (onward.cycles_subset (List.mem_append_right _ (List.mem_singleton.2 rfl)))
      exact ⟨last, rfl, List.mem_map.2 ⟨_, closed, lastStep?_closing ..⟩⟩
  | skips offPath visited onward ih =>
    obtain ⟨left, others⟩ := ih listed known
    have here := (known _ visited).resolve_left offPath
    exact ⟨left, List.forall_mem_cons.2 ⟨.inl here, others⟩⟩
  | @enters path rest next before between after offPath new inside onward ihInside ihOnward =>
    have entered : ∀ name ∈ next :: before.visited,
        name ∈ next :: path ∨ graph.Grounded cycles name := by
      intro name member
      rcases List.mem_cons.1 member with rfl | old
      · exact .inl (List.mem_cons_self ..)
      · exact (known name old).imp_left (List.mem_cons_of_mem _)
    -- `next` is on the path while its successors are searched, and grounded once they are done
    obtain ⟨left, below⟩ := ihInside (List.Subset.trans onward.cycles_subset listed) entered
    have here : graph.Grounded cycles next := by
      constructor
      intro callee calls
      cases below callee (mem_dependencies_iff.2 calls.1) with
      | inl grounded => exact grounded
      | inr closes =>
        obtain ⟨last, atEnd, closes⟩ := closes
        cases atEnd
        exact absurd closes calls.2
    have back : ∀ name ∈ between.visited, name ∈ path ∨ graph.Grounded cycles name := by
      intro name member
      rcases left name member with onPath | grounded
      · rcases List.mem_cons.1 onPath with rfl | onPath
        · exact .inr here
        · exact .inl onPath
      · exact .inr grounded
    obtain ⟨left, others⟩ := ihOnward listed back
    exact ⟨left, List.forall_mem_cons.2 ⟨.inl here, others⟩⟩

theorem grounded_of_mem_nodes {name : String} (node : name ∈ graph.nodes) :
    graph.Grounded graph.cycles name := by
  obtain ⟨after, same, explores⟩ := graph.exists_explores_cycles
  have listed : after.cycles ⊆ graph.cycles := by rw [same]; exact List.Subset.refl _
  have dealt := (explores.grounded listed fun _ none => by cases none).2
  cases dealt name node with
  | inl grounded => exact grounded
  | inr closes =>
    obtain ⟨last, none, _⟩ := closes
    cases none

/-- Every round trip has a call that closes a cycle. -/
theorem RoundTrip.exists_closing (closed : graph.Closed) {walk : List String}
    (trip : graph.RoundTrip walk) :
    ∃ cycle ∈ graph.cycles, ∃ step ∈ steps walk, lastStep? cycle = some step := by
  by_contra none
  obtain ⟨name, middle, rfl, chain⟩ := trip
  have apart : (name :: (middle ++ [name])).IsChain (graph.CallsApart graph.cycles) := by
    rw [isChain_iff_steps] at chain ⊢
    intro step member
    refine ⟨chain step member, ?_⟩
    intro closes
    obtain ⟨cycle, listed, same⟩ := List.mem_map.1 closes
    exact none ⟨cycle, listed, step, member, same⟩
  have around := leads_of_isChain apart
  obtain ⟨next, calls, _⟩ := Relation.TransGen.head'_iff.1 around
  exact (grounded_of_mem_nodes (closed calls.1).1).not_cyclic around

/-- A search finds no cycle exactly if there is no round trip. -/
theorem cycles_eq_nil_iff_roundTrip (closed : graph.Closed) :
    graph.cycles = [] ↔ ∀ walk, ¬graph.RoundTrip walk := by
  constructor
  · intro none walk trip
    obtain ⟨cycle, listed, _⟩ := trip.exists_closing closed
    rw [none] at listed
    cases listed
  · intro acyclic
    rw [List.eq_nil_iff_forall_not_mem]
    intro walk member
    exact acyclic walk (roundTrip_of_mem_cycles member)

/-- A search finds no cycle exactly if no node leads back to itself. -/
theorem cycles_eq_nil_iff (closed : graph.Closed) :
    graph.cycles = [] ↔ ∀ name, ¬Relation.TransGen graph.Calls name name := by
  rw [cycles_eq_nil_iff_roundTrip closed]
  constructor
  · intro acyclic name around
    obtain ⟨middle, trip⟩ := exists_roundTrip around
    exact acyclic _ trip
  · intro acyclic walk trip
    obtain ⟨name, middle, rfl, chain⟩ := trip
    exact acyclic name (leads_of_isChain chain)

/-- The cycles that are found pass no node twice and are closed by different calls, and every round
trip has one of these calls. So there are some exactly if there is a round trip. -/
theorem cycles_are_sound_and_complete (records : List Record) :
    let graph := build records
    (∀ walk ∈ graph.cycles, graph.SimpleCycle walk) ∧
      (graph.cycles.map lastStep?).Nodup ∧
      (∀ walk, graph.RoundTrip walk →
        ∃ cycle ∈ graph.cycles, ∃ step ∈ steps walk, lastStep? cycle = some step) ∧
      (graph.cycles = [] ↔ ∀ walk, ¬graph.RoundTrip walk) := by
  intro graph
  have closed := closed_build records
  have distinct : (graph.cycles.map lastStep?).Nodup :=
    nodup_lastSteps_cycles (nodup_dependencies (nodup_edges_build records))
      (Text.nodup_firstOccurrences _)
  exact ⟨fun walk => simpleCycle_of_mem_cycles, distinct,
    fun walk trip => trip.exists_closing closed, cycles_eq_nil_iff_roundTrip closed⟩

/-- Three cycles that have calls in common, and a round trip that starts inside of the longest. -/
theorem cycles_are_sound_and_complete_nested :
    let graph := build [unitCalling "a" ["b"], unitCalling "b" ["c", "a"],
      unitCalling "c" ["m::a", "c"], unitCalling "d" ["a"]]
    graph.cycles = [["a", "b", "c", "a"], ["c", "c"], ["a", "b", "a"]] ∧
      graph.RoundTrip ["b", "c", "a", "b"] ∧
      ∃ cycle ∈ graph.cycles, ∃ step ∈ steps ["b", "c", "a", "b"], lastStep? cycle = some step := by
  intro graph
  have trip : graph.RoundTrip ["b", "c", "a", "b"] := ⟨"b", ["c", "a"], rfl, by decide +kernel⟩
  exact ⟨by decide +kernel, trip, (cycles_are_sound_and_complete _).2.2.1 _ trip⟩

end SourceIndex.CallGraph
