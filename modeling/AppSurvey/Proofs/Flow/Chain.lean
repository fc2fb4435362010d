import AppSurvey.Flow.Path
import AppSurvey.Proofs.Flow.CallGraph
import Mathlib.Data.List.Nodup
import Mathlib.Data.List.Flatten

/-!
# Chains of calls

A chain is a sequence of recorded calls in which each begins where the one before ended. Two equal
calls of a method count as two: an `Occurrence` tells them apart by their place. The search for paths
is compared with the chains level by level. `CallGraph.level` holds the simple chains of one length
that have not come to the target before their end; a path is such a chain that ends at the target.
-/

namespace AppSurvey.Flow

open Text

/-- A call, and its place among the calls of its caller. -/
structure Occurrence where
  call : Call
  place : Nat
  deriving DecidableEq

/-- Is this the call that the graph has at this place of its caller? -/
def Occurrence.IsRecorded (occurrence : Occurrence) (graph : CallGraph) : Prop :=
  (graph.callsFrom occurrence.call.caller)[occurrence.place]? = some occurrence.call

/-- Calls in order, the first made by the source of the chain. -/
abbrev Chain := List Occurrence

namespace Chain

/-- Every method of a chain in order, its source first. -/
def visited (source : String) (chain : Chain) : List String :=
  source :: chain.map fun occurrence => occurrence.call.callee

/-- The method that a chain has come to. -/
def here (source : String) (chain : Chain) : String :=
  (chain.visited source).getLast (List.cons_ne_nil _ _)

/-- The methods of a chain before the one it has come to. -/
def behind (source : String) (chain : Chain) : List String :=
  (chain.visited source).dropLast

/-- Each call is made by the method that the one before came to, the first by the source. -/
def Linked (source : String) : Chain → Prop
  | [] => True
  | occurrence :: rest =>
      occurrence.call.caller = source ∧ Linked occurrence.call.callee rest

/-- The chain consists of recorded calls that follow one another and visit no method twice. -/
structure IsSimple (graph : CallGraph) (source : String) (chain : Chain) : Prop where
  recorded : ∀ occurrence ∈ chain, occurrence.IsRecorded graph
  linked : chain.Linked source
  nodup : (chain.visited source).Nodup

/-- The chain leads from the source to the first method whose name includes the target, over at
most `depth` methods. -/
structure Leads (graph : CallGraph) (source target : String) (depth : Nat) (chain : Chain) :
    Prop where
  simple : chain.IsSimple graph source
  bounded : chain.length + 1 ≤ depth
  reaches : target.toList <:+: (chain.here source).toList
  first : ∀ method ∈ chain.behind source, ¬ target.toList <:+: method.toList

/-- The chain as a path. -/
def toPath (source : String) (chain : Chain) : CallPath :=
  { methods := chain.visited source
    calls := chain.map Occurrence.call
    length := chain.length }

/-- The chain as the search keeps it. -/
def toTrail (source : String) (chain : Chain) : Trail :=
  { here := chain.here source
    behind := (chain.behind source).reverse
    calls := (chain.map Occurrence.call).reverse }

/-! ## One more call -/

@[simp] theorem visited_concat (source : String) (chain : Chain) (occurrence : Occurrence) :
    Chain.visited source (chain ++ [occurrence]) =
      chain.visited source ++ [occurrence.call.callee] := by
  simp [visited]

@[simp] theorem here_concat (source : String) (chain : Chain) (occurrence : Occurrence) :
    Chain.here source (chain ++ [occurrence]) = occurrence.call.callee := by
  simp [here]

@[simp] theorem behind_concat (source : String) (chain : Chain) (occurrence : Occurrence) :
    Chain.behind source (chain ++ [occurrence]) = chain.visited source := by
  simp [behind]

theorem visited_eq (source : String) (chain : Chain) :
    chain.visited source = chain.behind source ++ [chain.here source] :=
  (List.dropLast_concat_getLast _).symm

theorem length_behind (source : String) (chain : Chain) :
    (chain.behind source).length = chain.length := by
  simp [behind, visited]

theorem linked_concat (source : String) (chain : Chain) (occurrence : Occurrence) :
    Chain.Linked source (chain ++ [occurrence]) ↔
      chain.Linked source ∧ occurrence.call.caller = chain.here source := by
  induction chain generalizing source with
  | nil => simp [Linked, here, visited]
  | cons head rest ih =>
      have hhere : Chain.here source (head :: rest) = Chain.here head.call.callee rest := by
        simp [here, visited]
      simp only [List.cons_append, Linked, ih, hhere, and_assoc]

/-- What one more call adds to a simple chain: it is recorded, made by the method the chain has come
to and leads to a method not visited before. -/
theorem isSimple_concat (graph : CallGraph) (source : String) (chain : Chain)
    (occurrence : Occurrence) :
    Chain.IsSimple graph source (chain ++ [occurrence]) ↔
      chain.IsSimple graph source ∧ occurrence.IsRecorded graph ∧
        occurrence.call.caller = chain.here source ∧
        occurrence.call.callee ∉ chain.visited source := by
  constructor
  · intro hsimple
    obtain ⟨hrecorded, hlinked, hnodup⟩ := hsimple
    rw [linked_concat] at hlinked
    rw [visited_concat, List.nodup_append] at hnodup
    refine ⟨⟨fun other hother => hrecorded other (List.mem_append_left _ hother), hlinked.1,
      hnodup.1⟩, hrecorded occurrence (by simp), hlinked.2, ?_⟩
    intro hvisited
    exact hnodup.2.2 _ hvisited _ (List.mem_singleton_self _) rfl
  · rintro ⟨⟨hrecorded, hlinked, hnodup⟩, hrecord, hcaller, hnew⟩
    refine ⟨?_, (linked_concat _ _ _).mpr ⟨hlinked, hcaller⟩, ?_⟩
    · intro other hother
      rcases List.mem_append.mp hother with hold | hlast
      · exact hrecorded other hold
      · rw [List.mem_singleton.mp hlast]
        exact hrecord
    · rw [visited_concat, List.nodup_append]
      refine ⟨hnodup, List.nodup_singleton _, ?_⟩
      intro method hmethod other hother heq
      rw [List.mem_singleton.mp hother] at heq
      exact hnew (heq ▸ hmethod)

theorem isSimple_nil (graph : CallGraph) (source : String) :
    Chain.IsSimple graph source [] :=
  ⟨by simp, trivial, List.nodup_singleton _⟩

theorem visited_toTrail (source : String) (chain : Chain) :
    (chain.toTrail source).visited = (chain.visited source).reverse := by
  rw [visited_eq, List.reverse_append]
  rfl

theorem toPath_toTrail (source : String) (chain : Chain) :
    (chain.toTrail source).toPath = chain.toPath source := by
  rw [Trail.toPath, visited_toTrail, List.reverse_reverse]
  simp [toTrail, toPath, length_behind]

end Chain

namespace CallGraph

/-! ## Chains level by level -/

/-- The calls of a method with their places. -/
def occurrencesFrom (graph : CallGraph) (method : String) : List Occurrence :=
  (graph.callsFrom method).zipIdx.map fun (call, place) => { call, place }

theorem map_call_occurrencesFrom (graph : CallGraph) (method : String) :
    (graph.occurrencesFrom method).map Occurrence.call = graph.callsFrom method := by
  simp only [occurrencesFrom, List.map_map]
  exact List.zipIdx_map_fst 0 _

theorem mem_occurrencesFrom {graph : CallGraph} {method : String} {occurrence : Occurrence} :
    occurrence ∈ graph.occurrencesFrom method ↔
      (graph.callsFrom method)[occurrence.place]? = some occurrence.call := by
  rw [occurrencesFrom, List.mem_map]
  constructor
  · rintro ⟨⟨call, place⟩, hmem, rfl⟩
    exact List.mem_zipIdx_iff_getElem?.mp hmem
  · intro hplace
    exact ⟨(occurrence.call, occurrence.place), List.mem_zipIdx_iff_getElem?.mpr hplace, rfl⟩

theorem nodup_occurrencesFrom (graph : CallGraph) (method : String) :
    (graph.occurrencesFrom method).Nodup := by
  apply List.Nodup.of_map Occurrence.place
  simp only [occurrencesFrom, List.map_map]
  have hplaces := List.zipIdx_map_snd 0 (graph.callsFrom method)
  exact hplaces ▸ List.nodup_range'

/-- The calls of a method are those recorded ones that it makes. -/
theorem Filed.mem_occurrencesFrom {graph : CallGraph} (hfiled : graph.Filed) {method : String}
    {occurrence : Occurrence} :
    occurrence ∈ graph.occurrencesFrom method ↔
      occurrence.IsRecorded graph ∧ occurrence.call.caller = method := by
  rw [CallGraph.mem_occurrencesFrom]
  constructor
  · intro hplace
    have hcaller := hfiled method _ (List.mem_of_getElem? hplace)
    exact ⟨by rwa [Occurrence.IsRecorded, hcaller], hcaller⟩
  · rintro ⟨hrecorded, rfl⟩
    exact hrecorded

/-- The chains that are one call longer and visit one more method. -/
def next (graph : CallGraph) (source : String) (chain : Chain) : List Chain :=
  (graph.occurrencesFrom (chain.here source)).filterMap fun occurrence =>
    if occurrence.call.callee ∈ chain.visited source then none else some (chain ++ [occurrence])

theorem mem_next {graph : CallGraph} {source : String} {chain longer : Chain} :
    longer ∈ graph.next source chain ↔
      ∃ occurrence ∈ graph.occurrencesFrom (chain.here source),
        occurrence.call.callee ∉ chain.visited source ∧ chain ++ [occurrence] = longer := by
  simp [next, List.mem_filterMap]

theorem nodup_next (graph : CallGraph) (source : String) (chain : Chain) :
    (graph.next source chain).Nodup := by
  refine (graph.nodup_occurrencesFrom _).filterMap ?_
  intro first second longer hfirst hsecond
  simp only [Option.mem_def, Option.ite_none_left_eq_some, Option.some.injEq] at hfirst hsecond
  simpa using hfirst.2.trans hsecond.2.symm

/-- The simple chains of `n` calls that did not come to the target before their end. -/
def level (graph : CallGraph) (source target : String) : Nat → List Chain
  | 0 => [[]]
  | n + 1 =>
      ((graph.level source target n).filter fun chain => !includes (chain.here source) target).flatMap
        (graph.next source)

theorem mem_level_succ {graph : CallGraph} (hfiled : graph.Filed) {source target : String} {n : Nat}
    {longer : Chain} :
    longer ∈ graph.level source target (n + 1) ↔
      ∃ chain ∈ graph.level source target n, ∃ occurrence : Occurrence,
        ¬ target.toList <:+: (chain.here source).toList ∧ occurrence.IsRecorded graph ∧
        occurrence.call.caller = chain.here source ∧
        occurrence.call.callee ∉ chain.visited source ∧ longer = chain ++ [occurrence] := by
  simp only [level, List.mem_flatMap, List.mem_filter, mem_next, hfiled.mem_occurrencesFrom,
    Bool.not_eq_true', ← Bool.not_eq_true, includes_iff]
  constructor
  · rintro ⟨chain, ⟨hchain, hopen⟩, occurrence, ⟨hrecorded, hcaller⟩, hnew, rfl⟩
    exact ⟨chain, hchain, occurrence, hopen, hrecorded, hcaller, hnew, rfl⟩
  · rintro ⟨chain, hchain, occurrence, hopen, hrecorded, hcaller, hnew, rfl⟩
    exact ⟨chain, ⟨hchain, hopen⟩, occurrence, ⟨hrecorded, hcaller⟩, hnew, rfl⟩

/-- A level holds exactly the simple chains of its length whose earlier methods do not include the
target. -/
theorem mem_level {graph : CallGraph} (hfiled : graph.Filed) {source target : String} {n : Nat}
    {chain : Chain} :
    chain ∈ graph.level source target n ↔
      chain.length = n ∧ chain.IsSimple graph source ∧
        ∀ method ∈ chain.behind source, ¬ target.toList <:+: method.toList := by
  induction n generalizing chain with
  | zero =>
      constructor
      · intro hchain
        rw [level, List.mem_singleton] at hchain
        subst hchain
        exact ⟨rfl, Chain.isSimple_nil graph source, by simp [Chain.behind, Chain.visited]⟩
      · rintro ⟨hlength, -, -⟩
        rw [List.length_eq_zero_iff.mp hlength, level, List.mem_singleton]
  | succ n ih =>
      rw [mem_level_succ hfiled]
      constructor
      · rintro ⟨chain, hchain, occurrence, hopen, hrecorded, hcaller, hnew, rfl⟩
        obtain ⟨hlength, hsimple, hbehind⟩ := ih.mp hchain
        refine ⟨by simp [hlength], (Chain.isSimple_concat _ _ _ _).mpr
          ⟨hsimple, hrecorded, hcaller, hnew⟩, ?_⟩
        intro method hmethod
        rw [Chain.behind_concat, Chain.visited_eq, List.mem_append, List.mem_singleton] at hmethod
        rcases hmethod with hearlier | rfl
        · exact hbehind method hearlier
        · exact hopen
      · rintro ⟨hlength, hsimple, hbehind⟩
        -- The last call of the chain is split off; what is left belongs to the level before.
        obtain ⟨chain, occurrence, rfl⟩ := (List.eq_nil_or_concat' chain).resolve_left
          (List.ne_nil_of_length_eq_add_one hlength)
        obtain ⟨hsimple, hrecorded, hcaller, hnew⟩ := (Chain.isSimple_concat _ _ _ _).mp hsimple
        rw [Chain.behind_concat, Chain.visited_eq] at hbehind
        refine ⟨chain, ih.mpr ⟨by simpa using hlength, hsimple, ?_⟩, occurrence, ?_, hrecorded,
          hcaller, hnew, rfl⟩
        · exact fun method hmethod => hbehind method (List.mem_append_left _ hmethod)
        · exact hbehind _ (List.mem_append_right _ (List.mem_singleton_self _))

theorem length_of_mem_level {graph : CallGraph} (hfiled : graph.Filed) {source target : String}
    {n : Nat} {chain : Chain} (hchain : chain ∈ graph.level source target n) :
    chain.length = n :=
  ((mem_level hfiled).mp hchain).1

theorem nodup_level (graph : CallGraph) (source target : String) (n : Nat) :
    (graph.level source target n).Nodup := by
  induction n with
  | zero => exact List.nodup_singleton _
  | succ n ih =>
      rw [level, List.nodup_flatMap]
      refine ⟨fun chain _ => graph.nodup_next source chain, ?_⟩
      refine (ih.filter _).imp ?_
      intro first second hne longer hfirst hsecond
      -- A chain that goes on from both has both as the part before its last call.
      obtain ⟨_, -, -, rfl⟩ := mem_next.mp hfirst
      obtain ⟨_, -, -, heq⟩ := mem_next.mp hsecond
      exact hne (List.append_inj' heq rfl).1.symm

/-! ## The search follows the levels -/

theorem next_toTrail (graph : CallGraph) (source : String) (chain : Chain) :
    (chain.toTrail source).next graph = (graph.next source chain).map (Chain.toTrail source) := by
  have hcalls : graph.callsFrom (chain.toTrail source).here =
      (graph.occurrencesFrom (chain.here source)).map Occurrence.call :=
    (graph.map_call_occurrencesFrom _).symm
  rw [Trail.next, hcalls, List.filterMap_map, next, List.map_filterMap]
  apply List.filterMap_congr
  intro occurrence _
  simp only [Function.comp, Trail.follow?, Chain.visited_toTrail, List.mem_reverse]
  split
  · rfl
  · simp [Chain.toTrail]

theorem search_nil (graph : CallGraph) (target : String) (depth : Nat) :
    graph.search target depth [] = [] := by
  cases depth <;> rfl

theorem search_succ (graph : CallGraph) (target : String) (depth : Nat) (trails : List Trail) :
    graph.search target (depth + 1) trails =
      (trails.filter fun trail => trail.reaches target).map Trail.toPath ++
        graph.search target depth
          ((trails.filter fun trail => !trail.reaches target).flatMap fun trail =>
            trail.next graph) := by
  cases trails with
  | nil => simp [search_nil, search]
  | cons head rest =>
      rw [search, List.partition_eq_filter_filter]
      rfl

/-- From a level on, the search finds the chains of this and the next levels that end at the
target. -/
theorem search_level (graph : CallGraph) (source target : String) (depth n : Nat) :
    graph.search target depth ((graph.level source target n).map (Chain.toTrail source)) =
      (List.range' n depth).flatMap fun k =>
        ((graph.level source target k).filter fun chain => includes (chain.here source) target).map
          (Chain.toPath source) := by
  induction depth generalizing n with
  | zero => rfl
  | succ depth ih =>
      have hreaches : (fun trail : Trail => trail.reaches target) ∘ Chain.toTrail source =
          fun chain => includes (chain.here source) target := rfl
      -- What has come to the target is found on this level, and the rest makes up the next one.
      rw [search_succ, List.range'_succ, List.flatMap_cons]
      congr 1
      · rw [List.filter_map, hreaches, List.map_map]
        exact List.map_congr_left fun chain _ => chain.toPath_toTrail source
      · rw [← ih (n + 1), level, List.filter_map, List.flatMap_map, List.map_flatMap]
        simp only [next_toTrail]
        rfl

/-- The chains that a search of the given depth finds, in order. -/
def found (graph : CallGraph) (source target : String) (depth : Nat) : List Chain :=
  (List.range depth).flatMap fun n =>
    (graph.level source target n).filter fun chain => includes (chain.here source) target

theorem paths_eq_map_found (graph : CallGraph) (source target : String) (depth : Nat) :
    graph.paths source target depth = (graph.found source target depth).map (Chain.toPath source) := by
  rw [found, List.map_flatMap, List.range_eq_range', ← search_level]
  rfl

theorem mem_found {graph : CallGraph} (hfiled : graph.Filed) {source target : String} {depth : Nat}
    {chain : Chain} :
    chain ∈ graph.found source target depth ↔ chain.Leads graph source target depth := by
  simp only [found, List.mem_flatMap, List.mem_range, List.mem_filter, mem_level hfiled,
    includes_iff]
  constructor
  · rintro ⟨n, hn, ⟨rfl, hsimple, hfirst⟩, hreaches⟩
    exact ⟨hsimple, hn, hreaches, hfirst⟩
  · rintro ⟨hsimple, hbounded, hreaches, hfirst⟩
    exact ⟨chain.length, hbounded, ⟨rfl, hsimple, hfirst⟩, hreaches⟩

theorem nodup_found {graph : CallGraph} (hfiled : graph.Filed) (source target : String)
    (depth : Nat) : (graph.found source target depth).Nodup := by
  rw [found, List.nodup_flatMap]
  refine ⟨fun n _ => (graph.nodup_level source target n).filter _, ?_⟩
  refine List.nodup_range.imp ?_
  intro first second hne chain hfirst hsecond
  -- Chains of two levels differ in length.
  apply hne
  rw [← length_of_mem_level hfiled (List.mem_of_mem_filter hfirst),
    length_of_mem_level hfiled (List.mem_of_mem_filter hsecond)]

theorem mem_paths {graph : CallGraph} (hfiled : graph.Filed) {source target : String} {depth : Nat}
    {path : CallPath} :
    path ∈ graph.paths source target depth ↔
      ∃ chain : Chain, chain.Leads graph source target depth ∧ chain.toPath source = path := by
  simp only [paths_eq_map_found, List.mem_map, mem_found hfiled]

theorem mem_callees_iff_recorded {graph : CallGraph} (hfiled : graph.Filed) {method callee : String} :
    callee ∈ graph.callees method ↔
      ∃ occurrence : Occurrence, occurrence.IsRecorded graph ∧
        occurrence.call.caller = method ∧ occurrence.call.callee = callee := by
  simp only [callees, ← map_call_occurrencesFrom, List.map_map, List.mem_map,
    hfiled.mem_occurrencesFrom, and_assoc, Function.comp]

/-- A path over one method between source and target exists if both calls do. -/
theorem exists_path_over_iff {graph : CallGraph} (hfiled : graph.Filed)
    {source middle target : String} {depth : Nat} (hdepth : 3 ≤ depth) (hmiddle : source ≠ middle)
    (hsourceOpen : ¬ target.toList <:+: source.toList)
    (hmiddleOpen : ¬ target.toList <:+: middle.toList) :
    (∃ path ∈ graph.paths source target depth, path.methods = [source, middle, target]) ↔
      middle ∈ graph.callees source ∧ target ∈ graph.callees middle := by
  simp only [mem_callees_iff_recorded hfiled]
  constructor
  · rintro ⟨path, hpath, hmethods⟩
    obtain ⟨chain, hleads, rfl⟩ := (mem_paths hfiled).mp hpath
    obtain ⟨⟨hrecorded, hlinked, -⟩, -, -, -⟩ := hleads
    -- Three methods leave room for exactly two calls.
    match chain, hmethods with
    | [first, second], hmethods =>
        simp only [Chain.toPath, Chain.visited, List.map_cons, List.map_nil, List.cons.injEq,
          true_and, and_true] at hmethods
        obtain ⟨hfirst, hsecond⟩ := hmethods
        exact ⟨⟨first, hrecorded first (by simp), hlinked.1, hfirst⟩,
          ⟨second, hrecorded second (by simp), hlinked.2.1.trans hfirst, hsecond⟩⟩
  · rintro ⟨⟨first, hfirst, hcaller, rfl⟩, ⟨second, hsecond, hlink, rfl⟩⟩
    subst hcaller
    have hleads : Chain.Leads graph first.call.caller second.call.callee depth [first, second] := by
      refine ⟨⟨by simp [hfirst, hsecond], ⟨rfl, hlink, trivial⟩, ?_⟩, hdepth, ?_, ?_⟩
      · have houter : first.call.caller ≠ second.call.callee :=
          fun heq => hsourceOpen (heq ▸ List.infix_rfl)
        have hinner : first.call.callee ≠ second.call.callee :=
          fun heq => hmiddleOpen (heq ▸ List.infix_rfl)
        simp [Chain.visited, hmiddle, houter, hinner]
      · exact List.infix_rfl
      · simp [Chain.behind, Chain.visited, hsourceOpen, hmiddleOpen]
    exact ⟨_, (mem_paths hfiled).mpr ⟨_, hleads, rfl⟩, rfl⟩

/-- The graph of a list of calls holds them by caller, and its paths are the chains that lead from the
source to a first method that includes the target, each of them once. -/
theorem paths_ofCalls_eq_chains (calls : List Call) (source target : String) (depth : Nat) :
    (∀ method, (ofCalls calls).callsFrom method =
      calls.filter fun call => call.caller = method) ∧
    ∃ chains : List Chain,
      (ofCalls calls).paths source target depth = chains.map (Chain.toPath source) ∧
        chains.Nodup ∧
        ∀ chain, chain ∈ chains ↔ Chain.Leads (ofCalls calls) source target depth chain := by
  refine ⟨callsFrom_ofCalls calls, (ofCalls calls).found source target depth, ?_, ?_, ?_⟩
  · exact paths_eq_map_found _ _ _ _
  · exact nodup_found (filed_ofCalls calls) _ _ _
  · exact fun chain => mem_found (filed_ofCalls calls)

end CallGraph

end AppSurvey.Flow
