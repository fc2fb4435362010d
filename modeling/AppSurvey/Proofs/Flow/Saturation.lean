import AppSurvey.Proofs.Flow.PathOrder
import Mathlib.Data.List.Perm.Subperm
import Mathlib.Logic.Function.Iterate

/-!
# Where a search ends

A search can also be made with one line of trails instead of levels. The first trail of the line is looked
at, and what goes on from it lines up at the end, so the line grows while it is used up. Nothing but the
rule that a trail visits no method twice keeps it from growing for ever. Since a trail has at most as many
methods as the graph, the line runs out after a number of turns that no depth exceeds, and it has found
what the levels hold. A depth beyond the number of methods makes no difference.
-/

namespace AppSurvey.Flow

open Text

/-! ## A search in one line -/

/-- The trails that wait and the paths that have been found. -/
structure Line where
  waiting : List Trail
  found : List CallPath

namespace Line

/-- The line before the first turn. -/
def start (source : String) : Line := ⟨[Trail.start source], []⟩

/-- A turn of the first trail that waits. If it has more methods than the depth allows, it is dropped; if
it has come to the target, it is found; otherwise the trails that go on from it line up behind the others. -/
def turn (graph : CallGraph) (target : String) (depth : Nat) : Line → Line
  | ⟨[], found⟩ => ⟨[], found⟩
  | ⟨trail :: waiting, found⟩ =>
      if depth < trail.visited.length then ⟨waiting, found⟩
      else if trail.reaches target then ⟨waiting, found ++ [trail.toPath]⟩
      else ⟨waiting ++ trail.next graph, found⟩

variable (graph : CallGraph) (target : String)

theorem turns_nil (depth turns : Nat) (found : List CallPath) :
    (turn graph target depth)^[turns] ⟨[], found⟩ = ⟨[], found⟩ :=
  Function.iterate_fixed rfl turns

/-- Trails that the depth allows are found or go on, one after the other. -/
theorem turns_allowed {depth : Nat} {trails : List Trail}
    (hallowed : ∀ trail ∈ trails, trail.visited.length ≤ depth) (others : List Trail)
    (found : List CallPath) :
    (turn graph target depth)^[trails.length] ⟨trails ++ others, found⟩ =
      ⟨others ++ (trails.filter fun trail => !trail.reaches target).flatMap (Trail.next · graph),
        found ++ (trails.filter fun trail => trail.reaches target).map Trail.toPath⟩ := by
  induction trails generalizing others found with
  | nil => simp
  | cons trail trails ih =>
      obtain ⟨htrail, htrails⟩ := List.forall_mem_cons.mp hallowed
      rw [List.length_cons, Function.iterate_succ_apply, List.cons_append, turn,
        if_neg (Nat.not_lt.mpr htrail)]
      cases hreaches : trail.reaches target with
      | true => simp [ih htrails, hreaches]
      | false => simp [ih htrails, hreaches]

/-- Trails that the depth does not allow are dropped. -/
theorem turns_dropped {depth : Nat} {trails : List Trail}
    (hdropped : ∀ trail ∈ trails, depth < trail.visited.length) (found : List CallPath) :
    (turn graph target depth)^[trails.length] ⟨trails, found⟩ = ⟨[], found⟩ := by
  induction trails with
  | nil => rfl
  | cons trail trails ih =>
      obtain ⟨htrail, htrails⟩ := List.forall_mem_cons.mp hdropped
      rw [List.length_cons, Function.iterate_succ_apply, turn, if_pos htrail, ih htrails]

end Line

namespace CallGraph

/-- The trails of a level. -/
def levelTrails (graph : CallGraph) (source target : String) (n : Nat) : List Trail :=
  (graph.level source target n).map (Chain.toTrail source)

theorem length_visited_of_mem_levelTrails {graph : CallGraph} (hfiled : graph.Filed)
    {source target : String} {n : Nat} {trail : Trail}
    (htrail : trail ∈ graph.levelTrails source target n) : trail.visited.length = n + 1 := by
  obtain ⟨chain, hchain, rfl⟩ := List.mem_map.mp htrail
  rw [Chain.visited_toTrail, List.length_reverse, ← length_of_mem_level hfiled hchain]
  simp [Chain.visited]

theorem levelTrails_succ (graph : CallGraph) (source target : String) (n : Nat) :
    graph.levelTrails source target (n + 1) =
      ((graph.levelTrails source target n).filter fun trail => !trail.reaches target).flatMap
        (Trail.next · graph) := by
  rw [levelTrails, levelTrails, level, List.filter_map, List.flatMap_map, List.map_flatMap]
  simp only [next_toTrail]
  rfl

/-- Where the levels run out, the line does so after a number of turns that is the same for all depths, and
it finds what the search by levels finds. The induction is on the number of levels that are left. -/
theorem exists_turns_of_level_eq_nil {graph : CallGraph} (hfiled : graph.Filed)
    {source target : String} (n left : Nat) (hempty : graph.level source target (n + left) = []) :
    ∃ turns, ∀ depth found,
      (Line.turn graph target depth)^[turns] ⟨graph.levelTrails source target n, found⟩ =
        ⟨[], found ++ graph.search target (depth - n) (graph.levelTrails source target n)⟩ := by
  induction left generalizing n with
  | zero =>
      refine ⟨0, fun depth found => ?_⟩
      rw [levelTrails, show graph.level source target n = [] from hempty, List.map_nil, search_nil,
        List.append_nil]
      rfl
  | succ left ih =>
      obtain ⟨turns, hturns⟩ := ih (n + 1) (by rw [← hempty]; congr 1; omega)
      refine ⟨turns + (graph.levelTrails source target n).length, fun depth found => ?_⟩
      rw [Function.iterate_add_apply]
      by_cases hdepth : n < depth
      · have hallowed : ∀ trail ∈ graph.levelTrails source target n, trail.visited.length ≤ depth :=
          fun trail htrail => (length_visited_of_mem_levelTrails hfiled htrail).trans_le hdepth
        have hlevel := Line.turns_allowed graph target hallowed [] found
        rw [List.append_nil, List.nil_append, ← levelTrails_succ] at hlevel
        rw [hlevel, hturns, List.append_assoc]
        obtain ⟨rest, hrest⟩ : ∃ rest, depth - n = rest + 1 := ⟨depth - n - 1, by omega⟩
        rw [hrest, search_succ, ← levelTrails_succ, show depth - (n + 1) = rest by omega]
      · have hdropped : ∀ trail ∈ graph.levelTrails source target n, depth < trail.visited.length := by
          intro trail htrail
          rw [length_visited_of_mem_levelTrails hfiled htrail]
          omega
        rw [Line.turns_dropped graph target hdropped, Line.turns_nil, show depth - n = 0 by omega,
          search, List.append_nil]

/-! ## How long a chain can be -/

/-- The number of methods that a trail from the source can have. -/
def reachBound (graph : CallGraph) (source : String) : Nat :=
  if source ∈ graph.allMethods then graph.methodCount else 1

theorem reachBound_le (graph : CallGraph) (source : String) :
    graph.reachBound source ≤ max 1 graph.methodCount := by
  unfold reachBound
  split
  · exact Nat.le_max_right _ _
  · exact Nat.le_max_left _ _

namespace Records

variable {graph : CallGraph} {calls : List Call} {source : String} {chain : Chain}

theorem mem_of_isRecorded (hrecords : graph.Records calls) {occurrence : Occurrence}
    (hrecorded : occurrence.IsRecorded graph) : occurrence.call ∈ calls := by
  have hcall := List.mem_of_getElem? hrecorded
  rw [hrecords.callsFrom_eq] at hcall
  exact List.mem_of_mem_filter hcall

theorem caller_mem_allMethods (hrecords : graph.Records calls) {occurrence : Occurrence}
    (hrecorded : occurrence.IsRecorded graph) : occurrence.call.caller ∈ graph.allMethods := by
  rw [mem_allMethods, hrecords.mem_methods]
  exact ⟨occurrence.call, hrecords.mem_of_isRecorded hrecorded, .inl rfl⟩

theorem callee_mem_allMethods (hrecords : graph.Records calls) {occurrence : Occurrence}
    (hrecorded : occurrence.IsRecorded graph) : occurrence.call.callee ∈ graph.allMethods := by
  rw [mem_allMethods, hrecords.mem_methods]
  exact ⟨occurrence.call, hrecords.mem_of_isRecorded hrecorded, .inr rfl⟩

/-- A chain that visits no method twice has no more methods than the graph, and it cannot leave a source
that is not in the graph. -/
theorem length_lt_reachBound (hrecords : graph.Records calls)
    (hsimple : chain.IsSimple graph source) : chain.length < graph.reachBound source := by
  unfold reachBound
  split
  next hsource =>
    have hsubset : chain.visited source ⊆ graph.allMethods := by
      refine List.cons_subset.mpr ⟨hsource, ?_⟩
      intro method hmethod
      obtain ⟨occurrence, hoccurrence, rfl⟩ := List.mem_map.mp hmethod
      exact hrecords.callee_mem_allMethods (hsimple.recorded occurrence hoccurrence)
    have hlength := (hsimple.nodup.subperm hsubset).length_le
    rwa [← methodCount_eq, Chain.visited, List.length_cons, List.length_map] at hlength
  next hsource =>
    cases chain with
    | nil => exact Nat.one_pos
    | cons first rest =>
        have hcaller := hrecords.caller_mem_allMethods
          (hsimple.recorded first List.mem_cons_self)
        exact absurd (hsimple.linked.1 ▸ hcaller) hsource

theorem level_eq_nil (hrecords : graph.Records calls) (target : String) {n : Nat}
    (hn : graph.reachBound source ≤ n) : graph.level source target n = [] := by
  refine List.eq_nil_iff_forall_not_mem.mpr fun chain hchain => ?_
  obtain ⟨hlength, hsimple, -⟩ := (mem_level hrecords.filed).mp hchain
  exact absurd (hrecords.length_lt_reachBound hsimple) (by omega)

/-- No level is left to a search that has gone as deep as a chain can be long. -/
theorem found_eq_of_le (hrecords : graph.Records calls) (target : String) {depth deeper : Nat}
    (hdepth : graph.reachBound source ≤ depth) (hdeeper : depth ≤ deeper) :
    graph.found source target deeper = graph.found source target depth := by
  induction hdeeper with
  | refl => rfl
  | @step deeper hdeeper ih =>
      have hlevel := hrecords.level_eq_nil target (Nat.le_trans hdepth hdeeper)
      rw [found_succ, ih, arrivals, hlevel, List.filter_nil, List.append_nil]

end Records

/-- However a graph has grown, and whatever the depth, the line of trails runs out after a number of turns
that does not depend on the depth, with the paths found. No path has more methods than the graph, or one
if its source is not in the graph, and from a depth of that many methods on all searches find the same. -/
theorem search_ends_and_saturates (additions : List Addition) (source target : String) :
    let graph := ofAdditions additions
    (∃ turns, ∀ depth, (Line.turn graph target depth)^[turns] (Line.start source) =
      ⟨[], graph.paths source target depth⟩) ∧
    (∀ depth, max 1 graph.methodCount ≤ depth →
      graph.paths source target depth = graph.paths source target (max 1 graph.methodCount)) ∧
    ∀ depth, ∀ path ∈ graph.paths source target depth,
      path.methods.length ≤ if source ∈ graph.allMethods then graph.methodCount else 1 := by
  intro graph
  have hrecords : graph.Records _ := records_ofAdditions additions
  refine ⟨?_, ?_, ?_⟩
  · obtain ⟨turns, hturns⟩ := exists_turns_of_level_eq_nil hrecords.filed 0 (graph.reachBound source)
      (hrecords.level_eq_nil target (Nat.le_of_eq (Nat.zero_add _).symm))
    exact ⟨turns, fun depth => hturns depth []⟩
  · intro depth hdepth
    rw [paths_eq_map_found, paths_eq_map_found,
      hrecords.found_eq_of_le target (graph.reachBound_le source) hdepth]
  · intro depth path hpath
    obtain ⟨chain, hleads, rfl⟩ := (mem_paths hrecords.filed).mp hpath
    rw [Chain.length_methods_toPath]
    exact hrecords.length_lt_reachBound hleads.simple

/-- Two methods that call each other do not keep a search from its end, even at the greatest depth that
can be asked for. -/
theorem loop_searched_to_its_end :
    let graph := ofAdditions [.ofCall ⟨"Start.go", "Page.open", "1"⟩,
      .ofCall ⟨"Page.open", "Start.go", "2"⟩, .ofCall ⟨"Page.open", "Web.load", "3"⟩]
    graph.methodCount = 3 ∧
      (∃ turns, (Line.turn graph "Web.load" 18446744073709551615)^[turns] (Line.start "Start.go") =
        ⟨[], graph.paths "Start.go" "Web.load" 3⟩) ∧
      graph.paths "Start.go" "Web.load" 18446744073709551615 = graph.paths "Start.go" "Web.load" 3 ∧
      ∃ path ∈ graph.paths "Start.go" "Web.load" 18446744073709551615,
        path.methods = ["Start.go", "Page.open", "Web.load"] ∧
          path.methods.length ≤ max 1 graph.methodCount := by
  intro graph
  have hrecords : graph.Records _ := records_ofAdditions _
  have hcount : graph.methodCount = 3 := by
    rw [hrecords.methodCount_eq_card]
    rfl
  have hends := search_ends_and_saturates [.ofCall ⟨"Start.go", "Page.open", "1"⟩,
    .ofCall ⟨"Page.open", "Start.go", "2"⟩, .ofCall ⟨"Page.open", "Web.load", "3"⟩] "Start.go" "Web.load"
  obtain ⟨⟨turns, hturns⟩, hsaturates, hbounded⟩ := hends
  rw [show max 1 (ofAdditions _).methodCount = 3 by rw [hcount]; rfl] at hsaturates
  obtain ⟨path, hpath, hmethods⟩ : ∃ path ∈ graph.paths "Start.go" "Web.load" 18446744073709551615,
      path.methods = ["Start.go", "Page.open", "Web.load"] := by
    refine (exists_path_over_iff hrecords.filed (by decide) (by decide) (by decide) (by decide)).mpr ?_
    rw [hrecords.callees_eq, hrecords.callees_eq]
    decide
  have hsame : graph.paths "Start.go" "Web.load" 18446744073709551615 =
      graph.paths "Start.go" "Web.load" 3 := hsaturates _ (by decide)
  refine ⟨hcount, ⟨turns, ?_⟩, hsame, path, hpath, hmethods, ?_⟩
  · rw [← hsame]
    exact hturns _
  · exact (hbounded _ path hpath).trans (graph.reachBound_le "Start.go")

end CallGraph

end AppSurvey.Flow
