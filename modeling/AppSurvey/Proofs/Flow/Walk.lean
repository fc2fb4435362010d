import AppSurvey.Proofs.Flow.Chain
import Mathlib.Data.List.Induction

/-!
# What a search comes to

A search follows chains that visit no method twice. Which methods it comes to can be said without that
restriction: an `Approach` is a walk over recorded calls that stops at the first method including the
target, and every loop of a walk can be cut out. Nothing here depends on the place of a call among the
calls of its method, so a search finds in a graph with more calls whatever it finds in this one.
-/

namespace AppSurvey.Flow

open Text

namespace Chain

/-! ## Chains of the same calls -/

theorem visited_eq_of_calls {first second : Chain}
    (hcalls : first.map Occurrence.call = second.map Occurrence.call) (source : String) :
    first.visited source = second.visited source := by
  have hvisited (chain : Chain) :
      chain.visited source = source :: (chain.map Occurrence.call).map Call.callee := by
    simp [visited]
  rw [hvisited, hvisited, hcalls]

theorem linked_iff_of_calls {first second : Chain}
    (hcalls : first.map Occurrence.call = second.map Occurrence.call) (source : String) :
    first.Linked source ↔ second.Linked source := by
  induction first generalizing second source with
  | nil =>
      rw [List.map_nil, eq_comm, List.map_eq_nil_iff] at hcalls
      rw [hcalls]
  | cons head rest ih =>
      cases second with
      | nil => cases hcalls
      | cons other others =>
          obtain ⟨hhead, hrest⟩ := List.cons.inj hcalls
          simp only [Linked, hhead, ih hrest]

/-- Recorded calls that another graph has, too, are recorded there at some place. -/
theorem exists_recorded {graph larger : CallGraph}
    (hlarger : ∀ method, graph.callsFrom method ⊆ larger.callsFrom method) {chain : Chain}
    (hrecorded : ∀ occurrence ∈ chain, occurrence.IsRecorded graph) :
    ∃ other : Chain, other.map Occurrence.call = chain.map Occurrence.call ∧
      ∀ occurrence ∈ other, occurrence.IsRecorded larger := by
  induction chain with
  | nil => exact ⟨[], rfl, by simp⟩
  | cons head rest ih =>
      obtain ⟨hhead, hrest⟩ := List.forall_mem_cons.mp hrecorded
      obtain ⟨others, hcalls, hothers⟩ := ih hrest
      obtain ⟨place, hplace⟩ := List.mem_iff_getElem?.mp (hlarger _ (List.mem_of_getElem? hhead))
      refine ⟨⟨head.call, place⟩ :: others, by rw [List.map_cons, hcalls, List.map_cons], ?_⟩
      exact List.forall_mem_cons.mpr ⟨hplace, hothers⟩

/-- More calls and a greater depth never cost a path. -/
theorem Leads.exists_larger {graph larger : CallGraph}
    (hlarger : ∀ method, graph.callsFrom method ⊆ larger.callsFrom method) {source target : String}
    {depth deeper : Nat} (hdepth : depth ≤ deeper) {chain : Chain}
    (hleads : chain.Leads graph source target depth) :
    ∃ other : Chain, other.Leads larger source target deeper ∧
      other.toPath source = chain.toPath source := by
  obtain ⟨⟨hrecorded, hlinked, hnodup⟩, hbounded, hreaches, hfirst⟩ := hleads
  obtain ⟨other, hcalls, hother⟩ := exists_recorded hlarger hrecorded
  have hvisited := visited_eq_of_calls hcalls source
  have hlength : other.length = chain.length := by
    simpa using congrArg List.length hcalls
  refine ⟨other, ⟨⟨hother, (linked_iff_of_calls hcalls source).mpr hlinked, ?_⟩, ?_, ?_, ?_⟩, ?_⟩
  · rwa [hvisited]
  · omega
  · simpa only [here, hvisited] using hreaches
  · simpa only [behind, hvisited] using hfirst
  · rw [toPath, toPath, hvisited, hcalls, hlength]

end Chain

/-! ## Walks -/

/-- A walk of so many calls from the source to a method. No method before it includes the target, but
methods may be visited more than once. -/
inductive Approach (graph : CallGraph) (source target : String) : Nat → String → Prop
  | start : Approach graph source target 0 source
  | call {n : Nat} {method callee : String} (hmethod : Approach graph source target n method)
      (hopen : ¬ target.toList <:+: method.toList) (hcallee : callee ∈ graph.callees method) :
      Approach graph source target (n + 1) callee

namespace Chain

/-- A simple chain holds a simple chain to each of its methods. -/
theorem IsSimple.exists_to {graph : CallGraph} {source : String} {chain : Chain}
    (hsimple : chain.IsSimple graph source) {method : String}
    (hmethod : method ∈ chain.visited source) :
    ∃ shorter : Chain, shorter.IsSimple graph source ∧ shorter.here source = method ∧
      shorter.length ≤ chain.length ∧ shorter.behind source ⊆ chain.behind source := by
  induction chain using List.reverseRecOn with
  | nil =>
      rw [visited, List.map_nil, List.mem_singleton] at hmethod
      exact ⟨[], hsimple, hmethod.symm, Nat.le_refl 0, List.Subset.refl _⟩
  | append_singleton chain occurrence ih =>
      rw [visited_concat, List.mem_append, List.mem_singleton] at hmethod
      rcases hmethod with hearlier | rfl
      · obtain ⟨shorter, hshorter, hhere, hlength, hbehind⟩ :=
          ih ((isSimple_concat _ _ _ _).mp hsimple).1 hearlier
        refine ⟨shorter, hshorter, hhere, ?_, ?_⟩
        · rw [List.length_append]
          exact Nat.le_add_right_of_le hlength
        · rw [behind_concat]
          exact List.Subset.trans hbehind (List.dropLast_subset _)
      · exact ⟨_, hsimple, here_concat _ _ _, Nat.le_refl _, List.Subset.refl _⟩

theorem IsSimple.approach {graph : CallGraph} (hfiled : graph.Filed) {source target : String}
    {chain : Chain} (hsimple : chain.IsSimple graph source)
    (hfirst : ∀ method ∈ chain.behind source, ¬ target.toList <:+: method.toList) :
    Approach graph source target chain.length (chain.here source) := by
  induction chain using List.reverseRecOn with
  | nil => exact .start
  | append_singleton chain occurrence ih =>
      obtain ⟨hsimple, hrecorded, hcaller, -⟩ := (isSimple_concat _ _ _ _).mp hsimple
      rw [behind_concat, visited_eq] at hfirst
      rw [List.length_append, here_concat]
      refine .call (ih hsimple fun method hmethod => hfirst method (List.mem_append_left _ hmethod))
        (hfirst _ (List.mem_append_right _ (List.mem_singleton_self _))) ?_
      exact (CallGraph.mem_callees_iff_recorded hfiled).mpr ⟨occurrence, hrecorded, hcaller, rfl⟩

end Chain

namespace Approach

/-- Without its loops a walk is a simple chain. -/
theorem exists_simple {graph : CallGraph} (hfiled : graph.Filed) {source target : String} {n : Nat}
    {method : String} (hmethod : Approach graph source target n method) :
    ∃ chain : Chain, chain.IsSimple graph source ∧ chain.here source = method ∧ chain.length ≤ n ∧
      ∀ earlier ∈ chain.behind source, ¬ target.toList <:+: earlier.toList := by
  induction hmethod with
  | start =>
      refine ⟨[], Chain.isSimple_nil graph source, rfl, Nat.le_refl 0, ?_⟩
      exact fun _ hearlier => absurd hearlier List.not_mem_nil
  | @call n method callee _ hopen hcallee ih =>
      obtain ⟨chain, hsimple, rfl, hlength, hfirst⟩ := ih
      -- All methods of the chain are open, the one it has come to included.
      have hvisited : ∀ earlier ∈ chain.visited source, ¬ target.toList <:+: earlier.toList := by
        rw [Chain.visited_eq]
        simpa [or_imp, forall_and] using ⟨hfirst, hopen⟩
      by_cases hloop : callee ∈ chain.visited source
      · obtain ⟨shorter, hshorter, hhere, hle, hbehind⟩ := hsimple.exists_to hloop
        exact ⟨shorter, hshorter, hhere, by omega, fun earlier hearlier =>
          hfirst earlier (hbehind hearlier)⟩
      · obtain ⟨occurrence, hrecorded, hcaller, rfl⟩ :=
          (CallGraph.mem_callees_iff_recorded hfiled).mp hcallee
        refine ⟨chain ++ [occurrence], (Chain.isSimple_concat _ _ _ _).mpr
          ⟨hsimple, hrecorded, hcaller, hloop⟩, Chain.here_concat _ _ _, ?_, ?_⟩
        · rw [List.length_append, List.length_singleton]
          omega
        · rwa [Chain.behind_concat]

end Approach

theorem Chain.target?_toPath (source : String) (chain : Chain) :
    (chain.toPath source).target? = some (chain.here source) :=
  List.getLast?_eq_some_getLast _

/-- A search ends at exactly those methods that include the target and can be approached with fewer
calls than its depth. -/
theorem CallGraph.exists_path_to_iff {graph : CallGraph} (hfiled : graph.Filed)
    {source target method : String} {depth : Nat} :
    (∃ path ∈ graph.paths source target depth, path.target? = some method) ↔
      target.toList <:+: method.toList ∧ ∃ n < depth, Approach graph source target n method := by
  constructor
  · rintro ⟨path, hpath, hend⟩
    obtain ⟨chain, ⟨hsimple, hbounded, hreaches, hfirst⟩, rfl⟩ := (mem_paths hfiled).mp hpath
    rw [Chain.target?_toPath, Option.some.injEq] at hend
    subst hend
    exact ⟨hreaches, chain.length, hbounded, hsimple.approach hfiled hfirst⟩
  · rintro ⟨hreaches, n, hn, happroach⟩
    obtain ⟨chain, hsimple, rfl, hlength, hfirst⟩ := happroach.exists_simple hfiled
    refine ⟨chain.toPath source, (mem_paths hfiled).mpr ⟨chain, ?_, rfl⟩,
      chain.target?_toPath source⟩
    exact ⟨hsimple, by omega, hreaches, hfirst⟩

end AppSurvey.Flow
