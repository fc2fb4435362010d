import AppSurvey.Proofs.Flow.Build
import Mathlib.Data.Finset.Card
import Mathlib.Data.List.Perm.Basic

/-!
# Graphs that grow

A graph grows call by call or class by class. However it has grown, it records the calls that were
added, so its views tell the same story: a call counts as often among the callees of its caller as
among the callers of its callee. The order of the additions shows only in the order of the lists that
a graph gives; the methods, the counts and the paths to be found are the same.
-/

namespace AppSurvey.Flow

open Dex

/-- What can be added to a graph: one call, or a class with the calls of its methods. -/
inductive Addition where
  | ofCall (call : Call)
  | ofClass (outline : ClassOutline)

/-- The calls that are added, in order. -/
def Addition.calls : Addition → List Call
  | .ofCall call => [call]
  | .ofClass outline => readableCalls (callsOf outline)

namespace CallGraph

/-- The graph after an addition. A class that cannot be read to its end is added up to that place. -/
def extend (graph : CallGraph) : Addition → CallGraph
  | .ofCall call => graph.add call
  | .ofClass outline => (graph.addClass outline).1

/-- The graph of additions that are made one after the other. -/
def ofAdditions (additions : List Addition) : CallGraph :=
  additions.foldl extend empty

/-! ## The views of a graph -/

namespace Records

variable {graph : CallGraph} {calls : List Call}

theorem extend (hrecords : graph.Records calls) (addition : Addition) :
    (graph.extend addition).Records (calls ++ addition.calls) := by
  cases addition with
  | ofCall call => exact hrecords.add call
  | ofClass outline =>
      have hadded := hrecords.foldl_add (readableCalls (callsOf outline))
      rwa [← addReadable_fst] at hadded

theorem foldl_extend (hrecords : graph.Records calls) (additions : List Addition) :
    (additions.foldl CallGraph.extend graph).Records (calls ++ additions.flatMap Addition.calls) := by
  induction additions generalizing graph calls with
  | nil => simpa using hrecords
  | cons addition rest ih => simpa using ih (hrecords.extend addition)

theorem callees_eq (hrecords : graph.Records calls) (method : String) :
    graph.callees method = (calls.filter fun call => call.caller = method).map Call.callee := by
  rw [callees, hrecords.callsFrom_eq]

theorem count_callees (hrecords : graph.Records calls) (method callee : String) :
    (graph.callees method).count callee =
      calls.countP fun call => call.caller = method ∧ call.callee = callee := by
  rw [hrecords.callees_eq, List.count_eq_countP, List.countP_map, List.countP_filter]
  apply List.countP_congr
  intro call _
  simp [and_comm]

theorem count_callers (hrecords : graph.Records calls) (method callee : String) :
    (graph.callers callee).count method =
      calls.countP fun call => call.caller = method ∧ call.callee = callee := by
  rw [hrecords.callers_eq, List.count_eq_countP, List.countP_map, List.countP_filter]
  apply List.countP_congr
  intro call _
  simp

theorem methodCount_eq_card (hrecords : graph.Records calls) :
    graph.methodCount = (calls.flatMap fun call => [call.caller, call.callee]).toFinset.card := by
  rw [methodCount_eq, ← List.toFinset_card_of_nodup graph.nodup_allMethods]
  congr 1
  ext method
  simp [mem_allMethods, hrecords.mem_methods, eq_comm]

end Records

theorem records_ofAdditions (additions : List Addition) :
    (ofAdditions additions).Records (additions.flatMap Addition.calls) :=
  records_empty.foldl_extend additions

/-- However a graph has grown, its views hold the calls that were added: each as often under its
caller as under its callee, in the order of the additions, and every method at an end of one. -/
theorem views_hold_added_calls (additions : List Addition) :
    let graph := ofAdditions additions
    let calls := additions.flatMap Addition.calls
    (∀ method callee,
      ((graph.callees method).count callee =
        calls.countP fun call => call.caller = method ∧ call.callee = callee) ∧
      ((graph.callers callee).count method =
        calls.countP fun call => call.caller = method ∧ call.callee = callee)) ∧
    (∀ method,
      graph.callees method = (calls.filter fun call => call.caller = method).map Call.callee ∧
      graph.callers method = (calls.filter fun call => call.callee = method).map Call.caller ∧
      ∀ call ∈ graph.callsFrom method, call.caller = method) ∧
    graph.allMethods.Nodup ∧
    (∀ method, method ∈ graph.allMethods ↔
      ∃ call ∈ calls, call.caller = method ∨ call.callee = method) ∧
    graph.edgeCount = calls.length ∧
    graph.methodCount =
      (calls.flatMap fun call => [call.caller, call.callee]).toFinset.card := by
  intro graph calls
  have hrecords : graph.Records calls := records_ofAdditions additions
  refine ⟨?_, ?_, graph.nodup_allMethods, ?_, hrecords.edgeCount_eq, hrecords.methodCount_eq_card⟩
  · intro method callee
    exact ⟨hrecords.count_callees method callee, hrecords.count_callers method callee⟩
  · intro method
    exact ⟨hrecords.callees_eq method, hrecords.callers_eq method, hrecords.filed method⟩
  · intro method
    rw [mem_allMethods, hrecords.mem_methods]

/-! ## The order of additions -/

/-- The two graphs differ only in the order in which they list calls and paths. -/
structure Agrees (first second : CallGraph) : Prop where
  allMethods_eq : first.allMethods = second.allMethods
  methodCount_eq : first.methodCount = second.methodCount
  edgeCount_eq : first.edgeCount = second.edgeCount
  callees_perm : ∀ method, (first.callees method).Perm (second.callees method)
  callers_perm : ∀ method, (first.callers method).Perm (second.callers method)
  paths_perm : ∀ source target depth,
    (first.paths source target depth).Perm (second.paths source target depth)

theorem allMethods_eq_of_mem {first second : CallGraph}
    (hmethods : ∀ method, method ∈ first.methods ↔ method ∈ second.methods) :
    first.allMethods = second.allMethods := by
  have hsorted (graph : CallGraph) : graph.allMethods.Pairwise (· ≤ ·) := by
    refine (List.pairwise_mergeSort ?_ ?_ _).imp of_decide_eq_true
    · intro a b c hab hbc
      exact decide_eq_true (String.le_trans (of_decide_eq_true hab) (of_decide_eq_true hbc))
    · intro a b
      simpa using String.le_total a b
  have hperm : first.allMethods.Perm second.allMethods := by
    rw [List.perm_ext_iff_of_nodup first.nodup_allMethods second.nodup_allMethods]
    simpa only [mem_allMethods] using hmethods
  exact hperm.eq_of_pairwise (fun _ _ _ _ => String.le_antisymm) (hsorted first) (hsorted second)

/-- A search that meets the calls of every method in another order finds the same paths in another
order: on each level the trails are the same, and so are those among them that have arrived. -/
theorem search_perm {first second : CallGraph}
    (hcalls : ∀ method, (first.callsFrom method).Perm (second.callsFrom method)) (target : String)
    (depth : Nat) {trails others : List Trail} (htrails : trails.Perm others) :
    (first.search target depth trails).Perm (second.search target depth others) := by
  induction depth generalizing trails others with
  | zero => exact List.Perm.refl _
  | succ depth ih =>
      rw [search_succ, search_succ]
      apply List.Perm.append
      · exact (htrails.filter _).map _
      · apply ih
        apply (htrails.filter _).flatMap
        intro trail _
        exact (hcalls trail.here).filterMap _

theorem Records.agrees {first second : CallGraph} {calls others : List Call}
    (hfirst : first.Records calls) (hsecond : second.Records others) (hperm : calls.Perm others) :
    first.Agrees second := by
  have hmethods : first.allMethods = second.allMethods := by
    apply allMethods_eq_of_mem
    intro method
    simp only [hfirst.mem_methods, hsecond.mem_methods, hperm.mem_iff]
  have hcalls (method : String) : (first.callsFrom method).Perm (second.callsFrom method) := by
    rw [hfirst.callsFrom_eq, hsecond.callsFrom_eq]
    exact hperm.filter _
  refine ⟨hmethods, ?_, ?_, fun method => (hcalls method).map _, ?_, ?_⟩
  · rw [methodCount_eq, methodCount_eq, hmethods]
  · rw [hfirst.edgeCount_eq, hsecond.edgeCount_eq, hperm.length_eq]
  · intro method
    rw [hfirst.callers_eq, hsecond.callers_eq]
    exact (hperm.filter _).map _
  · intro source target depth
    exact search_perm hcalls target depth (List.Perm.refl _)

theorem records_ofOutlines (outlines : List ClassOutline) :
    (ofOutlines outlines).Records
      (outlines.flatMap fun outline => readableCalls (callsOf outline)) :=
  ofOutlines_eq_ofCalls outlines ▸ records_ofCalls _

theorem addReadable_snd_eq_none {items : List (Except MisplacedArrow (Option Call))}
    (hreadable : ∀ misplaced, .error misplaced ∉ items) (graph : CallGraph) :
    (graph.addReadable items).2 = none := by
  fun_induction addReadable graph items with
  | case1 => rfl
  | case2 graph misplaced rest => exact absurd List.mem_cons_self (hreadable misplaced)
  | case3 graph rest ih => exact ih fun misplaced hrest => hreadable misplaced (by simp [hrest])
  | case4 graph call rest ih => exact ih fun misplaced hrest => hreadable misplaced (by simp [hrest])

end CallGraph

/-- Every expression of the class that calls a method names it by a signature. -/
def SignsCalls (outline : ClassOutline) : Prop :=
  ∀ method ∈ outline.methods, ∀ expression ∈ method.expressions,
    expression.isMethodCall = true → expression.signature.isSome = true

/-- A class that signs its calls is added to its end. -/
theorem SignsCalls.addClass_snd {outline : ClassOutline} (hsigns : SignsCalls outline)
    (graph : CallGraph) : (graph.addClass outline).2 = none := by
  apply CallGraph.addReadable_snd_eq_none
  intro misplaced hitem
  simp only [callsOf, List.mem_flatMap, List.mem_map] at hitem
  obtain ⟨method, hmethod, expression, hexpression, hcall⟩ := hitem
  -- Only a text without a signature is searched for a descriptor.
  have htarget : ∃ target, targetOf expression = .ok target := by
    unfold targetOf
    split
    next hcalls =>
      obtain ⟨signature, hsignature⟩ :=
        Option.isSome_iff_exists.mp (hsigns method hmethod expression hexpression hcalls)
      exact ⟨some signature, by rw [hsignature]⟩
    next => exact ⟨none, rfl⟩
  obtain ⟨target, htarget⟩ := htarget
  rw [callOf, htarget] at hcall
  cases hcall

/-- Two graphs to which the same calls were added agree, whatever the order. In particular classes
that sign their calls are added to their ends in any order, and the graphs agree. -/
theorem order_of_additions_is_immaterial :
    (∀ additions others : List Addition,
      (additions.flatMap Addition.calls).Perm (others.flatMap Addition.calls) →
        (CallGraph.ofAdditions additions).Agrees (CallGraph.ofAdditions others)) ∧
    ∀ outlines others : List ClassOutline, outlines.Perm others →
      (∀ outline ∈ outlines, SignsCalls outline) →
        (∀ graph : CallGraph, ∀ outline ∈ outlines, (graph.addClass outline).2 = none) ∧
        (CallGraph.ofOutlines outlines).Agrees (CallGraph.ofOutlines others) := by
  constructor
  · intro additions others hperm
    exact (CallGraph.records_ofAdditions additions).agrees (CallGraph.records_ofAdditions others) hperm
  · intro outlines others hperm hsigns
    refine ⟨fun graph outline houtline => (hsigns outline houtline).addClass_snd graph, ?_⟩
    exact (CallGraph.records_ofOutlines outlines).agrees (CallGraph.records_ofOutlines others)
      (hperm.flatMap_right _)

/-- The callees of a method come in the order of its calls; the graphs agree all the same. -/
theorem two_calls_in_either_order :
    let first : Call := ⟨"Start.go", "Page.open", "1"⟩
    let second : Call := ⟨"Start.go", "Page.close", "2"⟩
    let there := CallGraph.ofAdditions [.ofCall first, .ofCall second]
    let back := CallGraph.ofAdditions [.ofCall second, .ofCall first]
    there.callees "Start.go" = ["Page.open", "Page.close"] ∧
      back.callees "Start.go" = ["Page.close", "Page.open"] ∧ there.Agrees back ∧
      (CallGraph.ofOutlines [callingClass "Start" "go" "Page.open(): void",
        callingClass "Page" "open" "Web.load(): void"]).Agrees
      (CallGraph.ofOutlines [callingClass "Page" "open" "Web.load(): void",
        callingClass "Start" "go" "Page.open(): void"]) := by
  intro first second there back
  obtain ⟨hcalls, hclasses⟩ := order_of_additions_is_immaterial
  refine ⟨?_, ?_, hcalls _ _ (List.Perm.swap _ _ _), (hclasses _ _ (List.Perm.swap _ _ _) ?_).2⟩
  · rw [(CallGraph.records_ofAdditions _).callees_eq]
    rfl
  · rw [(CallGraph.records_ofAdditions _).callees_eq]
    rfl
  · simp [SignsCalls, callingClass]

end AppSurvey.Flow
