import AppSurvey.Proofs.Flow.Recording
import Mathlib.Data.List.Lex
import Mathlib.Data.List.Pairwise

/-!
# The order of paths

A search lists shorter paths first. Paths of one length stand in the order of the calls that they take:
where two of them part, the one that takes the earlier call of the method comes first. The depth of a
search shows only at the end of its list, where the paths that are too long for it are missing.
-/

namespace AppSurvey.Flow

open Text

namespace Chain

/-- The place of each call of a chain among the calls of its caller. -/
def places (chain : Chain) : List Nat := chain.map Occurrence.place

/-- The chain is shorter, or it is as long and takes the earlier call where the two part. -/
def Precedes (first second : Chain) : Prop :=
  first.length < second.length ∨
    first.length = second.length ∧ List.Lex (· < ·) first.places second.places

@[simp] theorem length_places (chain : Chain) : chain.places.length = chain.length :=
  List.length_map _

@[simp] theorem places_concat (chain : Chain) (occurrence : Occurrence) :
    Chain.places (chain ++ [occurrence]) = chain.places ++ [occurrence.place] := by
  simp [places]

@[simp] theorem length_methods_toPath (source : String) (chain : Chain) :
    (chain.toPath source).methods.length = chain.length + 1 := by
  simp [toPath, visited]

end Chain

/-- What comes after two lists of one length does not change their order. -/
theorem lex_append_of_length_eq {first second : List Nat} (hlex : List.Lex (· < ·) first second)
    (hlength : first.length = second.length) (more others : List Nat) :
    List.Lex (· < ·) (first ++ more) (second ++ others) := by
  induction hlex with
  | nil => simp at hlength
  | rel hlt => exact .rel hlt
  | cons _ ih => exact .cons (ih (by simpa using hlength))

namespace CallGraph

/-! ## One level -/

theorem pairwise_occurrencesFrom (graph : CallGraph) (method : String) :
    (graph.occurrencesFrom method).Pairwise fun first second => first.place < second.place := by
  have hplaces : (graph.occurrencesFrom method).map Occurrence.place =
      List.range' 0 (graph.callsFrom method).length := by
    simp only [occurrencesFrom, List.map_map]
    exact List.zipIdx_map_snd 0 _
  rw [← List.pairwise_map (f := Occurrence.place), hplaces]
  exact List.pairwise_lt_range'

/-- The chains that go on from one chain stand in the order of their last calls. -/
theorem pairwise_next (graph : CallGraph) (source : String) (chain : Chain) :
    (graph.next source chain).Pairwise fun first second =>
      List.Lex (· < ·) first.places second.places := by
  rw [next, List.pairwise_filterMap]
  refine (graph.pairwise_occurrencesFrom _).imp ?_
  intro first second hlt longer hlonger other hother
  simp only [Option.ite_none_left_eq_some, Option.some.injEq] at hlonger hother
  rw [← hlonger.2, ← hother.2, Chain.places_concat, Chain.places_concat]
  exact List.Lex.append_left _ (.rel hlt) _

/-- A level stands in the order of the calls: chains that part before their last calls keep the order of
the level before, and those that go on from one chain have the order of their last calls. -/
theorem pairwise_level {graph : CallGraph} (hfiled : graph.Filed) (source target : String) (n : Nat) :
    (graph.level source target n).Pairwise fun first second =>
      List.Lex (· < ·) first.places second.places := by
  induction n with
  | zero => exact List.pairwise_singleton _ _
  | succ n ih =>
      rw [level, List.pairwise_flatMap]
      refine ⟨fun chain _ => graph.pairwise_next source chain, ?_⟩
      refine (ih.filter _).imp_of_mem ?_
      intro first second hfirst hsecond hlex longer hlonger other hother
      obtain ⟨occurrence, -, -, rfl⟩ := mem_next.mp hlonger
      obtain ⟨another, -, -, rfl⟩ := mem_next.mp hother
      rw [Chain.places_concat, Chain.places_concat]
      refine lex_append_of_length_eq hlex ?_ _ _
      rw [Chain.length_places, Chain.length_places,
        length_of_mem_level hfiled (List.mem_of_mem_filter hfirst),
        length_of_mem_level hfiled (List.mem_of_mem_filter hsecond)]

/-! ## All levels -/

/-- The chains of a level that end at the target. -/
def arrivals (graph : CallGraph) (source target : String) (n : Nat) : List Chain :=
  (graph.level source target n).filter fun chain => includes (chain.here source) target

theorem length_of_mem_arrivals {graph : CallGraph} (hfiled : graph.Filed) {source target : String}
    {n : Nat} {chain : Chain} (hchain : chain ∈ graph.arrivals source target n) : chain.length = n :=
  length_of_mem_level hfiled (List.mem_of_mem_filter hchain)

/-- One more level adds its own arrivals at the end. -/
theorem found_succ (graph : CallGraph) (source target : String) (depth : Nat) :
    graph.found source target (depth + 1) =
      graph.found source target depth ++ graph.arrivals source target depth := by
  rw [found, List.range_succ, List.flatMap_append, List.flatMap_singleton]
  rfl

theorem length_lt_of_mem_found {graph : CallGraph} (hfiled : graph.Filed) {source target : String}
    {depth : Nat} {chain : Chain} (hchain : chain ∈ graph.found source target depth) :
    chain.length < depth :=
  ((mem_found hfiled).mp hchain).bounded

theorem pairwise_found {graph : CallGraph} (hfiled : graph.Filed) (source target : String)
    (depth : Nat) : (graph.found source target depth).Pairwise Chain.Precedes := by
  induction depth with
  | zero => exact List.Pairwise.nil
  | succ depth ih =>
      rw [found_succ, List.pairwise_append]
      refine ⟨ih, ?_, ?_⟩
      · refine ((pairwise_level hfiled source target depth).filter _).imp_of_mem ?_
        intro first second hfirst hsecond hlex
        refine .inr ⟨?_, hlex⟩
        rw [length_of_mem_arrivals hfiled hfirst, length_of_mem_arrivals hfiled hsecond]
      · intro first hfirst second hsecond
        refine .inl ?_
        rw [length_of_mem_arrivals hfiled hsecond]
        exact length_lt_of_mem_found hfiled hfirst

/-- However a graph has grown, its paths are the chains that lead to the target, the shorter ones first
and those of one length in the order of the calls they take. One more method of depth adds paths of that
many methods at the end and changes nothing before them. -/
theorem paths_come_shortest_first (additions : List Addition) (source target : String) (depth : Nat) :
    let graph := ofAdditions additions
    (∃ chains : List Chain,
      graph.paths source target depth = chains.map (Chain.toPath source) ∧
        chains.Pairwise Chain.Precedes ∧
        ∀ chain, chain ∈ chains ↔ chain.Leads graph source target depth) ∧
    ∃ longer : List CallPath,
      graph.paths source target (depth + 1) = graph.paths source target depth ++ longer ∧
        (∀ path ∈ graph.paths source target depth, path.methods.length ≤ depth) ∧
        ∀ path ∈ longer, depth < path.methods.length := by
  intro graph
  have hfiled : graph.Filed := (records_ofAdditions additions).filed
  constructor
  · exact ⟨graph.found source target depth, graph.paths_eq_map_found source target depth,
      pairwise_found hfiled source target depth, fun chain => mem_found hfiled⟩
  · refine ⟨(graph.arrivals source target depth).map (Chain.toPath source), ?_, ?_, ?_⟩
    · rw [paths_eq_map_found, paths_eq_map_found, found_succ, List.map_append]
    · intro path hpath
      rw [paths_eq_map_found] at hpath
      obtain ⟨chain, hchain, rfl⟩ := List.mem_map.mp hpath
      rw [Chain.length_methods_toPath]
      exact length_lt_of_mem_found hfiled hchain
    · intro path hpath
      obtain ⟨chain, hchain, rfl⟩ := List.mem_map.mp hpath
      rw [Chain.length_methods_toPath, length_of_mem_arrivals hfiled hchain]
      exact Nat.lt_succ_self depth

end CallGraph

end AppSurvey.Flow
