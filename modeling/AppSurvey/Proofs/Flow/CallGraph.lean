import AppSurvey.Flow.CallGraph

/-!
# What a call graph records

A graph files each call three times: under its caller, under its callee and by the names of both.
`Records` says that all three hold the same calls in the order in which they were added. It is true of
the empty graph, each further call preserves it, and every view of a graph is read off it.
-/

namespace AppSurvey.Flow.CallGraph

@[simp] theorem callsFrom_empty (method : String) : empty.callsFrom method = [] := by
  simp [callsFrom, empty]

theorem callsFrom_add (graph : CallGraph) (call : Call) (method : String) :
    (graph.add call).callsFrom method =
      graph.callsFrom method ++ if call.caller = method then [call] else [] := by
  unfold callsFrom add
  rw [Std.HashMap.getD_insert]
  by_cases hcaller : call.caller = method
  · subst hcaller
    simp
  · simp [hcaller]

theorem callers_add (graph : CallGraph) (call : Call) (method : String) :
    (graph.add call).callers method =
      graph.callers method ++ if call.callee = method then [call.caller] else [] := by
  unfold callers add
  rw [Std.HashMap.getD_insert]
  by_cases hcallee : call.callee = method
  · subst hcallee
    simp
  · simp [hcallee]

theorem mem_methods_add {graph : CallGraph} {call : Call} {method : String} :
    method ∈ (graph.add call).methods ↔
      method ∈ graph.methods ∨ call.caller = method ∨ call.callee = method := by
  simp only [add, Std.HashSet.mem_insert, beq_iff_eq]
  grind

/-! ## The number of calls -/

/-- How many calls some entries of a graph hold. -/
def totalSize : List (String × Array Call) → Nat
  | [] => 0
  | entry :: rest => entry.2.size + totalSize rest

theorem totalSize_eq_of_perm {entries others : List (String × Array Call)}
    (hperm : entries.Perm others) : totalSize entries = totalSize others := by
  induction hperm with
  | nil => rfl
  | cons entry _ ih => rw [totalSize, totalSize, ih]
  | swap first second rest =>
      simp only [totalSize]
      omega
  | trans _ _ hfirst hsecond => exact hfirst.trans hsecond

theorem foldl_size_eq (entries : List (String × Array Call)) (start : Nat) :
    entries.foldl (fun total entry => total + entry.2.size) start = start + totalSize entries := by
  induction entries generalizing start with
  | nil => rfl
  | cons entry rest ih =>
      rw [List.foldl_cons, ih, totalSize]
      omega

theorem edgeCount_eq_totalSize (graph : CallGraph) :
    graph.edgeCount = totalSize graph.outgoing.toList := by
  rw [edgeCount, Std.HashMap.fold_eq_foldl_toList, foldl_size_eq, Nat.zero_add]

/-- The calls of one method, and those that are filed under the others. -/
theorem edgeCount_eq_add (graph : CallGraph) (method : String) :
    graph.edgeCount = (graph.callsFrom method).length +
      totalSize (graph.outgoing.toList.filter fun entry => ¬ (method == entry.1) = true) := by
  rw [edgeCount_eq_totalSize, callsFrom, Std.HashMap.getD_eq_getD_getElem?]
  cases hcalls : graph.outgoing[method]? with
  | none =>
      have hothers : ∀ entry ∈ graph.outgoing.toList, ¬ (method == entry.1) = true := by
        rintro ⟨caller, calls⟩ hentry hcaller
        obtain rfl : method = caller := beq_iff_eq.mp hcaller
        rw [Std.HashMap.mem_toList_iff_getElem?_eq_some, hcalls] at hentry
        cases hentry
      rw [List.filter_eq_self.mpr (by simpa using hothers)]
      simp
  | some calls =>
      -- Filing what is filed there already changes nothing.
      have hsame : (graph.outgoing.insert method calls).Equiv graph.outgoing := by
        apply Std.HashMap.Equiv.of_forall_getElem?_eq
        intro other
        rw [Std.HashMap.getElem?_insert]
        split
        next hother => rw [← beq_iff_eq.mp hother, hcalls]
        next => rfl
      exact totalSize_eq_of_perm (hsame.toList_perm.symm.trans Std.HashMap.toList_insert_perm)

theorem edgeCount_add (graph : CallGraph) (call : Call) :
    (graph.add call).edgeCount = graph.edgeCount + 1 := by
  have hinsert : (graph.add call).outgoing.toList.Perm _ := Std.HashMap.toList_insert_perm
  rw [edgeCount_eq_totalSize, totalSize_eq_of_perm hinsert, graph.edgeCount_eq_add call.caller,
    callsFrom, totalSize, Array.size_push, Array.length_toList]
  omega

/-! ## Calls in the order in which they were added -/

/-- The graph holds these calls, added in this order. -/
structure Records (graph : CallGraph) (calls : List Call) : Prop where
  callsFrom_eq : ∀ method,
    graph.callsFrom method = calls.filter fun call => call.caller = method
  callers_eq : ∀ method,
    graph.callers method = (calls.filter fun call => call.callee = method).map Call.caller
  mem_methods : ∀ method,
    method ∈ graph.methods ↔ ∃ call ∈ calls, call.caller = method ∨ call.callee = method
  edgeCount_eq : graph.edgeCount = calls.length

theorem records_empty : empty.Records [] where
  callsFrom_eq := callsFrom_empty
  callers_eq method := by simp [callers, empty]
  mem_methods method := by simp [empty]
  edgeCount_eq := by simp [edgeCount_eq_totalSize, totalSize, empty]

theorem Records.add {graph : CallGraph} {calls : List Call} (hrecords : graph.Records calls)
    (call : Call) : (graph.add call).Records (calls ++ [call]) where
  callsFrom_eq method := by
    rw [callsFrom_add, hrecords.callsFrom_eq, List.filter_append]
    by_cases hcaller : call.caller = method <;> simp [hcaller]
  callers_eq method := by
    rw [callers_add, hrecords.callers_eq, List.filter_append, List.map_append]
    by_cases hcallee : call.callee = method <;> simp [hcallee]
  mem_methods method := by
    simp only [mem_methods_add, hrecords.mem_methods, List.mem_append, List.mem_singleton, or_and_right,
      exists_or, exists_eq_left]
  edgeCount_eq := by
    rw [edgeCount_add, hrecords.edgeCount_eq, List.length_append, List.length_singleton]

theorem Records.foldl_add {graph : CallGraph} {calls : List Call} (hrecords : graph.Records calls)
    (more : List Call) : (more.foldl CallGraph.add graph).Records (calls ++ more) := by
  induction more generalizing graph calls with
  | nil => simpa using hrecords
  | cons call rest ih => simpa using ih (hrecords.add call)

/-- The graph of a list of calls holds these calls. -/
theorem records_ofCalls (calls : List Call) : (ofCalls calls).Records calls :=
  records_empty.foldl_add calls

/-- The calls of a method are the recorded ones that it makes. -/
theorem callsFrom_ofCalls (calls : List Call) (method : String) :
    (ofCalls calls).callsFrom method = calls.filter fun call => call.caller = method :=
  (records_ofCalls calls).callsFrom_eq method

/-- Every call is filed under the method that makes it. -/
def Filed (graph : CallGraph) : Prop :=
  ∀ method, ∀ call ∈ graph.callsFrom method, call.caller = method

theorem Records.filed {graph : CallGraph} {calls : List Call} (hrecords : graph.Records calls) :
    graph.Filed := by
  intro method call hcall
  rw [hrecords.callsFrom_eq] at hcall
  simpa using (List.mem_filter.mp hcall).2

theorem filed_ofCalls (calls : List Call) : (ofCalls calls).Filed :=
  (records_ofCalls calls).filed

theorem mem_callees_ofCalls {calls : List Call} {method callee : String} :
    callee ∈ (ofCalls calls).callees method ↔
      ∃ call ∈ calls, call.caller = method ∧ call.callee = callee := by
  simp [callees, callsFrom_ofCalls, and_assoc]

theorem callsFrom_subset_ofCalls {calls more : List Call} (hcalls : calls ⊆ more) (method : String) :
    (ofCalls calls).callsFrom method ⊆ (ofCalls more).callsFrom method := by
  rw [callsFrom_ofCalls, callsFrom_ofCalls]
  exact List.filter_subset _ hcalls

/-! ## Methods -/

theorem mem_allMethods {graph : CallGraph} {method : String} :
    method ∈ graph.allMethods ↔ method ∈ graph.methods := by
  rw [allMethods, List.mem_mergeSort, Std.HashSet.mem_toList]

theorem nodup_allMethods (graph : CallGraph) : graph.allMethods.Nodup := by
  have hdistinct : graph.methods.toList.Nodup :=
    Std.HashSet.distinct_toList.imp fun hne heq => by simp [heq] at hne
  exact (List.mergeSort_perm _ _).nodup_iff.mpr hdistinct

theorem methodCount_eq (graph : CallGraph) : graph.methodCount = graph.allMethods.length := by
  rw [methodCount, allMethods, List.length_mergeSort, Std.HashSet.length_toList]

/-- The methods of a graph are the callers and callees of its calls. -/
theorem mem_allMethods_ofCalls {calls : List Call} {method : String} :
    method ∈ (ofCalls calls).allMethods ↔
      ∃ call ∈ calls, call.caller = method ∨ call.callee = method := by
  rw [mem_allMethods, (records_ofCalls calls).mem_methods]

end AppSurvey.Flow.CallGraph
