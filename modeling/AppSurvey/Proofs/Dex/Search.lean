import AppSurvey.Dex.Filter
import AppSurvey.Proofs.Dex.Bundle

/-!
# What a search finds

A search stops in the middle of its visits, and for methods in the middle of a class. `visit_visit` and
`visit_consider` turn it into a search that takes in the items of one list, namely all that it would find
without a limit, and `toList_visit_takeIn_some` says where in this list it stops. The main statements are that
a limit gives as many of the first results, except that a limit of zero gives one, and that the four searches
of a bundle agree with each other.
-/

namespace AppSurvey.Dex

namespace Search

variable {α β γ : Type} {step : Array α → β → ForInStep (Array α)}

/-! ## Visits -/

theorem visit_append (found : Array α) (items rest : List β) :
    visit step found (items ++ rest) =
      goOn (visit step found items) fun results => visit step results rest := by
  induction items generalizing found with
  | nil => rfl
  | cons item items ih =>
      rw [List.cons_append, visit, visit]
      cases step found item with
      | done results => rfl
      | yield results => exact ih results

/-- Visits within visits are visits to the parts of all items, also where one of them ends the search. -/
theorem visit_visit {outer : Array α → γ → ForInStep (Array α)} {parts : γ → List β}
    (houter : ∀ found item, outer found item = visit step found (parts item)) (found : Array α)
    (items : List γ) : visit outer found items = visit step found (items.flatMap parts) := by
  induction items generalizing found with
  | nil => rfl
  | cons item items ih =>
      rw [List.flatMap_cons, visit_append, visit, houter]
      cases visit step found (parts item) with
      | done results => rfl
      | yield results => exact ih results

/-- To consider items is to take in those that are accepted. -/
theorem visit_consider (accepts : α → Bool) (limit : Option Nat) (found : Array α) (items : List α) :
    visit (consider accepts limit) found items = visit (takeIn limit) found (items.filter accepts) := by
  induction items generalizing found with
  | nil => rfl
  | cons item items ih =>
      rw [visit, consider, List.filter_cons]
      cases accepts item with
      | false => exact ih found
      | true =>
          rw [if_pos rfl, if_pos rfl, visit]
          cases takeIn limit found item with
          | done results => rfl
          | yield results => exact ih results

/-! ## Results -/

theorem takeIn_of_le {limit : Nat} {found : Array α} (hfull : limit ≤ found.size + 1) (result : α) :
    takeIn (some limit) found result = .done (found.push result) := by
  simp [takeIn, hfull]

theorem takeIn_of_lt {limit : Nat} {found : Array α} (hroom : found.size + 1 < limit) (result : α) :
    takeIn (some limit) found result = .yield (found.push result) := by
  simp [takeIn, hroom]

theorem toList_visit_takeIn_none (found : Array α) (items : List α) :
    (visit (takeIn none) found items).value.toList = found.toList ++ items := by
  induction items generalizing found with
  | nil => simp [visit]
  | cons item items ih =>
      calc
        (visit (takeIn none) found (item :: items)).value.toList
            = (found.push item).toList ++ items := ih (found.push item)
        _ = found.toList ++ item :: items := by simp

/-- A search with a limit takes in results up to the limit, and at least one if there is one. -/
theorem toList_visit_takeIn_some (limit : Nat) (found : Array α) (items : List α) :
    (visit (takeIn (some limit)) found items).value.toList =
      found.toList ++ items.take (max (limit - found.size) 1) := by
  induction items generalizing found with
  | nil => simp [visit]
  | cons item items ih =>
      rw [visit]
      by_cases hroom : found.size + 1 < limit
      · -- The first result leaves room for one less, which is still at least one.
        have htake : max (limit - found.size) 1 = max (limit - (found.size + 1)) 1 + 1 := by omega
        rw [takeIn_of_lt hroom, htake, List.take_succ_cons]
        refine (ih (found.push item)).trans ?_
        simp
      · rw [takeIn_of_le (by omega), Nat.max_eq_right (by omega)]
        simp [goOn]

end Search

/-! ## Searches of a bundle -/

section Answers

variable {α β : Type} {answer : Except Fault α}

theorem map_map (answer : Except Fault α) {γ : Type} (f : α → β) (g : β → γ) :
    (answer.map f).map g = answer.map (g ∘ f) := by
  cases answer <;> rfl

theorem map_eq_error_iff {f : α → β} {fault : Fault} :
    answer.map f = .error fault ↔ answer = .error fault := by
  cases answer <;> simp [Except.map]

end Answers

/-- The methods of some classes that a filter accepts, class by class. -/
def MethodFilter.acceptedIn (filter : MethodFilter) (classes : List Class) : List Method :=
  classes.flatMap fun c => c.methods.filter filter.accepts

namespace Bundle

variable (bundle : Bundle) (filter : ClassFilter) (methods : MethodFilter)

theorem findClasses_none :
    bundle.findClasses filter none = bundle.classes.map (List.filter filter.accepts) := by
  rw [findClasses]
  congr 1
  funext classes
  rw [Search.visit_consider, Search.toList_visit_takeIn_none, List.nil_append]

theorem findClasses_some (limit : Nat) :
    bundle.findClasses filter (some limit) =
      (bundle.findClasses filter none).map (List.take (max limit 1)) := by
  rw [findClasses_none, map_map, findClasses]
  congr 1
  funext classes
  rw [Search.visit_consider, Search.toList_visit_takeIn_some]
  rfl

/-- The search for methods goes over the accepted ones as if they stood in one list. -/
theorem visit_visitMethods (limit : Option Nat) (found : Array Method) (classes : List Class) :
    Search.visit (Search.visitMethods methods limit) found classes =
      Search.visit (Search.takeIn limit) found (methods.acceptedIn classes) := by
  apply Search.visit_visit
  intro results c
  rw [Search.visitMethods, Search.visit_consider]

theorem findMethods_none :
    bundle.findMethods filter methods none =
      (bundle.findClasses filter none).map methods.acceptedIn := by
  rw [findMethods]
  congr 1
  funext classes
  rw [visit_visitMethods, Search.toList_visit_takeIn_none, List.nil_append]

theorem findMethods_some (limit : Nat) :
    bundle.findMethods filter methods (some limit) =
      (bundle.findMethods filter methods none).map (List.take (max limit 1)) := by
  rw [findMethods_none, map_map, findMethods]
  congr 1
  funext classes
  rw [visit_visitMethods, Search.toList_visit_takeIn_some]
  rfl

theorem findClass_eq :
    bundle.findClass filter = (bundle.findClasses filter none).map List.head? := by
  rw [findClasses_none, map_map, findClass]
  congr 1
  funext classes
  exact List.head?_filter.symm

theorem findMethod_eq :
    bundle.findMethod filter methods = (bundle.findMethods filter methods none).map List.head? := by
  rw [findMethods_none, map_map, findMethod]
  congr 1
  funext classes
  simp only [Function.comp_apply, MethodFilter.acceptedIn, List.head?_flatMap, List.head?_filter]

end Bundle

/-- To take at least one result makes a difference exactly if none is wanted and there is one. -/
theorem map_take_max_eq_iff {α : Type} (found : Except Fault (List α)) (limit : Nat) :
    found.map (List.take (max limit 1)) = found.map (List.take limit) ↔
      limit ≠ 0 ∨ ∀ first rest, found ≠ .ok (first :: rest) := by
  obtain rfl | hpos := Nat.eq_zero_or_pos limit
  · cases found with
    | error fault => simp [Except.map]
    | ok results => cases results <;> simp [Except.map]
  · simp [Nat.max_eq_left hpos, Nat.ne_of_gt hpos]

/-- A search with a limit gives the first results, as many as the limit says, except for a limit of zero: it
then gives one result if there is one, as a limit of one does. -/
theorem limited_search_gives_first_iff (bundle : Bundle) (filter : ClassFilter)
    (methods : MethodFilter) (limit : Nat) :
    (bundle.findClasses filter (some limit) =
        (bundle.findClasses filter none).map (List.take limit) ↔
      limit ≠ 0 ∨ ∀ c rest, bundle.findClasses filter none ≠ .ok (c :: rest)) ∧
    (bundle.findMethods filter methods (some limit) =
        (bundle.findMethods filter methods none).map (List.take limit) ↔
      limit ≠ 0 ∨ ∀ method rest, bundle.findMethods filter methods none ≠ .ok (method :: rest)) ∧
    bundle.findClasses filter (some 0) = bundle.findClasses filter (some 1) ∧
    bundle.findMethods filter methods (some 0) = bundle.findMethods filter methods (some 1) := by
  refine ⟨?_, ?_, ?_, ?_⟩
  · rw [bundle.findClasses_some, map_take_max_eq_iff]
  · rw [bundle.findMethods_some, map_take_max_eq_iff]
  · rw [bundle.findClasses_some, bundle.findClasses_some]
    rfl
  · rw [bundle.findMethods_some, bundle.findMethods_some]
    rfl

/-- A bundle of one file, with one readable class and one method. -/
def patchyBundle : Bundle :=
  ⟨[⟨"classes.dex", patchyFile.image⟩]⟩

/-- A limit of zero gives the class and the method, though none is wanted. -/
theorem patchyBundle_searched_for_none :
    patchyBundle.findClasses {} (some 0) = .ok [patchyClass] ∧
      patchyBundle.findMethods {} {} (some 0) = .ok [patchyMethod] ∧
      patchyBundle.findClasses {} (some 0) ≠
        (patchyBundle.findClasses {} none).map (List.take 0) ∧
      patchyBundle.findMethods {} {} (some 0) ≠
        (patchyBundle.findMethods {} {} none).map (List.take 0) := by
  have hlisted : patchyBundle.classes = .ok [patchyClass] := by decide +kernel
  have hclasses : patchyBundle.findClasses {} none = .ok [patchyClass] := by
    rw [Bundle.findClasses_none, hlisted]
    rfl
  have hmethods : patchyBundle.findMethods {} {} none = .ok [patchyMethod] := by
    rw [Bundle.findMethods_none, hclasses]
    rfl
  obtain ⟨hfirstClass, hfirstMethod, -, -⟩ := limited_search_gives_first_iff patchyBundle {} {} 0
  refine ⟨?_, ?_, ?_, ?_⟩
  · rw [Bundle.findClasses_some, hclasses]
    rfl
  · rw [Bundle.findMethods_some, hmethods]
    rfl
  · rw [Ne, hfirstClass, hclasses]
    simp
  · rw [Ne, hfirstMethod, hmethods]
    simp

/-- The four searches of a bundle agree: a search for one gives the first of the results of a search for all,
methods are found class by class among the classes found, and a search fails exactly if the classes cannot be
listed, and for the same reason. -/
theorem single_and_multiple_search_agree (bundle : Bundle) (filter : ClassFilter)
    (methods : MethodFilter) :
    bundle.findClass filter = (bundle.findClasses filter none).map List.head? ∧
    bundle.findMethod filter methods =
      (bundle.findMethods filter methods none).map List.head? ∧
    bundle.findClasses filter none = bundle.classes.map (List.filter filter.accepts) ∧
    bundle.findMethods filter methods none =
      (bundle.findClasses filter none).map
        (List.flatMap fun c => c.methods.filter methods.accepts) ∧
    ∀ fault,
      (bundle.findClass filter = .error fault ↔ bundle.classes = .error fault) ∧
      (bundle.findMethod filter methods = .error fault ↔ bundle.classes = .error fault) ∧
      ∀ limit, (bundle.findClasses filter limit = .error fault ↔ bundle.classes = .error fault) ∧
        (bundle.findMethods filter methods limit = .error fault ↔
          bundle.classes = .error fault) := by
  refine ⟨bundle.findClass_eq filter, bundle.findMethod_eq filter methods,
    bundle.findClasses_none filter, bundle.findMethods_none filter methods, fun fault => ?_⟩
  refine ⟨map_eq_error_iff, ?_, fun limit => ⟨map_eq_error_iff, ?_⟩⟩
  · exact map_eq_error_iff.trans map_eq_error_iff
  · exact map_eq_error_iff.trans map_eq_error_iff

end AppSurvey.Dex
