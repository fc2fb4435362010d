import AppSurvey.Proofs.Flow.Build
import AppSurvey.Proofs.Text.Search

/-!
# How far a class is read

An expression that calls a method without a signature is searched for a descriptor, which has an `L` and an
arrow behind it. The two are looked for on their own, so a text in which the first `L` comes only behind an
arrow cannot be read, and the class is added no further than up to it. Every other class is added as a whole:
each expression adds the call that it stands for, or nothing.
-/

namespace AppSurvey.Flow

open Text Dex

/-! ## Descriptors in a text -/

/-- What stands between the class and the method of a descriptor. -/
abbrev arrow : List Char := ['-', '>']

/-- The text has an arrow with an `L` behind it and none in front of it. -/
def ArrowFirst (text : String) : Prop :=
  ∃ before after, text.toList = before ++ arrow ++ after ∧ 'L' ∉ before ∧ 'L' ∈ after

/-- The text has no arrow or no `L`. -/
def LacksMark (text : String) : Prop :=
  ¬ arrow <:+: text.toList ∨ 'L' ∉ text.toList

/-- A method as a descriptor names it: the class with dots for slashes, and the method up to its
parameters. -/
def namedMethod (className after : List Char) : String :=
  String.ofList ((className.map fun c => if c = '/' then '.' else c) ++ '.' ::
    after.takeWhile (· != '('))

/-- The text names the method: its first arrow stands behind its first `L`, with the class between them. -/
def NamesMethod (text callee : String) : Prop :=
  ∃ lead className after, text.toList = lead ++ 'L' :: className ++ arrow ++ after ∧ 'L' ∉ lead ∧
    ¬ arrow <:+: lead ++ 'L' :: className ∧ callee = namedMethod className after

theorem bytePosition?_mark {lead : List Char} (hlead : 'L' ∉ lead) (rest : List Char) :
    bytePosition? ['L'] (lead ++ 'L' :: rest) = some (byteCount lead) := by
  rw [bytePosition?, splitFirst_singleton hlead, Option.map_some]

theorem descriptorTarget_of_lacksMark {text : String} (hlacks : LacksMark text) :
    descriptorTarget text = .ok none := by
  unfold descriptorTarget
  rcases hlacks with harrow | hmark
  · have hnone : bytePosition? ['-', '>'] text.toList = none := by
      rw [bytePosition?, splitFirst_eq_none_iff.mpr harrow, Option.map_none]
    rw [hnone]
    split
    next => contradiction
    next => rfl
  · have hnone : bytePosition? ['L'] text.toList = none := by
      have hpart : ¬ ['L'] <:+: text.toList := fun hpart => hmark (hpart.subset List.mem_cons_self)
      rw [bytePosition?, splitFirst_eq_none_iff.mpr hpart, Option.map_none]
    rw [hnone]

section Split

variable {text : String} {before after : List Char}
  (hsplit : splitFirst arrow text.toList = some (before, after))

include hsplit

theorem bytePosition?_arrow : bytePosition? ['-', '>'] text.toList = some (byteCount before) := by
  rw [bytePosition?, hsplit, Option.map_some]

theorem between?_arrow (first : Nat) :
    between? first (byteCount before) text.toList = behind? first before := by
  have hcut : cutAt? (byteCount before) text.toList = some (before, arrow ++ after) := by
    rw [cutAt?_eq_some_iff, (splitFirst_eq_some hsplit).1, List.append_assoc]
    exact ⟨rfl, rfl⟩
  rw [between?, hcut]
  rfl

theorem behind?_arrow : behind? (byteCount before + 2) text.toList = some after := by
  have hcut : cutAt? (byteCount before + 2) text.toList = some (before ++ arrow, after) := by
    rw [cutAt?_eq_some_iff, (splitFirst_eq_some hsplit).1, byteCount_append]
    exact ⟨rfl, rfl⟩
  rw [behind?, hcut, Option.map_some]

/-- An `L` in front of the first arrow: the class stands between the first `L` and the arrow. -/
theorem descriptorTarget_of_mark {lead className : List Char} (hlead : 'L' ∉ lead)
    (hbefore : before = lead ++ 'L' :: className) :
    descriptorTarget text = .ok (some (namedMethod className after)) := by
  have hmark : bytePosition? ['L'] text.toList = some (byteCount lead) := by
    rw [(splitFirst_eq_some hsplit).1, hbefore, List.append_assoc, List.append_assoc, List.cons_append]
    exact bytePosition?_mark hlead _
  have hclass : behind? (byteCount lead + 1) before = some className := by
    have hcut : cutAt? (byteCount lead + 1) before = some (lead ++ ['L'], className) := by
      rw [cutAt?_eq_some_iff, hbefore, byteCount_append]
      exact ⟨by simp, rfl⟩
    rw [behind?, hcut, Option.map_some]
  simp only [descriptorTarget, hmark, bytePosition?_arrow hsplit, between?_arrow hsplit, hclass,
    behind?_arrow hsplit]
  rfl

/-- No `L` but behind the first arrow: there is nothing between the two that could be cut out. -/
theorem descriptorTarget_of_misplaced (hbefore : 'L' ∉ before) (hafter : 'L' ∈ after) :
    descriptorTarget text = .error ⟨text⟩ := by
  obtain ⟨skipped, rest, rfl, hskipped⟩ := List.eq_append_cons_of_mem hafter
  have hlead : 'L' ∉ before ++ arrow ++ skipped := by simp [hbefore, hskipped]
  have hmark : bytePosition? ['L'] text.toList = some (byteCount (before ++ arrow ++ skipped)) := by
    rw [(splitFirst_eq_some hsplit).1, ← List.append_assoc]
    exact bytePosition?_mark hlead rest
  -- The cut would begin behind the end of what stands before the arrow.
  have hclass : behind? (byteCount (before ++ arrow ++ skipped) + 1) before = none := by
    have hbeyond : byteCount before < byteCount (before ++ arrow ++ skipped) + 1 := by
      simp only [byteCount_append]
      omega
    rw [behind?, cutAt?_eq_none hbeyond, Option.map_none]
  simp only [descriptorTarget, hmark, bytePosition?_arrow hsplit, between?_arrow hsplit, hclass]

end Split

/-- If any arrow stands in front of the first `L`, the first arrow does. -/
theorem descriptorTarget_of_arrowFirst {text : String} (hfirst : ArrowFirst text) :
    descriptorTarget text = .error ⟨text⟩ := by
  obtain ⟨before, after, hwhole, hbefore, hafter⟩ := hfirst
  cases hsplit : splitFirst arrow text.toList with
  | none => exact absurd ⟨before, after, hwhole.symm⟩ (splitFirst_eq_none_iff.mp hsplit)
  | some parts =>
      obtain ⟨lead, rest⟩ := parts
      have hlead : 'L' ∉ lead := fun hmem => hbefore ((prefix_of_splitFirst hsplit hwhole).subset hmem)
      have hrest : 'L' ∈ rest := by
        have hmem : 'L' ∈ text.toList := by simp [hwhole, hafter]
        simpa [(splitFirst_eq_some hsplit).1, hlead] using hmem
      exact descriptorTarget_of_misplaced hsplit hlead hrest

/-- The three ways in which the marks of a descriptor can stand in a text. -/
theorem descriptorTarget_cases (text : String) :
    (LacksMark text ∧ descriptorTarget text = .ok none) ∨
      (∃ callee, NamesMethod text callee ∧ descriptorTarget text = .ok (some callee)) ∨
      (ArrowFirst text ∧ descriptorTarget text = .error ⟨text⟩) := by
  by_cases hlacks : LacksMark text
  · exact .inl ⟨hlacks, descriptorTarget_of_lacksMark hlacks⟩
  simp only [LacksMark, not_or, not_not] at hlacks
  obtain ⟨harrow, hmark⟩ := hlacks
  cases hsplit : splitFirst arrow text.toList with
  | none => exact absurd harrow (splitFirst_eq_none_iff.mp hsplit)
  | some parts =>
      obtain ⟨before, after⟩ := parts
      have hwhole := (splitFirst_eq_some hsplit).1
      by_cases hbefore : 'L' ∈ before
      · obtain ⟨lead, className, rfl, hlead⟩ := List.eq_append_cons_of_mem hbefore
        have hfirst := not_infix_of_splitFirst (List.cons_ne_nil _ _) hsplit
        exact .inr (.inl ⟨_, ⟨lead, className, after, hwhole, hlead, hfirst, rfl⟩,
          descriptorTarget_of_mark hsplit hlead rfl⟩)
      · have hafter : 'L' ∈ after := by simpa [hwhole, hbefore] using hmark
        exact .inr (.inr ⟨⟨before, after, hwhole, hbefore, hafter⟩,
          descriptorTarget_of_misplaced hsplit hbefore hafter⟩)

/-! ## What an expression adds -/

/-- The expression calls a method without a signature, and its text cannot be read. -/
structure IsMisread (expression : Expression) : Prop where
  isCall : expression.isMethodCall = true
  unsigned : expression.signature = none
  arrowFirst : ArrowFirst expression.text

/-- A call of a method where an expression stands. -/
def callTo (outline : ClassOutline) (method : MethodOutline) (expression : Expression)
    (callee : String) : Call :=
  ⟨callerName outline method, callee, callSite method expression⟩

/-- What an expression of a method adds to a graph: one call from the method to what the signature or else the
descriptor names, or nothing. -/
inductive Adds (outline : ClassOutline) (method : MethodOutline) (expression : Expression) :
    Option Call → Prop
  | other (hcall : expression.isMethodCall = false) : Adds outline method expression none
  | signed {signature : String} (hcall : expression.isMethodCall = true)
      (hsignature : expression.signature = some signature) :
      Adds outline method expression (some (callTo outline method expression signature))
  | named {callee : String} (hcall : expression.isMethodCall = true)
      (hunsigned : expression.signature = none) (hnamed : NamesMethod expression.text callee) :
      Adds outline method expression (some (callTo outline method expression callee))
  | unnamed (hcall : expression.isMethodCall = true) (hunsigned : expression.signature = none)
      (hlacks : LacksMark expression.text) : Adds outline method expression none

section Expressions

variable {outline : ClassOutline} {method : MethodOutline} {expression : Expression}

theorem callOf_of_target {target : Option String} (htarget : targetOf expression = .ok target) :
    callOf outline.className method expression =
      .ok (target.map (callTo outline method expression)) := by
  rw [callOf, htarget]
  rfl

theorem IsMisread.callOf_eq (hmisread : IsMisread expression) :
    callOf outline.className method expression = .error ⟨expression.text⟩ := by
  have htarget : targetOf expression = .error ⟨expression.text⟩ := by
    simp [targetOf, hmisread.isCall, hmisread.unsigned,
      descriptorTarget_of_arrowFirst hmisread.arrowFirst]
  rw [callOf, htarget]
  rfl

variable (outline method expression) in
/-- Every expression that can be read adds what it stands for. -/
theorem callOf_cases :
    IsMisread expression ∨ ∃ edge, Adds outline method expression edge ∧
      callOf outline.className method expression = .ok edge := by
  cases hcall : expression.isMethodCall with
  | false =>
      have htarget : targetOf expression = .ok none := by simp [targetOf, hcall]
      exact .inr ⟨none, .other hcall, callOf_of_target htarget⟩
  | true =>
      cases hsignature : expression.signature with
      | some signature =>
          exact .inr ⟨_, .signed hcall hsignature,
            callOf_of_target (targetOf_signature hcall hsignature)⟩
      | none =>
          have htarget : targetOf expression = descriptorTarget expression.text := by
            simp [targetOf, hcall, hsignature]
          rcases descriptorTarget_cases expression.text with
            ⟨hlacks, hnone⟩ | ⟨callee, hnamed, hsome⟩ | ⟨hfirst, -⟩
          · exact .inr ⟨none, .unnamed hcall hsignature hlacks,
              callOf_of_target (htarget.trans hnone)⟩
          · exact .inr ⟨_, .named hcall hsignature hnamed, callOf_of_target (htarget.trans hsome)⟩
          · exact .inl ⟨hcall, hsignature, hfirst⟩

end Expressions

/-! ## What a class adds -/

/-- The expressions of a class with their methods, in the order in which they are read. -/
def expressionsOf (outline : ClassOutline) : List (MethodOutline × Expression) :=
  outline.methods.flatMap fun method => method.expressions.map fun expression => (method, expression)

theorem callsOf_eq_map (outline : ClassOutline) :
    callsOf outline =
      (expressionsOf outline).map fun step => callOf outline.className step.1 step.2 := by
  simp [callsOf, expressionsOf, List.map_flatMap, Function.comp_def]

theorem addReadable_ok_cons (graph : CallGraph) (edge : Option Call)
    (rest : List (Except MisplacedArrow (Option Call))) :
    graph.addReadable (.ok edge :: rest) =
      (edge.toList.foldl CallGraph.add graph).addReadable rest := by
  cases edge <;> rfl

theorem foldl_filterMap_cons (graph : CallGraph) (edge : Option Call) (edges : List (Option Call)) :
    ((edge :: edges).filterMap id).foldl CallGraph.add graph =
      (edges.filterMap id).foldl CallGraph.add (edge.toList.foldl CallGraph.add graph) := by
  cases edge <;> rfl

/-- Reading goes on up to the first expression that cannot be read, and each one before it adds what it
stands for. -/
theorem exists_read (outline : ClassOutline) (graph : CallGraph)
    (steps : List (MethodOutline × Expression)) :
    let run := graph.addReadable (steps.map fun step => callOf outline.className step.1 step.2)
    ∃ read rest edges, steps = read ++ rest ∧
      List.Forall₂ (fun step edge => Adds outline step.1 step.2 edge) read edges ∧
      (∀ step ∈ read, ¬ IsMisread step.2) ∧
      run.1 = (edges.filterMap id).foldl CallGraph.add graph ∧
      ((rest = [] ∧ run.2 = none) ∨
        ∃ step tail, rest = step :: tail ∧ IsMisread step.2 ∧ run.2 = some ⟨step.2.text⟩) := by
  induction steps generalizing graph with
  | nil => exact ⟨[], [], [], rfl, .nil, by simp, rfl, .inl ⟨rfl, rfl⟩⟩
  | cons step steps ih =>
      obtain ⟨method, expression⟩ := step
      rcases callOf_cases outline method expression with hmisread | ⟨edge, hadds, hcall⟩
      · refine ⟨[], (method, expression) :: steps, [], rfl, .nil, by simp, ?_,
          .inr ⟨_, steps, rfl, hmisread, ?_⟩⟩
        · simp [hmisread.callOf_eq, CallGraph.addReadable]
        · simp [hmisread.callOf_eq, CallGraph.addReadable]
      · have hread : ¬ IsMisread expression := by
          intro hmisread
          rw [hmisread.callOf_eq] at hcall
          cases hcall
        obtain ⟨read, rest, edges, hsteps, hadded, hreads, hgraph, hend⟩ :=
          ih (edge.toList.foldl CallGraph.add graph)
        simp only [List.map_cons, hcall, addReadable_ok_cons]
        refine ⟨(method, expression) :: read, rest, edge :: edges, ?_, .cons hadds hadded,
          List.forall_mem_cons.mpr ⟨hread, hreads⟩, ?_, hend⟩
        · rw [hsteps, List.cons_append]
        · rw [foldl_filterMap_cons, hgraph]

/-- A class is added as a whole exactly if none of its expressions is a call without a signature whose text has
an arrow in front of its first `L`. In any case its expressions are read in order, each one adds at most one
call, from its method to the method that it names, and reading stops only at the first such expression; the
graph then keeps the calls that were added before. -/
theorem class_added_whole_iff_none_misread (graph : CallGraph) (outline : ClassOutline) :
    ((graph.addClass outline).2 = none ↔
      ∀ method ∈ outline.methods, ∀ expression ∈ method.expressions, ¬ IsMisread expression) ∧
    ∃ read rest edges, expressionsOf outline = read ++ rest ∧
      List.Forall₂ (fun step edge => Adds outline step.1 step.2 edge) read edges ∧
      (∀ step ∈ read, ¬ IsMisread step.2) ∧
      (graph.addClass outline).1 = (edges.filterMap id).foldl CallGraph.add graph ∧
      (∀ calls, graph.Records calls →
        (graph.addClass outline).1.Records (calls ++ edges.filterMap id)) ∧
      ((rest = [] ∧ (graph.addClass outline).2 = none) ∨
        ∃ step tail, rest = step :: tail ∧ IsMisread step.2 ∧
          (graph.addClass outline).2 = some ⟨step.2.text⟩) := by
  obtain ⟨read, rest, edges, hsteps, hadded, hreads, hgraph, hend⟩ :=
    exists_read outline graph (expressionsOf outline)
  rw [← callsOf_eq_map, ← CallGraph.addClass] at hgraph hend
  have hmem (step : MethodOutline × Expression) : step ∈ expressionsOf outline ↔
      step.1 ∈ outline.methods ∧ step.2 ∈ step.1.expressions := by
    obtain ⟨method, expression⟩ := step
    simp [expressionsOf]
  refine ⟨?_, read, rest, edges, hsteps, hadded, hreads, hgraph, ?_, hend⟩
  · rcases hend with ⟨rfl, hstop⟩ | ⟨step, tail, rfl, hmisread, hstop⟩
    · rw [List.append_nil] at hsteps
      refine iff_of_true hstop fun method hmethod expression hexpression => ?_
      exact hreads (method, expression) (hsteps ▸ (hmem _).mpr ⟨hmethod, hexpression⟩)
    · obtain ⟨hmethod, hexpression⟩ := (hmem step).mp (by simp [hsteps])
      refine iff_of_false ?_ fun hall => hall step.1 hmethod step.2 hexpression hmisread
      rw [hstop]
      exact Option.some_ne_none _
  · intro calls hcalls
    rw [hgraph]
    exact hcalls.foldl_add _

/-- A call in a text whose only `L` stands behind the arrow. -/
def showLink : Expression := ⟨"page->show(Link)", "void", true, none⟩

/-- A class with one method, which opens a page, shows a link and closes the page. -/
def linkClass : ClassOutline :=
  let pageClass := callingClass "app.Start" "go" "Page.open(): void"
  { pageClass with
    methods := pageClass.methods.map fun method => { method with
      expressions := method.expressions ++ [showLink, ⟨"", "void", true, some "Page.close(): void"⟩] } }

theorem isMisread_showLink : IsMisread showLink where
  isCall := rfl
  unsigned := rfl
  arrowFirst := ⟨"page".toList, "show(Link)".toList, by decide, by decide, by decide⟩

/-- Adding the class stops at the link, so the page is opened and never closed. -/
theorem linkClass_added_up_to_link :
    IsMisread showLink ∧ (CallGraph.empty.addClass linkClass).2 ≠ none ∧
      (CallGraph.empty.addClass linkClass).1.callees "app.Start.go" = ["Page.open(): void"] := by
  obtain ⟨hwhole, -⟩ := class_added_whole_iff_none_misread CallGraph.empty linkClass
  refine ⟨isMisread_showLink, fun hnone => ?_, ?_⟩
  · apply hwhole.mp hnone _ List.mem_cons_self showLink _ isMisread_showLink
    simp
  · have hcalls : callsOf linkClass =
        [.ok (some ⟨"app.Start.go", "Page.open(): void", "go:void"⟩),
          .error ⟨"page->show(Link)"⟩,
          .ok (some ⟨"app.Start.go", "Page.close(): void", "go:void"⟩)] := rfl
    have hgraph : (CallGraph.empty.addClass linkClass).1 =
        CallGraph.ofCalls [⟨"app.Start.go", "Page.open(): void", "go:void"⟩] := by
      rw [CallGraph.addClass, hcalls]
      rfl
    rw [hgraph, CallGraph.callees, CallGraph.callsFrom_ofCalls]
    simp

end AppSurvey.Flow
