import AppSurvey.Flow.Build
import AppSurvey.Proofs.Flow.Chain

/-!
# How the calls of classes join

A class files the calls of a method under its name, while a call names its target by a signature. The
two are different texts for one method, so a call into a method and the calls out of it meet only if
some class has a method whose name reads like the signature.
-/

namespace AppSurvey.Flow

open Text Dex

/-- The name under which the calls of a method are filed. -/
def callerName (outline : ClassOutline) (method : MethodOutline) : String :=
  outline.className ++ "." ++ method.name

/-- Where a call stands: its method and the type of its result. -/
def callSite (method : MethodOutline) (expression : Expression) : String :=
  method.name ++ ":" ++ expression.valueType

/-- The signature by which a call names a method of a class. -/
def signatureOf (outline : ClassOutline) (method : MethodOutline) : String :=
  (Signature.make outline.className method.name method.parameters method.returnType).full

/-! ## What a class adds -/

/-- The calls up to the first expression that cannot be read. -/
def readableCalls : List (Except MisplacedArrow (Option Call)) → List Call
  | [] => []
  | .error _ :: _ => []
  | .ok none :: rest => readableCalls rest
  | .ok (some call) :: rest => call :: readableCalls rest

theorem mem_of_mem_readableCalls {items : List (Except MisplacedArrow (Option Call))} {call : Call}
    (hcall : call ∈ readableCalls items) : .ok (some call) ∈ items := by
  fun_induction readableCalls items with
  | case1 => simp at hcall
  | case2 => simp at hcall
  | case3 rest ih => exact List.mem_cons_of_mem _ (ih hcall)
  | case4 first rest ih =>
      rcases List.mem_cons.mp hcall with rfl | hrest
      · exact List.mem_cons_self
      · exact List.mem_cons_of_mem _ (ih hrest)

namespace CallGraph

theorem addReadable_fst (graph : CallGraph) (items : List (Except MisplacedArrow (Option Call))) :
    (graph.addReadable items).1 = (readableCalls items).foldl add graph := by
  fun_induction addReadable graph items with
  | case1 => rfl
  | case2 => rfl
  | case3 graph rest ih => exact ih
  | case4 graph call rest ih => exact ih

/-- Where adding does not stop, every call is added. -/
theorem mem_readableCalls_of_addReadable {graph : CallGraph}
    {items : List (Except MisplacedArrow (Option Call))} (hadded : (graph.addReadable items).2 = none)
    {call : Call} (hcall : .ok (some call) ∈ items) : call ∈ readableCalls items := by
  fun_induction addReadable graph items with
  | case1 => simp at hcall
  | case2 => simp at hadded
  | case3 graph rest ih => exact ih hadded (by simpa using hcall)
  | case4 graph first rest ih =>
      rcases List.mem_cons.mp hcall with heq | hrest
      · cases heq
        exact List.mem_cons_self
      · exact List.mem_cons_of_mem _ (ih hadded hrest)

/-- The graph of classes that are added one after the other. -/
def ofOutlines (outlines : List ClassOutline) : CallGraph :=
  outlines.foldl (fun graph outline => (graph.addClass outline).1) empty

theorem ofOutlines_eq_ofCalls (outlines : List ClassOutline) :
    ofOutlines outlines =
      ofCalls (outlines.flatMap fun outline => readableCalls (callsOf outline)) := by
  unfold ofOutlines ofCalls
  generalize empty = graph
  induction outlines generalizing graph with
  | nil => rfl
  | cons outline rest ih =>
      rw [List.foldl_cons, List.flatMap_cons, List.foldl_append, ← addReadable_fst]
      exact ih _

theorem filed_ofOutlines (outlines : List ClassOutline) : (ofOutlines outlines).Filed :=
  ofOutlines_eq_ofCalls outlines ▸ filed_ofCalls _

theorem mem_callees_ofOutlines {outlines : List ClassOutline} {caller callee : String} :
    callee ∈ (ofOutlines outlines).callees caller ↔
      ∃ outline ∈ outlines, ∃ call ∈ readableCalls (callsOf outline),
        call.caller = caller ∧ call.callee = callee := by
  rw [ofOutlines_eq_ofCalls, mem_callees_ofCalls]
  constructor
  · rintro ⟨call, hcall, hends⟩
    obtain ⟨outline, houtline, hcall⟩ := List.mem_flatMap.mp hcall
    exact ⟨outline, houtline, call, hcall, hends⟩
  · rintro ⟨outline, houtline, call, hcall, hends⟩
    exact ⟨call, List.mem_flatMap.mpr ⟨outline, houtline, hcall⟩, hends⟩

end CallGraph

/-- An expression stands for a call from its method to the target it names. -/
theorem callOf_eq_some_iff {outline : ClassOutline} {method : MethodOutline}
    {expression : Expression} {call : Call} :
    callOf outline.className method expression = .ok (some call) ↔
      targetOf expression = .ok (some call.callee) ∧
        call = ⟨callerName outline method, call.callee, callSite method expression⟩ := by
  unfold callOf
  cases htarget : targetOf expression with
  | error misplaced => simp [Except.map]
  | ok target =>
      cases target with
      | none => simp [Except.map]
      | some callee =>
          simp only [Except.map, Option.map_some, Except.ok.injEq, Option.some.injEq]
          constructor
          · rintro rfl
            exact ⟨rfl, rfl⟩
          · rintro ⟨rfl, hcall⟩
            exact hcall.symm

theorem mem_callsOf {outline : ClassOutline} {call : Call} :
    .ok (some call) ∈ callsOf outline ↔
      ∃ method ∈ outline.methods, ∃ expression ∈ method.expressions,
        targetOf expression = .ok (some call.callee) ∧
          call = ⟨callerName outline method, call.callee, callSite method expression⟩ := by
  simp only [callsOf, List.mem_flatMap, List.mem_map, callOf_eq_some_iff]

theorem targetOf_signature {expression : Expression} (hcall : expression.isMethodCall = true)
    {signature : String} (hsignature : expression.signature = some signature) :
    targetOf expression = .ok (some signature) := by
  simp [targetOf, hcall, hsignature]

/-- A class that is added as a whole records every call that its expressions name by a signature. -/
theorem mem_callees_of_added {outlines : List ClassOutline} {outline : ClassOutline}
    (houtline : outline ∈ outlines) (hadded : (CallGraph.empty.addClass outline).2 = none)
    {method : MethodOutline} (hmethod : method ∈ outline.methods) {expression : Expression}
    (hexpression : expression ∈ method.expressions) (hcall : expression.isMethodCall = true)
    {signature : String} (hsignature : expression.signature = some signature) :
    signature ∈ (CallGraph.ofOutlines outlines).callees (callerName outline method) := by
  have hmem : .ok (some ⟨callerName outline method, signature, callSite method expression⟩) ∈
      callsOf outline :=
    mem_callsOf.mpr ⟨method, hmethod, expression, hexpression,
      targetOf_signature hcall hsignature, rfl⟩
  rw [CallGraph.mem_callees_ofOutlines]
  exact ⟨outline, houtline, _, CallGraph.mem_readableCalls_of_addReadable hadded hmem, rfl, rfl⟩

/-! ## Names and signatures -/

theorem signatureOf_eq (outline : ClassOutline) (method : MethodOutline) :
    signatureOf outline method =
      callerName outline method ++ ("(" ++ commaList method.parameters ++ "): " ++ method.returnType) := by
  simp only [signatureOf, callerName, Signature.make, Signature.memberText, String.append_assoc]
  rfl

/-- The name and the signature of a method are never the same text. -/
theorem callerName_ne_signatureOf (outline : ClassOutline) (method : MethodOutline) :
    callerName outline method ≠ signatureOf outline method := by
  intro heq
  have hlength := congrArg String.length heq
  simp only [signatureOf_eq, String.length_append] at hlength
  have hparenthesis : "(".length = 1 := rfl
  omega

theorem parenthesis_mem_signatureOf (outline : ClassOutline) (method : MethodOutline) :
    '(' ∈ (signatureOf outline method).toList := by
  simp [signatureOf_eq]

theorem parenthesis_notMem_callerName {outline : ClassOutline} {method : MethodOutline}
    (hclass : '(' ∉ outline.className.toList) (hmethod : '(' ∉ method.name.toList) :
    '(' ∉ (callerName outline method).toList := by
  simp [callerName, hclass, hmethod]

/-- The class adds a call of the method with this callee: an expression names it, and the class can be
read at least that far. -/
def AddsCall (outline : ClassOutline) (method : MethodOutline) (callee : String) : Prop :=
  ∃ expression ∈ method.expressions, targetOf expression = .ok (some callee) ∧
    ⟨callerName outline method, callee, callSite method expression⟩ ∈
      readableCalls (callsOf outline)

theorem mem_callees_iff_addsCall {outlines : List ClassOutline} {caller callee : String} :
    callee ∈ (CallGraph.ofOutlines outlines).callees caller ↔
      ∃ outline ∈ outlines, ∃ method ∈ outline.methods,
        callerName outline method = caller ∧ AddsCall outline method callee := by
  rw [CallGraph.mem_callees_ofOutlines]
  constructor
  · rintro ⟨outline, houtline, call, hcall, rfl, rfl⟩
    obtain ⟨method, hmethod, expression, hexpression, htarget, heq⟩ :=
      mem_callsOf.mp (mem_of_mem_readableCalls hcall)
    rw [heq] at hcall
    exact ⟨outline, houtline, method, hmethod, (congrArg Call.caller heq).symm, expression,
      hexpression, htarget, hcall⟩
  · rintro ⟨outline, houtline, method, -, rfl, expression, -, -, hcall⟩
    exact ⟨outline, houtline, _, hcall, rfl, rfl⟩

/-- Where no name has a parenthesis, nothing is filed under a signature. -/
theorem callees_signatureOf_eq_nil {outlines : List ClassOutline}
    (hplain : ∀ outline ∈ outlines, '(' ∉ outline.className.toList ∧
      ∀ method ∈ outline.methods, '(' ∉ method.name.toList)
    (outline : ClassOutline) (method : MethodOutline) :
    (CallGraph.ofOutlines outlines).callees (signatureOf outline method) = [] := by
  rw [List.eq_nil_iff_forall_not_mem]
  intro callee hcallee
  obtain ⟨other, hother, caller, hcaller, hname, -⟩ := mem_callees_iff_addsCall.mp hcallee
  obtain ⟨hclass, hmethods⟩ := hplain other hother
  -- The name of the caller would hold the parenthesis of the signature.
  apply parenthesis_notMem_callerName hclass (hmethods caller hcaller)
  rw [hname]
  exact parenthesis_mem_signatureOf outline method

/-- A call into a method and a call out of it are both recorded, but not at the same node. They join
to a path exactly if some method bears the signature as its name and has the second call; where no
name has a parenthesis there is none. -/
theorem calls_join_iff_named_by_signature {outlines : List ClassOutline}
    {first second : ClassOutline} (hfirst : first ∈ outlines) (hsecond : second ∈ outlines)
    (hfirstAdded : (CallGraph.empty.addClass first).2 = none)
    (hsecondAdded : (CallGraph.empty.addClass second).2 = none)
    {outer inner : MethodOutline} (houter : outer ∈ first.methods) (hinner : inner ∈ second.methods)
    {into outOf : Expression} (hinto : into ∈ outer.expressions) (houtOf : outOf ∈ inner.expressions)
    (hintoCall : into.isMethodCall = true) (houtOfCall : outOf.isMethodCall = true)
    (hintoTarget : into.signature = some (signatureOf second inner)) {target : String}
    (houtOfTarget : outOf.signature = some target) {depth : Nat} (hdepth : 3 ≤ depth)
    (hdifferent : callerName first outer ≠ signatureOf second inner)
    (houterOpen : ¬ target.toList <:+: (callerName first outer).toList)
    (hinnerOpen : ¬ target.toList <:+: (signatureOf second inner).toList) :
    signatureOf second inner ∈ (CallGraph.ofOutlines outlines).callees (callerName first outer) ∧
    target ∈ (CallGraph.ofOutlines outlines).callees (callerName second inner) ∧
    callerName second inner ≠ signatureOf second inner ∧
    (target ∈ (CallGraph.ofOutlines outlines).callees (signatureOf second inner) ↔
      ∃ other ∈ outlines, ∃ method ∈ other.methods,
        callerName other method = signatureOf second inner ∧ AddsCall other method target) ∧
    ((∃ path ∈ (CallGraph.ofOutlines outlines).paths (callerName first outer) target depth,
        path.methods = [callerName first outer, signatureOf second inner, target]) ↔
      target ∈ (CallGraph.ofOutlines outlines).callees (signatureOf second inner)) ∧
    ((∀ outline ∈ outlines, '(' ∉ outline.className.toList ∧
        ∀ method ∈ outline.methods, '(' ∉ method.name.toList) →
      (CallGraph.ofOutlines outlines).callees (signatureOf second inner) = []) := by
  have hcalled : signatureOf second inner ∈
      (CallGraph.ofOutlines outlines).callees (callerName first outer) :=
    mem_callees_of_added hfirst hfirstAdded houter hinto hintoCall hintoTarget
  have hcalls : target ∈ (CallGraph.ofOutlines outlines).callees (callerName second inner) :=
    mem_callees_of_added hsecond hsecondAdded hinner houtOf houtOfCall houtOfTarget
  have hpath := CallGraph.exists_path_over_iff (CallGraph.filed_ofOutlines outlines) hdepth hdifferent
    houterOpen hinnerOpen
  refine ⟨hcalled, hcalls, callerName_ne_signatureOf second inner, mem_callees_iff_addsCall, ?_, ?_⟩
  · rw [hpath]
    exact and_iff_right hcalled
  · exact fun hplain => callees_signatureOf_eq_nil hplain second inner

/-- A class with one method, which makes one call. -/
def callingClass (className name target : String) : ClassOutline :=
  { className
    package := ""
    simpleName := className
    superclass := none
    interfaces := []
    fields := []
    methods := [{
      name
      signature := Signature.memberText name [] "void"
      access := ⟨1⟩
      isPublic := true
      isPrivate := false
      isStatic := false
      parameters := []
      returnType := "void"
      expressions := [⟨"", "void", true, some target⟩]
      codeSize := 3 }]
    access := ⟨1⟩ }

/-- `Start.go` calls `Page.open`, which calls `Web.load`; no path leads from the first to the last. -/
theorem start_and_page_do_not_join :
    let outlines := [callingClass "Start" "go" "Page.open(): void",
      callingClass "Page" "open" "Web.load(): void"]
    (CallGraph.ofOutlines outlines).callees "Page.open(): void" = [] ∧
      "Web.load(): void" ∈ (CallGraph.ofOutlines outlines).callees "Page.open" ∧
      ¬ ∃ path ∈ (CallGraph.ofOutlines outlines).paths "Start.go" "Web.load(): void" 3,
        path.methods = ["Start.go", "Page.open(): void", "Web.load(): void"] := by
  intro outlines
  have houterOpen : includes "Start.go" "Web.load(): void" = false := by cbv
  have hinnerOpen : includes "Page.open(): void" "Web.load(): void" = false := by cbv
  have hplain : ∀ outline ∈ outlines, '(' ∉ outline.className.toList ∧
      ∀ method ∈ outline.methods, '(' ∉ method.name.toList := by
    simp [outlines, callingClass]
  obtain ⟨-, hcalls, -, -, hpath, hnone⟩ := calls_join_iff_named_by_signature
    (show callingClass "Start" "go" "Page.open(): void" ∈ outlines by simp [outlines])
    (show callingClass "Page" "open" "Web.load(): void" ∈ outlines by simp [outlines]) rfl rfl
    List.mem_cons_self List.mem_cons_self List.mem_cons_self List.mem_cons_self rfl rfl rfl rfl
    (Nat.le_refl 3) (by decide) (by rw [← includes_iff]; exact Bool.eq_false_iff.mp houterOpen)
    (by rw [← includes_iff]; exact Bool.eq_false_iff.mp hinnerOpen)
  refine ⟨hnone hplain, hcalls, ?_⟩
  intro hexists
  have hcallee := hpath.mp hexists
  rw [hnone hplain] at hcallee
  exact List.not_mem_nil hcallee

end AppSurvey.Flow
