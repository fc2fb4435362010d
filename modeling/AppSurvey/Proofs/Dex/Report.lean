import AppSurvey.Proofs.Dex.Layout
import AppSurvey.Proofs.Dex.Registers

/-!
# Which calls are reported

A call with listed registers is reported if it has an operand, if its method is known and if its
class, its method or its text speaks of the web view. `Reports` says so in terms of the loads before
each call; the main statement is that the runs of several methods, one after the other, report just
that, and that the registers hold what the loads have left in them at every moment.
-/

namespace AppSurvey.Dex

open Instruction Text

/-! ## What a report says -/

/-- What is known about a register after some instructions. -/
def KnownAs (file : File) (history : List Site) (register : UInt8) (value : RegisterValue) : Prop :=
  LastLoad file history register value ∨ NeverLoaded file history register ∧ value = .unknown

/-- The text of a call of a method on a value. -/
def callText (object : RegisterValue) (methodName : String) (args : List RegisterValue) : String :=
  object.text ++ "." ++ methodName ++ "(" ++ commaList (args.map RegisterValue.text) ++ ")"

/-- A call is significant if it switches scripts, or if its class or its text names the web view or
its settings. -/
def Significant (signature : Signature) (text : String) : Prop :=
  signature.methodName = "setJavaScriptEnabled" ∨
    ∃ name ∈ ["WebView", "WebSettings"],
      name.toList <:+: signature.className.toList ∨ name.toList <:+: text.toList

/-- The instruction is a call that is reported as an expression: its registers are listed, there is
one at least, and the method has a signature. -/
def Reported (file : File) (history : List Site) (site : Site) (expression : Expression) : Prop :=
  ∃ receiver args method signature, ∃ value : UInt8 → RegisterValue,
    site.Calls (receiver :: args) method ∧
      file.resolve method.toNat = .ok signature ∧
      (∀ register, KnownAs file history register (value register)) ∧
      expression.text = callText (value receiver) signature.methodName (args.map value) ∧
      expression.valueType = signature.returnType ∧ expression.isMethodCall = true ∧
      expression.signature = some signature.full ∧ Significant signature expression.text

/-- The expressions are those of the reported calls among the instructions, in order. -/
inductive Reports (file : File) : (history rest : List Site) → List Expression → Prop
  | nil (history : List Site) : Reports file history [] []
  | reported {history rest : List Site} {site : Site} {expression : Expression}
      {expressions : List Expression} (hreported : Reported file history site expression)
      (hrest : Reports file (history ++ [site]) rest expressions) :
      Reports file history (site :: rest) (expression :: expressions)
  | silent {history rest : List Site} {site : Site} {expressions : List Expression}
      (hsilent : ∀ expression, ¬ Reported file history site expression)
      (hrest : Reports file (history ++ [site]) rest expressions) :
      Reports file history (site :: rest) expressions

namespace RegisterValue

theorem texts_eq_map (values : List RegisterValue) : texts values = values.map text := by
  induction values with
  | nil => rfl
  | cons value rest ih => rw [texts, ih, List.map_cons]

end RegisterValue

namespace Registers

/-! ## One call -/

theorem text_callValue (registers : Registers) (signature : Signature) (receiver : UInt8)
    (args : List UInt8) :
    (registers.callValue signature receiver args).text =
      callText (registers.value receiver) signature.methodName (args.map registers.value) := by
  rw [callValue, RegisterValue.text, RegisterValue.texts_eq_map]
  rfl

theorem isSignificant_iff {signature : Signature} {expression : Expression} :
    isSignificant signature expression = true ↔ Significant signature expression.text := by
  simp only [isSignificant, Signature.enablesScripts, Signature.isWebView, Expression.isWebView,
    Significant, Bool.or_eq_true, beq_iff_eq, includes_iff, List.mem_cons, List.not_mem_nil, or_false,
    exists_eq_or_imp, exists_eq_left]
  grind

theorem emit?_eq_some_iff {file : File} {registers : Registers} {instruction : Instruction}
    {expression : Expression} :
    registers.emit? file instruction = some expression ↔
      ∃ kind receiver args method signature,
        instruction = .call kind (receiver :: args) method ∧
          file.resolve method.toNat = .ok signature ∧
          expression = registers.callExpression signature receiver args ∧
          Significant signature expression.text := by
  constructor
  · intro hemit
    cases instruction with
    | call kind args method =>
        change report? file registers args method = some expression at hemit
        unfold report? at hemit
        split at hemit
        next signature receiver rest hresolve =>
          dsimp only at hemit
          rw [Option.ite_none_right_eq_some, Option.some.injEq] at hemit
          obtain ⟨hsignificant, rfl⟩ := hemit
          exact ⟨kind, receiver, rest, method, signature, rfl, hresolve, rfl,
            isSignificant_iff.mp hsignificant⟩
        next => cases hemit
    | _ => cases hemit
  · rintro ⟨kind, receiver, args, method, signature, rfl, hresolve, rfl, hsignificant⟩
    simp only [emit?, report?, hresolve, isSignificant_iff.mpr hsignificant, if_true]

/-- The registers after some instructions, from none written. -/
def ofHistory (file : File) (history : List Site) : Registers :=
  (empty.follow file (history.map Site.instruction)).1

theorem ofHistory_append (file : File) (history rest : List Site) :
    ofHistory file (history ++ rest) =
      ((ofHistory file history).follow file (rest.map Site.instruction)).1 := by
  rw [ofHistory, List.map_append, follow_append]
  rfl

theorem get?_ofHistory_eq_some {file : File} {history : List Site} {register : UInt8}
    {value : RegisterValue} :
    (ofHistory file history).get? register = some value ↔ LastLoad file history register value := by
  rw [ofHistory, get?_follow_eq_some]
  simp [empty, get?]

theorem get?_ofHistory_eq_none {file : File} {history : List Site} {register : UInt8} :
    (ofHistory file history).get? register = none ↔ NeverLoaded file history register := by
  rw [neverLoaded_iff, Option.eq_none_iff_forall_ne_some]
  simp only [ne_eq, get?_ofHistory_eq_some]

theorem knownAs_iff {file : File} {history : List Site} {register : UInt8} {value : RegisterValue} :
    KnownAs file history register value ↔ (ofHistory file history).value register = value := by
  rw [KnownAs, ← get?_ofHistory_eq_some, ← get?_ofHistory_eq_none, Registers.value]
  cases (ofHistory file history).get? register with
  | none => simp [eq_comm]
  | some held => simp

theorem emit?_ofHistory_eq_some {file : File} {history : List Site} {site : Site}
    {expression : Expression} :
    (ofHistory file history).emit? file site.instruction = some expression ↔
      Reported file history site expression := by
  rw [emit?_eq_some_iff]
  constructor
  · rintro ⟨kind, receiver, args, method, signature, hcall, hresolve, rfl, hsignificant⟩
    exact ⟨receiver, args, method, signature, (ofHistory file history).value,
      Site.calls_iff.mpr ⟨kind, hcall⟩, hresolve, fun _ => knownAs_iff.mpr rfl, text_callValue _ _ _ _,
      rfl, rfl, rfl, hsignificant⟩
  · rintro ⟨receiver, args, method, signature, value, hcalls, hresolve, hknown, htext, htype,
      hmethod, hsignature, hsignificant⟩
    obtain ⟨kind, hcall⟩ := Site.calls_iff.mp hcalls
    have hvalue : value = (ofHistory file history).value := by
      funext register
      exact (knownAs_iff.mp (hknown register)).symm
    refine ⟨kind, receiver, args, method, signature, hcall, hresolve, ?_, hsignificant⟩
    rw [hvalue, ← text_callValue] at htext
    cases expression
    simp only at htext htype hmethod hsignature
    rw [htext, htype, hmethod, hsignature]
    rfl

/-! ## Runs -/

/-- Going on from a history reports the calls that follow. -/
theorem reports_follow (file : File) (history rest : List Site) :
    Reports file history rest
      ((ofHistory file history).follow file (rest.map Site.instruction)).2 := by
  induction rest generalizing history with
  | nil => exact .nil history
  | cons site rest ih =>
      have hnext : ofHistory file (history ++ [site]) =
          (ofHistory file history).step file site.instruction :=
        ofHistory_append file history [site]
      have hrest := ih (history ++ [site])
      rw [hnext] at hrest
      rw [List.map_cons, follow]
      dsimp only
      cases hemit : (ofHistory file history).emit? file site.instruction with
      | none =>
          refine .silent (fun expression hreported => ?_) hrest
          rw [← emit?_ofHistory_eq_some, hemit] at hreported
          cases hreported
      | some expression => exact .reported (emit?_ofHistory_eq_some.mp hemit) hrest

/-- The registers after several methods. -/
def afterRuns (file : File) (registers : Registers) (runs : List (List UInt16)) : Registers :=
  runs.foldl (fun registers words => (registers.run file words).1) registers

theorem afterRuns_eq (file : File) (registers : Registers) (runs : List (List UInt16)) :
    registers.afterRuns file runs =
      (registers.follow file ((runs.flatMap Site.sites).map Site.instruction)).1 := by
  induction runs generalizing registers with
  | nil => rfl
  | cons words rest ih =>
      rw [List.flatMap_cons, List.map_append, follow_append, Site.map_instruction_sites, afterRuns,
        List.foldl_cons]
      exact ih (registers.run file words).1

theorem getElem?_runAll (file : File) (registers : Registers) (earlier later : List (List UInt16))
    (words : List UInt16) :
    (runAll file registers (earlier ++ words :: later))[earlier.length]? =
      some ((registers.afterRuns file earlier).run file words).2 := by
  induction earlier generalizing registers with
  | nil => rfl
  | cons first rest ih => exact ih (registers.run file first).1

/-- The registers in a run that follows earlier ones, after so many of its instructions. -/
def atMoment (file : File) (earlier : List (List UInt16)) (words : List UInt16) (moment : Nat) :
    Registers :=
  ((empty.afterRuns file earlier).follow file ((decode words).take moment)).1

theorem atMoment_eq (file : File) (earlier : List (List UInt16)) (words : List UInt16)
    (moment : Nat) :
    atMoment file earlier words moment =
      ofHistory file (earlier.flatMap Site.sites ++ (Site.sites words).take moment) := by
  rw [ofHistory_append, List.map_take, Site.map_instruction_sites, atMoment, afterRuns_eq]
  rfl

end Registers

/-- Several methods are run one after the other. At every moment of a run each register holds the
value of the last load into it, in this method or an earlier one, and nothing if there was none; and
the run answers with the expressions of its reported calls, in order. -/
theorem runs_follow_loads (file : File) (earlier later : List (List UInt16)) (words : List UInt16) :
    (∀ moment register value,
      (Registers.atMoment file earlier words moment).get? register = some value ↔
        LastLoad file (earlier.flatMap Site.sites ++ (Site.sites words).take moment) register
          value) ∧
      (∀ moment register,
        (Registers.atMoment file earlier words moment).get? register = none ↔
          NeverLoaded file (earlier.flatMap Site.sites ++ (Site.sites words).take moment)
            register) ∧
      ∃ expressions,
        (Registers.empty.runAll file (earlier ++ words :: later))[earlier.length]? =
            some expressions ∧
          Reports file (earlier.flatMap Site.sites) (Site.sites words) expressions := by
  refine ⟨fun moment register value => ?_, fun moment register => ?_, _,
    Registers.getElem?_runAll file Registers.empty earlier later words, ?_⟩
  · rw [Registers.atMoment_eq, Registers.get?_ofHistory_eq_some]
  · rw [Registers.atMoment_eq, Registers.get?_ofHistory_eq_none]
  · have hreports := Registers.reports_follow file (earlier.flatMap Site.sites) (Site.sites words)
    rw [Site.map_instruction_sites] at hreports
    rw [Registers.afterRuns_eq]
    exact hreports

/-- The header of a file with one method. -/
def pageHeader : Header where
  magic := Header.mark
  version := [0x30, 0x33, 0x35, 0]
  checksum := 0
  signature := List.replicate 20 0
  fileSize := 172
  headerSize := 0x70
  endianTag := 0x12345678
  link := ⟨0, 0⟩
  mapOffset := 0
  strings := ⟨3, 112⟩
  types := ⟨2, 124⟩
  protos := ⟨1, 132⟩
  fields := ⟨0, 0⟩
  methods := ⟨1, 144⟩
  classes := ⟨0, 0⟩
  data := ⟨20, 152⟩

/-- A file whose one method loads a page into a web view. -/
def pageFile : File where
  header := pageHeader
  image := (List.flatten [
    pageHeader.bytes,
    dwordBytes 152, dwordBytes 163, dwordBytes 166,
    dwordBytes 0, dwordBytes 1,
    dwordBytes 1, dwordBytes 1, dwordBytes 0,
    MethodRef.bytes ⟨0, 0, 2⟩,
    varintBytes 9, Utf8.encode "LWebView;", [0],
    varintBytes 1, Utf8.encode "V", [0],
    varintBytes 4, Utf8.encode "load", [0]]).toArray

/-- One method loads a number into register zero, and the next one calls the web view on that register: the
number is still there, and the call is reported with it. -/
theorem load_kept_and_call_reported :
    let reported : List Expression :=
      [{ text := "true.load()", valueType := "void", isMethodCall := true
         signature := some "WebView.load(): void" }]
    File.ofImage pageFile.image = .ok pageFile ∧
      LastLoad pageFile (Site.sites [0x1012]) 0 (.int 1) ∧
      (Registers.empty.runAll pageFile [[0x1012], [0x106E, 0, 0]])[1]? = some reported ∧
      Reports pageFile (Site.sites [0x1012]) (Site.sites [0x106E, 0, 0]) reported := by
  intro reported
  obtain ⟨hholds, -, expressions, hrun, hreports⟩ :=
    runs_follow_loads pageFile [[0x1012]] [] [0x106E, 0, 0]
  have hload : decode [0x1012] = [.load .nibble 0 1] := by decide +kernel
  have hcall : decode [0x106E, 0, 0] = [.call .virtual [0] 0] := by decide +kernel
  have hanswer : (Registers.empty.runAll pageFile [[0x1012], [0x106E, 0, 0]])[1]? = some reported := by
    simp only [Registers.runAll, Registers.run, hload, hcall]
    decide +kernel
  have hheld : (Registers.atMoment pageFile [[0x1012]] [0x106E, 0, 0] 0).get? 0 = some (.int 1) := by
    simp only [Registers.atMoment, Registers.afterRuns, Registers.run, List.foldl_cons, hload]
    rfl
  obtain rfl : expressions = reported := Option.some.inj (hrun.symm.trans hanswer)
  refine ⟨ofImage_eq rfl rfl rfl rfl (by decide +kernel), ?_, hanswer, ?_⟩
  · simpa using (hholds 0 0 (.int 1)).mp hheld
  · simpa using hreports

end AppSurvey.Dex
