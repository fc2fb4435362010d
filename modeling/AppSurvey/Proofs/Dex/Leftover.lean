import AppSurvey.Proofs.Dex.ClassData
import AppSurvey.Proofs.Dex.Report
import AppSurvey.Proofs.Dex.Resolution

/-!
# What an earlier method leaves behind

The outline of a class follows each of its methods from unwritten registers. Running the same methods
one after the other keeps the registers, so a call may show a value that an earlier method has loaded.
The two answers for a method are compared: the kept registers can only put values in where the outline
has a question mark. So whatever the outline reports is reported again, and the answers are equal
exactly if no reported call shows such a value.
-/

namespace AppSurvey.Dex

open Instruction Text

/-! ## Texts with gaps -/

/-- One text is the other with something put in for some of its question marks. -/
inductive Fills : (gapped filled : List Char) → Prop
  | nil : Fills [] []
  | keep (c : Char) {gapped filled : List Char} (hrest : Fills gapped filled) :
      Fills (c :: gapped) (c :: filled)
  | put (part : List Char) {gapped filled : List Char} (hrest : Fills gapped filled) :
      Fills ('?' :: gapped) (part ++ filled)

namespace Fills

theorem refl (text : List Char) : Fills text text := by
  induction text with
  | nil => exact .nil
  | cons c rest ih => exact .keep c ih

theorem append {first filledFirst second filledSecond : List Char}
    (hfirst : Fills first filledFirst) (hsecond : Fills second filledSecond) :
    Fills (first ++ second) (filledFirst ++ filledSecond) := by
  induction hfirst with
  | nil => exact hsecond
  | keep c _ ih => exact .keep c ih
  | put part _ ih =>
      rw [List.append_assoc]
      exact .put part ih

theorem split {first second filled : List Char} (hfills : Fills (first ++ second) filled) :
    ∃ filledFirst filledSecond, filled = filledFirst ++ filledSecond ∧
      Fills first filledFirst ∧ Fills second filledSecond := by
  induction first generalizing filled with
  | nil => exact ⟨[], filled, rfl, .nil, hfills⟩
  | cons c rest ih =>
      cases hfills with
      | keep _ hrest =>
          obtain ⟨filledFirst, filledSecond, rfl, hfirst, hsecond⟩ := ih hrest
          exact ⟨c :: filledFirst, filledSecond, rfl, .keep c hfirst, hsecond⟩
      | put part hrest =>
          obtain ⟨filledFirst, filledSecond, rfl, hfirst, hsecond⟩ := ih hrest
          exact ⟨part ++ filledFirst, filledSecond, (List.append_assoc ..).symm, .put part hfirst,
            hsecond⟩

theorem eq_of_notMem {gapped filled : List Char} (hfills : Fills gapped filled)
    (hgap : '?' ∉ gapped) : filled = gapped := by
  induction hfills with
  | nil => rfl
  | keep c _ ih => rw [ih fun hmem => hgap (List.mem_cons_of_mem c hmem)]
  | put part _ ih => exact absurd List.mem_cons_self hgap

/-- What stands in a text outside its question marks stays when they are filled. -/
theorem infix_of_infix {part gapped filled : List Char} (hfills : Fills gapped filled)
    (hgap : '?' ∉ part) (hpart : part <:+: gapped) : part <:+: filled := by
  obtain ⟨before, after, rfl⟩ := hpart
  obtain ⟨front, filledAfter, rfl, hfront, -⟩ := hfills.split
  obtain ⟨filledBefore, filledPart, rfl, -, hfilled⟩ := hfront.split
  rw [hfilled.eq_of_notMem hgap]
  exact ⟨filledBefore, filledAfter, rfl⟩

end Fills

/-! ## The text of a call -/

theorem append_inj_of_length_le {first other second rest : String}
    (heq : first ++ second = other ++ rest) (hfirst : first.length ≤ other.length)
    (hsecond : second.length ≤ rest.length) : first = other ∧ second = rest := by
  have hlength := congrArg String.length heq
  rw [String.length_append, String.length_append] at hlength
  have hchars := congrArg String.toList heq
  rw [String.toList_append, String.toList_append] at hchars
  obtain ⟨hfirstChars, hsecondChars⟩ := List.append_inj hchars (by
    rw [String.length_toList, String.length_toList]
    omega)
  exact ⟨String.toList_inj.mp hfirstChars, String.toList_inj.mp hsecondChars⟩

section Lists

variable {α : Type} {items : List α} {gapped filled : α → String}

theorem fills_commaList (hitems : ∀ item ∈ items, Fills (gapped item).toList (filled item).toList) :
    Fills (commaList (items.map gapped)).toList (commaList (items.map filled)).toList := by
  induction items with
  | nil => exact .refl _
  | cons first rest ih =>
      obtain ⟨hfirst, hrest⟩ := List.forall_mem_cons.mp hitems
      cases rest with
      | nil => simpa [commaList, String.intercalate_singleton] using hfirst
      | cons second rest =>
          simp only [commaList, List.map_cons, String.intercalate_cons_cons,
            String.toList_append] at ih ⊢
          exact (hfirst.append (.refl _)).append (ih hrest)

theorem length_commaList_le (hitems : ∀ item ∈ items, (gapped item).length ≤ (filled item).length) :
    (commaList (items.map gapped)).length ≤ (commaList (items.map filled)).length := by
  induction items with
  | nil => exact Nat.le_refl _
  | cons first rest ih =>
      obtain ⟨hfirst, hrest⟩ := List.forall_mem_cons.mp hitems
      cases rest with
      | nil => simpa [commaList, String.intercalate_singleton] using hfirst
      | cons second rest =>
          have hlength := ih hrest
          simp only [commaList, List.map_cons, String.intercalate_cons_cons,
            String.length_append] at hlength ⊢
          omega

/-- Lists of items of which none gets shorter are written alike only if all items are. -/
theorem eq_of_commaList_eq (hitems : ∀ item ∈ items, (gapped item).length ≤ (filled item).length)
    (heq : commaList (items.map gapped) = commaList (items.map filled)) :
    ∀ item ∈ items, gapped item = filled item := by
  induction items with
  | nil => exact fun _ hitem => absurd hitem List.not_mem_nil
  | cons first rest ih =>
      obtain ⟨hfirst, hrest⟩ := List.forall_mem_cons.mp hitems
      rw [List.forall_mem_cons]
      cases rest with
      | nil =>
          refine ⟨?_, fun _ hitem => absurd hitem List.not_mem_nil⟩
          simpa [commaList, String.intercalate_singleton] using heq
      | cons second rest =>
          have hlength := length_commaList_le hrest
          simp only [commaList, List.map_cons, String.intercalate_cons_cons,
            String.append_assoc] at heq ih hlength
          obtain ⟨hhead, htail⟩ := append_inj_of_length_le heq hfirst (by
            rw [String.length_append, String.length_append]
            omega)
          exact ⟨hhead, ih hrest ((String.append_right_inj _).mp htail)⟩

end Lists

/-- Filling the texts of the operands fills the text of the call. -/
theorem fills_callText {receiver : UInt8} {args : List UInt8} {gapped filled : UInt8 → RegisterValue}
    (hvalues : ∀ register ∈ receiver :: args,
      Fills (gapped register).text.toList (filled register).text.toList) (name : String) :
    Fills (callText (gapped receiver) name (args.map gapped)).toList
      (callText (filled receiver) name (args.map filled)).toList := by
  obtain ⟨hreceiver, hargs⟩ := List.forall_mem_cons.mp hvalues
  have hlist : Fills (commaList (args.map fun register => (gapped register).text)).toList
      (commaList (args.map fun register => (filled register).text)).toList :=
    fills_commaList hargs
  simp only [callText, List.map_map, String.toList_append]
  exact ((((hreceiver.append (.refl _)).append (.refl _)).append (.refl _)).append hlist).append
    (.refl _)

theorem text_eq_of_callText_eq {receiver : UInt8} {args : List UInt8}
    {gapped filled : UInt8 → RegisterValue} {name : String}
    (hvalues : ∀ register ∈ receiver :: args,
      (gapped register).text.length ≤ (filled register).text.length)
    (heq : callText (gapped receiver) name (args.map gapped) =
      callText (filled receiver) name (args.map filled)) :
    ∀ register ∈ receiver :: args, (gapped register).text = (filled register).text := by
  obtain ⟨hreceiver, hargs⟩ := List.forall_mem_cons.mp hvalues
  have hlist : (commaList (args.map fun register => (gapped register).text)).length ≤
      (commaList (args.map fun register => (filled register).text)).length :=
    length_commaList_le hargs
  simp only [callText, List.map_map, String.append_assoc] at heq
  obtain ⟨hobject, hrest⟩ := append_inj_of_length_le heq hreceiver (by
    simp only [String.length_append, Function.comp_def]
    omega)
  -- What stands in front of the list and behind it is the same on both sides.
  have hcommas := (String.append_left_inj _).mp ((String.append_right_inj _).mp
    ((String.append_right_inj _).mp ((String.append_right_inj _).mp hrest)))
  exact List.forall_mem_cons.mpr ⟨hobject, eq_of_commaList_eq hargs hcommas⟩

/-! ## What loads leave behind -/

theorem toList_toString_int (value : Int) :
    ∃ c rest, (toString value).toList = c :: rest ∧ c ≠ '?' := by
  rw [Int.toString_eq_repr, Int.repr_eq_if]
  split
  next =>
    rw [Nat.repr_eq_ofList_toDigits, String.toList_ofList]
    cases hdigits : Nat.toDigits 10 value.toNat with
    | nil => exact absurd hdigits Nat.toDigits_ne_nil
    | cons c rest =>
        have hmem : c ∈ Nat.toDigits 10 value.toNat := hdigits ▸ List.mem_cons_self
        have hdigit := Nat.isDigit_of_mem_toDigits (by decide) (by decide) hmem
        refine ⟨c, rest, rfl, ?_⟩
        rintro rfl
        exact absurd hdigit (by decide)
  next => exact ⟨'-', _, String.toList_append, by decide⟩

/-- A value that was loaded and is known is not written as a question mark, nor as nothing. -/
theorem Site.Loads.toList_text {file : File} {site : Site} {register : UInt8} {value : RegisterValue}
    (hloads : site.Loads file register value) :
    value = .unknown ∨ ∃ c rest, value.text.toList = c :: rest ∧ c ≠ '?' := by
  have hint (number : Int) :
      ∃ c rest, (RegisterValue.int number).text.toList = c :: rest ∧ c ≠ '?' := by
    rw [RegisterValue.text]
    split
    next => exact ⟨'f', _, rfl, by decide⟩
    next =>
      split
      next => exact ⟨'t', _, rfl, by decide⟩
      next => exact toList_toString_int number
  cases hloads with
  | nibble => exact .inr (hint _)
  | half => exact .inr (hint _)
  | full => exact .inr (hint _)
  | @text content =>
      refine .inr ⟨'"', (content ++ "\"").toList, ?_, by decide⟩
      rw [RegisterValue.text, String.append_assoc, String.toList_append]
      rfl
  | noText => exact .inl rfl

/-- The registers that a call lists. -/
def Instruction.listed : Instruction → List UInt8
  | .call _ args _ => args
  | _ => []

/-- The call shows a value that an earlier method has left behind: it is reported, and the last load
into one of its operands was in an earlier method, and of a known value. -/
def ShowsLeftover (file : File) (earlier before : List Site) (site : Site) : Prop :=
  ∃ expression register value, Reported file (earlier ++ before) site expression ∧
    register ∈ site.instruction.listed ∧ NeverLoaded file before register ∧
    LastLoad file earlier register value ∧ value ≠ .unknown

theorem Significant.of_fills {signature : Signature} {text filled : String}
    (hsignificant : Significant signature text) (hfills : Fills text.toList filled.toList) :
    Significant signature filled := by
  rcases hsignificant with hscripts | ⟨name, hname, hclass | htext⟩
  · exact .inl hscripts
  · exact .inr ⟨name, hname, .inl hclass⟩
  · have hgap : '?' ∉ name.toList := by
      rcases List.mem_cons.mp hname with rfl | hname
      · decide
      · rw [List.mem_singleton.mp hname]
        decide
    exact .inr ⟨name, hname, .inr (hfills.infix_of_infix hgap htext)⟩

namespace Registers

section Histories

variable {file : File} {earlier before : List Site} {register : UInt8}

theorem get?_ofHistory_append_of_never (hnever : NeverLoaded file before register) :
    (ofHistory file (earlier ++ before)).get? register = (ofHistory file earlier).get? register := by
  ext value
  rw [ofHistory_append, get?_follow_eq_some]
  constructor
  · rintro (hlast | ⟨-, hheld⟩)
    · exact absurd hlast (neverLoaded_iff.mp hnever value)
    · exact hheld
  · exact fun hheld => .inr ⟨hnever, hheld⟩

theorem get?_ofHistory_append_of_loaded (hloaded : ¬ NeverLoaded file before register) :
    (ofHistory file (earlier ++ before)).get? register = (ofHistory file before).get? register := by
  ext value
  rw [ofHistory_append, get?_follow_eq_some]
  simp only [get?_ofHistory_eq_some]
  constructor
  · rintro (hlast | ⟨hnever, -⟩)
    · exact hlast
    · exact absurd hnever hloaded
  · exact .inl

theorem value_ofHistory_of_never (hnever : NeverLoaded file before register) :
    (ofHistory file before).value register = .unknown := by
  rw [value, get?_ofHistory_eq_none.mpr hnever]
  rfl

theorem value_ofHistory_of_lastLoad {loaded : RegisterValue}
    (hlast : LastLoad file before register loaded) :
    (ofHistory file before).value register = loaded := by
  rw [value, get?_ofHistory_eq_some.mpr hlast]
  rfl

theorem toList_text_ofHistory (file : File) (history : List Site) (register : UInt8) :
    (ofHistory file history).value register = .unknown ∨
      ∃ c rest, ((ofHistory file history).value register).text.toList = c :: rest ∧ c ≠ '?' := by
  by_cases hnever : NeverLoaded file history register
  · exact .inl (value_ofHistory_of_never hnever)
  · rw [neverLoaded_iff, not_forall_not] at hnever
    obtain ⟨loaded, hlast⟩ := hnever
    rw [value_ofHistory_of_lastLoad hlast]
    obtain ⟨_, site, _, _, hloads, -⟩ := hlast
    exact hloads.toList_text

/-- Earlier methods only put values in where the method itself knows none. -/
theorem value_ofHistory_append (file : File) (earlier before : List Site) (register : UInt8) :
    (ofHistory file (earlier ++ before)).value register = (ofHistory file before).value register ∨
      NeverLoaded file before register ∧ (ofHistory file before).value register = .unknown ∧
        (ofHistory file (earlier ++ before)).value register =
          (ofHistory file earlier).value register := by
  by_cases hnever : NeverLoaded file before register
  · refine .inr ⟨hnever, value_ofHistory_of_never hnever, ?_⟩
    rw [value, get?_ofHistory_append_of_never hnever]
    rfl
  · refine .inl ?_
    rw [value, get?_ofHistory_append_of_loaded hnever]
    rfl

end Histories

/-! ## One call after earlier methods -/

section Calls

variable {file : File} {earlier before : List Site}

theorem fills_ofHistory_append (file : File) (earlier before : List Site) (register : UInt8) :
    Fills ((ofHistory file before).value register).text.toList
      ((ofHistory file (earlier ++ before)).value register).text.toList := by
  rcases value_ofHistory_append file earlier before register with hsame | ⟨-, hunknown, -⟩
  · rw [hsame]
    exact .refl _
  · rw [hunknown, ← List.append_nil ((ofHistory file (earlier ++ before)).value register).text.toList]
    exact .put _ .nil

theorem length_text_ofHistory_append (file : File) (earlier before : List Site) (register : UInt8) :
    ((ofHistory file before).value register).text.length ≤
      ((ofHistory file (earlier ++ before)).value register).text.length := by
  rcases value_ofHistory_append file earlier before register with hsame | ⟨-, hunknown, -⟩
  · rw [hsame]
  · rw [hunknown]
    -- A question mark is one character, and no value is written as nothing.
    rcases toList_text_ofHistory file (earlier ++ before) register with hgap | ⟨c, rest, htext, -⟩
    · rw [hgap]
    · rw [← String.length_toList, ← String.length_toList, htext]
      exact Nat.succ_le_succ (Nat.zero_le _)

/-- What a method reports on its own it reports after other methods, too. -/
theorem emit?_append_isSome {instruction : Instruction} {expression : Expression}
    (hemit : (ofHistory file before).emit? file instruction = some expression)
    (earlier : List Site) :
    ∃ other, (ofHistory file (earlier ++ before)).emit? file instruction = some other := by
  obtain ⟨kind, receiver, args, method, signature, rfl, hresolve, rfl, hsignificant⟩ :=
    emit?_eq_some_iff.mp hemit
  refine ⟨_, emit?_eq_some_iff.mpr
    ⟨kind, receiver, args, method, signature, rfl, hresolve, rfl, hsignificant.of_fills ?_⟩⟩
  simp only [callExpression, text_callValue]
  exact fills_callText (fun register _ => fills_ofHistory_append file earlier before register) _

theorem value_append_ne_iff {register : UInt8} :
    (ofHistory file (earlier ++ before)).value register ≠ (ofHistory file before).value register ↔
      NeverLoaded file before register ∧
        ∃ loaded, LastLoad file earlier register loaded ∧ loaded ≠ .unknown := by
  constructor
  · intro hdifferent
    rcases value_ofHistory_append file earlier before register with hsame | ⟨hnever, hgap, hkept⟩
    · exact absurd hsame hdifferent
    · rw [hgap, hkept] at hdifferent
      refine ⟨hnever, (ofHistory file earlier).value register, ?_, hdifferent⟩
      -- A register that no earlier method has loaded would be unknown after them.
      rcases knownAs_iff.mpr (Eq.refl ((ofHistory file earlier).value register)) with
        hlast | ⟨-, hunknown⟩
      · exact hlast
      · exact absurd hunknown hdifferent
  · rintro ⟨hnever, loaded, hlast, hknown⟩ hsame
    rw [value_ofHistory_of_never hnever, value, get?_ofHistory_append_of_never hnever, ← value,
      value_ofHistory_of_lastLoad hlast] at hsame
    exact hknown hsame

/-- The expression of a call tells apart the values its operands have with and without the earlier
methods. -/
theorem callExpression_append_eq_iff {signature : Signature} {receiver : UInt8} {args : List UInt8} :
    (ofHistory file (earlier ++ before)).callExpression signature receiver args =
        (ofHistory file before).callExpression signature receiver args ↔
      ∀ register ∈ receiver :: args,
        (ofHistory file (earlier ++ before)).value register =
          (ofHistory file before).value register := by
  constructor
  · intro heq register hregister
    have htexts := congrArg Expression.text heq
    simp only [callExpression, text_callValue] at htexts
    have htext := text_eq_of_callText_eq
      (fun register _ => length_text_ofHistory_append file earlier before register) htexts.symm
      register hregister
    rcases value_ofHistory_append file earlier before register with hsame | ⟨-, hgap, -⟩
    · exact hsame
    · rw [hgap] at htext ⊢
      rcases toList_text_ofHistory file (earlier ++ before) register with
        hunknown | ⟨c, rest, hchars, hc⟩
      · exact hunknown
      · rw [← htext] at hchars
        exact absurd (List.cons.inj hchars).1.symm hc
  · intro hvalues
    obtain ⟨hreceiver, hargs⟩ := List.forall_mem_cons.mp hvalues
    simp only [callExpression, callValue, hreceiver, List.map_congr_left hargs]

/-- Earlier methods change what a call reports exactly if it shows what they have left behind. -/
theorem emit?_append_eq_iff {site : Site} :
    (ofHistory file (earlier ++ before)).emit? file site.instruction =
        (ofHistory file before).emit? file site.instruction ↔
      ¬ ShowsLeftover file earlier before site := by
  constructor
  · rintro heq ⟨expression, register, loaded, hreported, hlisted, hnever, hlast, hknown⟩
    rw [← emit?_ofHistory_eq_some] at hreported
    rw [hreported] at heq
    obtain ⟨kind, receiver, args, method, signature, hcall, hresolve, rfl, -⟩ :=
      emit?_eq_some_iff.mp hreported
    obtain ⟨_, _, _, _, other, hsame, hother, hexpression, -⟩ := emit?_eq_some_iff.mp heq.symm
    rw [hcall] at hlisted hsame
    obtain ⟨-, hargs, rfl⟩ := Instruction.call.inj hsame
    obtain ⟨rfl, rfl⟩ := List.cons.inj hargs
    obtain rfl : signature = other := Except.ok.inj (hresolve.symm.trans hother)
    exact value_append_ne_iff.mpr ⟨hnever, loaded, hlast, hknown⟩
      (callExpression_append_eq_iff.mp hexpression register hlisted)
  · intro hnone
    cases hemit : (ofHistory file (earlier ++ before)).emit? file site.instruction with
    | none =>
        cases halone : (ofHistory file before).emit? file site.instruction with
        | none => rfl
        | some expression =>
            obtain ⟨other, hother⟩ := emit?_append_isSome halone earlier
            rw [hemit] at hother
            cases hother
    | some expression =>
        obtain ⟨kind, receiver, args, method, signature, hcall, hresolve, rfl, hsignificant⟩ :=
          emit?_eq_some_iff.mp hemit
        have hvalues : ∀ register ∈ receiver :: args,
            (ofHistory file (earlier ++ before)).value register =
              (ofHistory file before).value register := by
          intro register hregister
          by_contra hdifferent
          obtain ⟨hnever, loaded, hlast, hknown⟩ := value_append_ne_iff.mp hdifferent
          refine hnone ⟨_, register, loaded, emit?_ofHistory_eq_some.mp hemit, ?_, hnever, hlast,
            hknown⟩
          rw [hcall]
          exact hregister
        rw [callExpression_append_eq_iff.mpr hvalues] at hsignificant ⊢
        exact (emit?_eq_some_iff.mpr
          ⟨kind, receiver, args, method, signature, hcall, hresolve, rfl, hsignificant⟩).symm

end Calls

/-! ## Methods after earlier methods -/

theorem follow_ofHistory_cons (file : File) (history : List Site) (site : Site) (rest : List Site) :
    ((ofHistory file history).follow file ((site :: rest).map Site.instruction)).2 =
      ((ofHistory file history).emit? file site.instruction).toList ++
        ((ofHistory file (history ++ [site])).follow file (rest.map Site.instruction)).2 := by
  rw [ofHistory_append]
  rfl

theorem length_follow_append_le (file : File) (earlier before rest : List Site) :
    ((ofHistory file before).follow file (rest.map Site.instruction)).2.length ≤
      ((ofHistory file (earlier ++ before)).follow file (rest.map Site.instruction)).2.length := by
  induction rest generalizing before with
  | nil => exact Nat.le_refl _
  | cons site rest ih =>
      have hrest := ih (before ++ [site])
      rw [follow_ofHistory_cons, follow_ofHistory_cons, List.length_append, List.length_append,
        List.append_assoc]
      cases hemit : (ofHistory file before).emit? file site.instruction with
      | none =>
          rw [Option.toList_none, List.length_nil]
          omega
      | some expression =>
          obtain ⟨other, hother⟩ := emit?_append_isSome hemit earlier
          rw [hother, Option.toList_some, Option.toList_some, List.length_singleton,
            List.length_singleton]
          omega

theorem toList_append_eq_iff {α : Type} {first other : Option α} {rest more : List α}
    (hfirst : other.isSome → first.isSome) (hlength : more.length ≤ rest.length) :
    first.toList ++ rest = other.toList ++ more ↔ first = other ∧ rest = more := by
  cases first with
  | none =>
      cases other with
      | none => simp
      | some value => exact absurd (hfirst rfl) (by simp)
  | some value =>
      cases other with
      | none =>
          constructor
          · intro heq
            have hlengths := congrArg List.length heq
            simp at hlengths
            omega
          · simp
      | some _ => simp

/-- A method answers the same after earlier methods exactly if none of its calls shows what they have
left behind. The expressions correspond call by call, because none is lost. -/
theorem follow_append_eq_iff (file : File) (earlier before rest : List Site) :
    ((ofHistory file (earlier ++ before)).follow file (rest.map Site.instruction)).2 =
        ((ofHistory file before).follow file (rest.map Site.instruction)).2 ↔
      ∀ middle site after, rest = middle ++ site :: after →
        ¬ ShowsLeftover file earlier (before ++ middle) site := by
  induction rest generalizing before with
  | nil => simp [follow]
  | cons site rest ih =>
      have hsome : ((ofHistory file before).emit? file site.instruction).isSome →
          ((ofHistory file (earlier ++ before)).emit? file site.instruction).isSome := by
        intro halone
        obtain ⟨expression, hemit⟩ := Option.isSome_iff_exists.mp halone
        exact Option.isSome_iff_exists.mpr (emit?_append_isSome hemit earlier)
      have hlength := length_follow_append_le file earlier (before ++ [site]) rest
      rw [← List.append_assoc] at hlength
      rw [follow_ofHistory_cons, follow_ofHistory_cons, toList_append_eq_iff hsome hlength,
        emit?_append_eq_iff, List.append_assoc, ih]
      constructor
      · rintro ⟨hsite, hrest⟩ middle other after hsplit
        rcases List.cons_eq_append_iff.mp hsplit with ⟨rfl, htail⟩ | ⟨front, rfl, hfront⟩
        · obtain ⟨rfl, rfl⟩ := List.cons.inj htail
          rwa [List.append_nil]
        · have hlater := hrest front other after hfront
          rwa [List.append_assoc] at hlater
      · intro hall
        refine ⟨?_, fun middle other after hsplit => ?_⟩
        · have hfirst := hall [] site rest rfl
          rwa [List.append_nil] at hfirst
        · rw [List.append_assoc]
          exact hall (site :: middle) other after (congrArg (site :: ·) hsplit)

end Registers

/-! ## The outline of a class -/

namespace File

/-- The methods that a class declares; none where its members cannot be read. -/
def declaredMethods (file : File) (definition : ClassDef) : List MethodEntry :=
  ((file.classData definition.classData.toNat).toOption.getD {}).methods

/-- A class whose name can be read has an outline. -/
theorem exists_outline {file : File} {definition : ClassDef} {className : String}
    (hname : file.typeName definition.type.toNat = .ok className) :
    ∃ outline, file.outline definition = .ok outline := by
  simp only [File.outline, bind_eq_ok_iff, pure_eq_ok_iff]
  exact ⟨_, className, hname, rfl⟩

theorem mem_methods_of_outline {file : File} {definition : ClassDef} {outline : ClassOutline}
    (houtline : file.outline definition = .ok outline) {entry : MethodEntry}
    (hentry : entry ∈ file.declaredMethods definition) {method : MethodOutline}
    (hmethod : file.outlineMethod entry = .ok method) : method ∈ outline.methods := by
  simp only [File.outline, bind_eq_ok_iff, pure_eq_ok_iff] at houtline
  obtain ⟨className, -, rfl⟩ := houtline
  exact List.mem_filterMap.mpr ⟨entry, hentry, by rw [hmethod]; rfl⟩

theorem expressions_outlineMethod {file : File} {entry : MethodEntry} {method : MethodOutline}
    (hmethod : file.outlineMethod entry = .ok method) :
    method.expressions = (Registers.empty.run file (file.readableCode entry)).2 := by
  obtain ⟨ref, name, parameters, returnType, -, -, rfl⟩ := outlineMethod_eq_ok_iff.mp hmethod
  rfl

/-- The places of the instructions of a method. -/
def sitesOf (file : File) (entry : MethodEntry) : List Site :=
  Site.sites (file.readableCode entry)

end File

/-- Methods are run one after the other, in any order. For a method that the outline of its class
lists, the answer is the one of the outline exactly if none of its calls shows a value that the methods
before it have left in a register. -/
theorem answer_eq_outline_iff_no_leftover {file : File} {definition : ClassDef}
    {outline : ClassOutline} (houtline : file.outline definition = .ok outline)
    {entry : MethodEntry} (hentry : entry ∈ file.declaredMethods definition)
    {method : MethodOutline} (hmethod : file.outlineMethod entry = .ok method)
    (earlier later : List MethodEntry) :
    method ∈ outline.methods ∧
      ((Registers.empty.runAll file
          ((earlier ++ entry :: later).map file.readableCode))[earlier.length]? =
            some method.expressions ↔
        ∀ before site after, file.sitesOf entry = before ++ site :: after →
          ¬ ShowsLeftover file (earlier.flatMap file.sitesOf) before site) := by
  refine ⟨File.mem_methods_of_outline houtline hentry hmethod, ?_⟩
  have hanswer := Registers.getElem?_runAll file Registers.empty (earlier.map file.readableCode)
    (later.map file.readableCode) (file.readableCode entry)
  rw [List.length_map] at hanswer
  rw [List.map_append, List.map_cons, hanswer, Option.some.injEq, Registers.afterRuns_eq,
    List.flatMap_map, File.expressions_outlineMethod hmethod]
  have hcompare := Registers.follow_append_eq_iff file (earlier.flatMap file.sitesOf) []
    (file.sitesOf entry)
  rw [File.sitesOf, Site.map_instruction_sites, List.append_nil] at hcompare
  exact hcompare

/-- The header of a file with a class of two methods. -/
def setShowHeader : Header where
  magic := Header.mark
  version := [0x30, 0x33, 0x35, 0]
  checksum := 0
  signature := List.replicate 20 0
  fileSize := 311
  headerSize := 0x70
  endianTag := 0x12345678
  link := ⟨0, 0⟩
  mapOffset := 0
  strings := ⟨6, 112⟩
  types := ⟨3, 136⟩
  protos := ⟨1, 148⟩
  fields := ⟨0, 0⟩
  methods := ⟨3, 160⟩
  classes := ⟨1, 184⟩
  data := ⟨95, 216⟩

/-- The class, with two direct methods. -/
def setShowClass : ClassDef := ⟨0, 1, 0xFFFFFFFF, 0, 0xFFFFFFFF, 0, 216, 0⟩

/-- The method that loads one into register zero. -/
def setEntry : MethodEntry := ⟨0, 1, 228⟩

/-- The method that calls the web view in register zero, which it has not loaded. -/
def showEntry : MethodEntry := ⟨1, 1, 248⟩

/-- A file whose class has these two methods. -/
def setShowFile : File where
  header := setShowHeader
  image := (List.flatten [
    setShowHeader.bytes,
    dwordBytes 272, dwordBytes 280, dwordBytes 291, dwordBytes 294, dwordBytes 300, dwordBytes 305,
    dwordBytes 0, dwordBytes 1, dwordBytes 2,
    dwordBytes 2, dwordBytes 2, dwordBytes 0,
    MethodRef.bytes ⟨0, 0, 4⟩, MethodRef.bytes ⟨0, 0, 5⟩, MethodRef.bytes ⟨1, 0, 3⟩,
    setShowClass.bytes,
    ClassData.bytes { directMethods := [setEntry, showEntry] },
    CodeItem.bytes ⟨1, 0, 0, 0, 0, [0x1012, 0x000E]⟩ 2,
    CodeItem.bytes ⟨1, 0, 1, 0, 0, [0x106E, 2, 0, 0x000E]⟩ 4,
    varintBytes 6, Utf8.encode "LPage;", [0],
    varintBytes 9, Utf8.encode "LWebView;", [0],
    varintBytes 1, Utf8.encode "V", [0],
    varintBytes 4, Utf8.encode "load", [0],
    varintBytes 3, Utf8.encode "set", [0],
    varintBytes 4, Utf8.encode "show", [0]]).toArray

/-- The outline has a question mark where the web view is called. So has the answer for the second
method if it comes first, but not after the first method. -/
theorem show_answers_otherwise_after_set :
    File.ofImage setShowFile.image = .ok setShowFile ∧
      setShowFile.classDef 0 = .ok setShowClass ∧
      ∃ outline method, setShowFile.outline setShowClass = .ok outline ∧ method ∈ outline.methods ∧
        setShowFile.outlineMethod showEntry = .ok method ∧
        method.expressions.map Expression.text = ["?.load()"] ∧
        (Registers.empty.runAll setShowFile
          ([showEntry, setEntry].map setShowFile.readableCode))[0]? = some method.expressions ∧
        (Registers.empty.runAll setShowFile
          ([setEntry, showEntry].map setShowFile.readableCode))[1]? ≠ some method.expressions := by
  have hopen : File.ofImage setShowFile.image = .ok setShowFile :=
    ofImage_eq rfl rfl rfl rfl (by decide +kernel)
  have hclass : setShowFile.classDef 0 = .ok setShowClass := by decide +kernel
  have hname : setShowFile.typeName setShowClass.type.toNat = .ok "Page" := by decide +kernel
  have hmethods : setShowFile.declaredMethods setShowClass = [setEntry, showEntry] := by
    decide +kernel
  have hresolve : setShowFile.resolve showEntry.method.toNat =
      .ok (Signature.make "Page" "show" [] "void") := by decide +kernel
  have hload : setShowFile.resolve (2 : UInt16).toNat =
      .ok (Signature.make "WebView" "load" [] "void") := by decide +kernel
  have hsetCode : setShowFile.readableCode setEntry = [0x1012, 0x000E] := by decide +kernel
  have hshowCode : setShowFile.readableCode showEntry = [0x106E, 2, 0, 0x000E] := by decide +kernel
  -- Both methods end with an instruction of one word, which loads nothing.
  have hreturn : Site.sites [0x000E] = [⟨0x000E, []⟩] := by
    rw [Site.sites, List.drop_nil, Site.sites]
  have hset : setShowFile.sitesOf setEntry = [⟨0x1012, [0x000E]⟩, ⟨0x000E, []⟩] := by
    rw [File.sitesOf, hsetCode, ← hreturn, Site.sites]
    rfl
  have hshow : setShowFile.sitesOf showEntry = [⟨0x106E, [2, 0, 0x000E]⟩, ⟨0x000E, []⟩] := by
    rw [File.sitesOf, hshowCode, ← hreturn, Site.sites]
    rfl
  obtain ⟨outline, houtline⟩ := File.exists_outline hname
  obtain ⟨ref, _, name, parameters, returnType, href, -, hdescribes, -⟩ :=
    File.resolve_eq_ok_iff.mp hresolve
  have hmethod : setShowFile.outlineMethod showEntry =
      .ok (setShowFile.outlineWith showEntry name parameters returnType) :=
    File.outlineMethod_eq_ok_iff.mpr ⟨ref, name, parameters, returnType, href, hdescribes, rfl⟩
  have hentry : showEntry ∈ setShowFile.declaredMethods setShowClass := by
    rw [hmethods]
    exact List.mem_cons_of_mem _ List.mem_cons_self
  obtain ⟨hlisted, hfirst⟩ :=
    answer_eq_outline_iff_no_leftover houtline hentry hmethod [] [setEntry]
  obtain ⟨-, hsecond⟩ := answer_eq_outline_iff_no_leftover houtline hentry hmethod [setEntry] []
  refine ⟨hopen, hclass, outline, _, houtline, hlisted, hmethod, ?_, ?_, ?_⟩
  · have hdecode : decode [0x106E, 2, 0, 0x000E] = [.call .virtual [0] 2, .other 0x000E] := by
      rw [← Site.map_instruction_sites, ← hshowCode, ← File.sitesOf, hshow]
      rfl
    rw [File.expressions_outlineMethod hmethod, hshowCode, Registers.run, hdecode]
    decide +kernel
  · refine hfirst.mpr fun before site after _ => ?_
    rintro ⟨_, _, _, -, -, -, hlast, -⟩
    exact not_lastLoad_nil hlast
  · intro hequal
    refine hsecond.mp hequal [] _ _ hshow ?_
    have hloaded : LastLoad setShowFile [⟨0x1012, [0x000E]⟩, ⟨0x000E, []⟩] 0 (.int 1) := by
      refine lastLoad_cons.mpr (.inr ⟨?_, Site.loads_iff.mpr rfl⟩)
      intro site hsite value hloads
      rw [List.mem_singleton.mp hsite, Site.loads_iff] at hloads
      cases hloads
    rw [List.flatMap_singleton, hset]
    refine ⟨_, 0, .int 1, Registers.emit?_ofHistory_eq_some.mp (Registers.emit?_eq_some_iff.mpr
      ⟨.virtual, 0, [], 2, _, rfl, hload, rfl, ?_⟩), List.mem_cons_self, ?_, hloaded, by simp⟩
    · exact .inr ⟨"WebView", List.mem_cons_self, .inl List.infix_rfl⟩
    · exact fun _ hsite => absurd hsite List.not_mem_nil

end AppSurvey.Dex
