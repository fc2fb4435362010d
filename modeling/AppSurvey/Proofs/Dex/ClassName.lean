import AppSurvey.Proofs.Dex.Bundle

/-!
# Two ways to split a class name

A listing and an outline split the name of a class into package and simple name, and both first take off the
marks of a descriptor, `L` in front and `;` behind. The name is no descriptor any more, so these may be
letters of its own. Both take off every leading `L`; the outline also takes off every `L` at the end and
every `;` at the beginning. `split_eq_splitBothEnds_iff` says for which names this makes no difference.
-/

namespace AppSurvey.Text

variable {mark : Char} {text : List Char}

theorem exists_trimStart (mark : Char) (text : List Char) :
    ∃ lead, text = lead ++ trimStart mark text ∧ ∀ c ∈ lead, c = mark := by
  refine ⟨text.takeWhile (· == mark), List.takeWhile_append_dropWhile.symm, fun c hc => ?_⟩
  simpa using List.mem_takeWhile_imp hc

theorem exists_trimEnd (mark : Char) (text : List Char) :
    ∃ tail, text = trimEnd mark text ++ tail ∧ ∀ c ∈ tail, c = mark := by
  obtain ⟨lead, htext, hlead⟩ := exists_trimStart mark text.reverse
  refine ⟨lead.reverse, ?_, fun c hc => hlead c (List.mem_reverse.mp hc)⟩
  have hreverse := congrArg List.reverse htext
  rwa [List.reverse_reverse, List.reverse_append] at hreverse

theorem head?_trimStart_ne (mark : Char) (text : List Char) :
    (trimStart mark text).head? ≠ some mark := by
  intro hhead
  have hnot := List.head?_dropWhile_not (· == mark) text
  rw [show text.dropWhile (· == mark) = trimStart mark text from rfl, hhead] at hnot
  simp at hnot

theorem trimStart_eq_self (hhead : text.head? ≠ some mark) : trimStart mark text = text := by
  cases text with
  | nil => rfl
  | cons c rest =>
      refine List.dropWhile_cons_of_neg ?_
      simpa using hhead

theorem getLast?_trimEnd_ne (mark : Char) (text : List Char) :
    (trimEnd mark text).getLast? ≠ some mark := by
  rw [trimEnd, List.getLast?_reverse]
  exact head?_trimStart_ne mark text.reverse

theorem trimEnd_eq_self (hlast : text.getLast? ≠ some mark) : trimEnd mark text = text := by
  rw [← List.head?_reverse] at hlast
  have hreverse : text.reverse.dropWhile (· == mark) = text.reverse := trimStart_eq_self hlast
  rw [trimEnd, hreverse, List.reverse_reverse]

theorem trimEnd_eq_nil (hall : ∀ c ∈ text, c = mark) : trimEnd mark text = [] := by
  rw [trimEnd, List.reverse_eq_nil_iff, List.dropWhile_eq_nil_iff]
  intro c hc
  simpa using hall c (List.mem_reverse.mp hc)

theorem trimEnd_append {lead : List Char} (hsome : trimEnd mark text ≠ []) :
    trimEnd mark (lead ++ text) = lead ++ trimEnd mark text := by
  have hdrop : text.reverse.dropWhile (· == mark) ≠ [] := by
    simpa [trimEnd] using hsome
  rw [trimEnd, List.reverse_append, List.dropWhile_append, if_neg (by simpa using hdrop),
    List.reverse_append, List.reverse_reverse]
  rfl

theorem splitLast_append {tail : List Char} (htail : mark ∉ tail) (text : List Char) :
    splitLast mark (text ++ tail) =
      (splitLast mark text).map fun parts => (parts.1, parts.2 ++ tail) := by
  induction text with
  | nil =>
      induction tail with
      | nil => rfl
      | cons c rest ih =>
          rw [List.mem_cons, not_or] at htail
          have hrest : splitLast mark rest = none := by simpa [splitLast] using ih htail.2
          simp [splitLast, hrest, Ne.symm htail.1]
  | cons c rest ih =>
      rw [List.cons_append, splitLast, ih, splitLast]
      cases splitLast mark rest with
      | none => by_cases hmark : c = mark <;> simp [hmark]
      | some parts => simp

theorem splitLast_append_left {lead : List Char} (hlead : mark ∉ lead) (text : List Char) :
    splitLast mark (lead ++ text) =
      (splitLast mark text).map fun parts => (lead ++ parts.1, parts.2) := by
  induction lead with
  | nil => simp
  | cons c rest ih =>
      rw [List.mem_cons, not_or] at hlead
      rw [List.cons_append, splitLast, ih hlead.2]
      cases splitLast mark text with
      | none => simp [Ne.symm hlead.1]
      | some parts => simp

end AppSurvey.Text

namespace AppSurvey.Dex

open Text

namespace ClassName

/-- Neither of the marks between the parts of a name. -/
def IsPlain (chars : List Char) : Prop :=
  ∀ c ∈ chars, c ≠ '.' ∧ c ≠ '/'

theorem IsPlain.map_eq {chars : List Char} (hplain : IsPlain chars) :
    (chars.map fun c => if c = '/' then '.' else c) = chars := by
  conv_rhs => rw [← List.map_id chars]
  apply List.map_congr_left
  intro c hc
  simp [(hplain c hc).2]

/-- Characters around a name are seen in its parts, on the left in the package and on the right in the simple
name, or both in the simple name if there is no package. -/
theorem ofDotted_around_eq_iff {lead tail : List Char} (hlead : IsPlain lead) (htail : IsPlain tail)
    (name : List Char) :
    ofDotted (lead ++ name ++ tail) = ofDotted name ↔ lead = [] ∧ tail = [] := by
  constructor
  · intro hparts
    unfold ofDotted at hparts
    simp only [List.map_append, hlead.map_eq, htail.map_eq] at hparts
    generalize (name.map fun c => if c = '/' then '.' else c) = dotted at hparts
    rw [splitLast_append (fun hdot => (htail _ hdot).1 rfl),
      splitLast_append_left (fun hdot => (hlead _ hdot).1 rfl)] at hparts
    cases hsplit : splitLast '.' dotted with
    | none =>
        simp only [hsplit, Option.map_none, mk.injEq, true_and, String.ofList_inj] at hparts
        have hlength := congrArg List.length hparts
        simp only [List.length_append] at hlength
        exact ⟨List.eq_nil_of_length_eq_zero (by omega), List.eq_nil_of_length_eq_zero (by omega)⟩
    | some parts =>
        simp only [hsplit, Option.map_some, mk.injEq, String.ofList_inj] at hparts
        exact ⟨by simpa using hparts.1, by simpa using hparts.2⟩
  · rintro ⟨rfl, rfl⟩
    simp

theorem isPlain_of_forall_eq {mark : Char} (hmark : mark ≠ '.' ∧ mark ≠ '/') {chars : List Char}
    (hchars : ∀ c ∈ chars, c = mark) : IsPlain chars := by
  intro c hc
  rw [hchars c hc]
  exact hmark

/-- A name that ends in `L` loses this letter in one of the two splits only. -/
theorem ofDotted_ne_of_getLast? {rest : List Char} (hlast : rest.getLast? = some 'L') :
    ofDotted (trimEnd ';' rest) ≠ ofDotted (trimEnd ';' (trimStart ';' (trimEnd 'L' rest))) := by
  rw [trimEnd_eq_self (show rest.getLast? ≠ some ';' by simp [hlast])]
  obtain ⟨letters, hrest, hletters⟩ := exists_trimEnd 'L' rest
  have hsome : letters ≠ [] := by
    rintro rfl
    rw [List.append_nil] at hrest
    rw [hrest] at hlast
    exact getLast?_trimEnd_ne 'L' rest hlast
  generalize trimEnd 'L' rest = inner at hrest ⊢
  obtain ⟨lead, hinner, hlead⟩ := exists_trimStart ';' inner
  generalize trimStart ';' inner = core at hinner ⊢
  obtain ⟨tail, hcore, htail⟩ := exists_trimEnd ';' core
  generalize trimEnd ';' core = name at hcore ⊢
  subst hcore hinner hrest
  -- One split keeps all that the other takes off: `lead` in front, `tail` and then `letters` behind.
  have hplain : IsPlain (tail ++ letters) := by
    intro c hc
    rcases List.mem_append.mp hc with hc | hc
    · exact isPlain_of_forall_eq (by decide) htail c hc
    · exact isPlain_of_forall_eq (by decide) hletters c hc
  have haround := ofDotted_around_eq_iff (isPlain_of_forall_eq (by decide) hlead) hplain name
  intro hparts
  rw [show lead ++ (name ++ tail) ++ letters = lead ++ name ++ (tail ++ letters) by simp,
    haround] at hparts
  exact hsome (List.append_eq_nil_iff.mp hparts.2).2

/-- A name that begins with `;` loses it in one of the two splits only, unless there is nothing else in the
name. -/
theorem ofDotted_trimStart_eq_iff {rest : List Char} :
    ofDotted (trimEnd ';' rest) = ofDotted (trimEnd ';' (trimStart ';' rest)) ↔
      (rest.head? = some ';' → ∀ c ∈ rest, c = ';') := by
  by_cases hhead : rest.head? = some ';'
  · obtain ⟨lead, hrest, hlead⟩ := exists_trimStart ';' rest
    have hsome : lead ≠ [] := by
      rintro rfl
      rw [List.nil_append] at hrest
      rw [hrest] at hhead
      exact head?_trimStart_ne ';' rest hhead
    have hcore := head?_trimStart_ne ';' rest
    generalize trimStart ';' rest = core at hrest hcore ⊢
    subst hrest
    cases core with
    | nil =>
        rw [List.append_nil, trimEnd_eq_nil hlead]
        exact iff_of_true rfl fun _ => hlead
    | cons c others =>
        have hc : c ≠ ';' := by simpa using hcore
        have htrim : trimEnd ';' (c :: others) ≠ [] := by
          intro hnil
          obtain ⟨tail, hothers, htail⟩ := exists_trimEnd ';' (c :: others)
          rw [hnil, List.nil_append] at hothers
          exact hc (htail c (hothers ▸ List.mem_cons_self))
        have haround := ofDotted_around_eq_iff (isPlain_of_forall_eq (by decide) hlead)
          (show IsPlain [] by simp [IsPlain]) (trimEnd ';' (c :: others))
        rw [List.append_nil] at haround
        rw [trimEnd_append htrim, haround]
        constructor
        · intro hnil
          exact absurd hnil.1 hsome
        · intro hall
          exact absurd (hall hhead c (by simp)) hc
  · rw [trimStart_eq_self hhead]
    simp [hhead]

/-- The two splits agree exactly if the name, without every `L` in front, does not end in `L` and begins with
`;` only where it consists of this mark. -/
theorem split_eq_splitBothEnds_iff (name : String) :
    split name = splitBothEnds name ↔
      (trimStart 'L' name.toList).getLast? ≠ some 'L' ∧
        ((trimStart 'L' name.toList).head? = some ';' → ∀ c ∈ trimStart 'L' name.toList, c = ';') := by
  rw [split, splitBothEnds]
  by_cases hlast : (trimStart 'L' name.toList).getLast? = some 'L'
  · simp [hlast, ofDotted_ne_of_getLast? hlast]
  · rw [trimEnd_eq_self hlast, ofDotted_trimStart_eq_iff]
    simp [hlast]

end ClassName

theorem File.outline_eq_ok {file : File} {definition : ClassDef} {outline : ClassOutline}
    (houtline : file.outline definition = .ok outline) :
    file.typeName definition.type.toNat = .ok outline.className ∧
      ClassName.mk outline.package outline.simpleName =
        ClassName.splitBothEnds outline.className ∧
      outline.superclass = file.superclassName definition ∧
      outline.access = ⟨definition.access⟩ := by
  simp only [File.outline, bind_eq_ok_iff, pure_eq_ok_iff] at houtline
  obtain ⟨className, hname, rfl⟩ := houtline
  refine ⟨hname, ?_, rfl, rfl⟩
  dsimp only

/-- A class that has both a listing and an outline has one name, superclass and access in both. Its package
and simple name are the same exactly if its name, without every `L` in front, does not end in `L` and begins
with `;` only where it consists of this mark. -/
theorem class_parts_agree_iff {file : File} {index : Nat} {definition : ClassDef} {listed : Class}
    {outline : ClassOutline} (hdefinition : file.classDef index = .ok definition)
    (hlisted : file.listClass index = .ok listed) (houtline : file.outline definition = .ok outline) :
    listed.className = outline.className ∧ listed.superclass = outline.superclass ∧
      listed.access = outline.access ∧
      ((listed.package, listed.simpleName) = (outline.package, outline.simpleName) ↔
        (trimStart 'L' outline.className.toList).getLast? ≠ some 'L' ∧
          ((trimStart 'L' outline.className.toList).head? = some ';' →
            ∀ c ∈ trimStart 'L' outline.className.toList, c = ';')) := by
  obtain ⟨other, data, hother, -, hshows⟩ := File.listClass_eq_ok_iff.mp hlisted
  obtain rfl : definition = other := Except.ok.inj (hdefinition.symm.trans hother)
  obtain ⟨hname, hparts, hsuper, haccess⟩ := File.outline_eq_ok houtline
  have hclass : listed.className = outline.className :=
    Except.ok.inj (hshows.className.symm.trans hname)
  refine ⟨hclass, ?_, ?_, ?_⟩
  · ext name
    rw [hsuper, hshows.superclass, File.superclassName_eq_some_iff]
  · rw [haccess, ← hshows.access]
  · rw [← ClassName.split_eq_splitBothEnds_iff, ← hparts, ← hclass, ← hshows.parts, Prod.mk.injEq,
      ClassName.mk.injEq]

/-- The header of a file with one class. -/
def markupHeader : Header where
  magic := Header.mark
  version := [0x30, 0x33, 0x35, 0]
  checksum := 0
  signature := List.replicate 20 0
  fileSize := 164
  headerSize := 0x70
  endianTag := 0x12345678
  link := ⟨0, 0⟩
  mapOffset := 0
  strings := ⟨1, 112⟩
  types := ⟨1, 116⟩
  protos := ⟨0, 0⟩
  fields := ⟨0, 0⟩
  methods := ⟨0, 0⟩
  classes := ⟨1, 120⟩
  data := ⟨12, 152⟩

/-- A file with a class whose name ends in `L`. -/
def markupFile : File where
  header := markupHeader
  image := (List.flatten [
    markupHeader.bytes, dwordBytes 152, dwordBytes 0,
    ClassDef.bytes ⟨0, 1, 0xFFFFFFFF, 0, 0xFFFFFFFF, 0, 0, 0⟩,
    varintBytes 10, Utf8.encode "Lapp/HTML;", [0]]).toArray

theorem markupFile_parts_differ :
    ∃ definition listed outline, File.ofImage markupFile.image = .ok markupFile ∧
      markupFile.classDef 0 = .ok definition ∧ markupFile.listClass 0 = .ok listed ∧
      markupFile.outline definition = .ok outline ∧
      listed.className = "app.HTML" ∧ listed.simpleName = "HTML" ∧
      outline.className = "app.HTML" ∧ outline.simpleName = "HTM" ∧
      (listed.package, listed.simpleName) ≠ (outline.package, outline.simpleName) := by
  have hopen : File.ofImage markupFile.image = .ok markupFile :=
    ofImage_eq rfl rfl rfl rfl (by decide +kernel)
  have hdefinition : markupFile.classDef 0 =
      .ok ⟨0, 1, 0xFFFFFFFF, 0, 0xFFFFFFFF, 0, 0, 0⟩ := by decide +kernel
  have hlisted : markupFile.listClass 0 =
      .ok { className := "app.HTML", package := "app", simpleName := "HTML", access := ⟨1⟩ } := by
    decide +kernel
  have houtline : markupFile.outline ⟨0, 1, 0xFFFFFFFF, 0, 0xFFFFFFFF, 0, 0, 0⟩ =
      .ok ⟨"app.HTML", "app", "HTM", none, [], [], [], ⟨1⟩⟩ := by
    decide +kernel
  obtain ⟨-, -, -, hparts⟩ := class_parts_agree_iff hdefinition hlisted houtline
  refine ⟨_, _, _, hopen, hdefinition, hlisted, houtline, rfl, rfl, rfl, rfl, fun heq => ?_⟩
  exact (hparts.mp heq).1 (by decide)

end AppSurvey.Dex
