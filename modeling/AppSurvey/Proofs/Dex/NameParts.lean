import AppSurvey.Proofs.Dex.ClassName

/-!
# Putting a class name together again

A class is made from its name, which is cut at the last dot into package and simple name. With the dot between
them the two parts make up the name again, unless it begins with `L`: a descriptor begins with this letter, and
it is taken off the name too, as often as it stands there.
-/

namespace AppSurvey.Text

theorem splitLast_eq_none_iff {mark : Char} {text : List Char} :
    splitLast mark text = none ↔ mark ∉ text := by
  induction text with
  | nil => simp [splitLast]
  | cons c rest ih =>
      rw [splitLast, List.mem_cons, not_or, ← ih]
      cases splitLast mark rest with
      | none => simp [eq_comm]
      | some parts => simp

theorem splitLast_eq_some {mark : Char} {text before after : List Char}
    (hsplit : splitLast mark text = some (before, after)) :
    text = before ++ mark :: after ∧ mark ∉ after := by
  induction text generalizing before with
  | nil => cases hsplit
  | cons c rest ih =>
      rw [splitLast] at hsplit
      cases hrest : splitLast mark rest with
      | none =>
          simp only [hrest, Option.ite_none_right_eq_some, Option.some.injEq, Prod.mk.injEq] at hsplit
          obtain ⟨rfl, rfl, rfl⟩ := hsplit
          exact ⟨rfl, splitLast_eq_none_iff.mp hrest⟩
      | some parts =>
          simp only [hrest, Option.some.injEq, Prod.mk.injEq] at hsplit
          obtain ⟨rfl, rfl⟩ := hsplit
          obtain ⟨htext, hafter⟩ := ih hrest
          exact ⟨by rw [List.cons_append, ← htext], hafter⟩

theorem mem_trimStart_iff {mark c : Char} (hc : c ≠ mark) {text : List Char} :
    c ∈ trimStart mark text ↔ c ∈ text := by
  obtain ⟨lead, htext, hlead⟩ := exists_trimStart mark text
  conv_rhs => rw [htext, List.mem_append]
  constructor
  · exact .inr
  · rintro (hmem | hmem)
    · exact absurd (hlead c hmem) hc
    · exact hmem

theorem trimStart_eq_self_iff {mark : Char} {text : List Char} :
    trimStart mark text = text ↔ text.head? ≠ some mark := by
  constructor
  · intro hself
    rw [← hself]
    exact head?_trimStart_ne mark text
  · exact trimStart_eq_self

end AppSurvey.Text

namespace AppSurvey.Dex

open Text

namespace ClassName

/-- The two parts make up the name: with a dot between them if there is one in the name, and without a package
otherwise. The dot is the last one. -/
structure MakeUp (package simple : String) (name : List Char) : Prop where
  dotted : '.' ∈ name → package ++ "." ++ simple = String.ofList name
  plain : '.' ∉ name → package = "" ∧ simple = String.ofList name
  last : '.' ∉ simple.toList

theorem MakeUp.unique {package simple : String} {name other : List Char}
    (hname : MakeUp package simple name) (hother : MakeUp package simple other)
    (hdot : '.' ∈ name ↔ '.' ∈ other) : name = other := by
  rw [← String.ofList_inj]
  by_cases hmem : '.' ∈ name
  · rw [← hname.dotted hmem, ← hother.dotted (hdot.mp hmem)]
  · rw [← (hname.plain hmem).2, ← (hother.plain (hmem ∘ hdot.mpr)).2]

theorem map_dots_eq_self {name : List Char} (hslash : '/' ∉ name) :
    (name.map fun c => if c = '/' then '.' else c) = name := by
  conv_rhs => rw [← List.map_id name]
  apply List.map_congr_left
  intro c hc
  have hother : c ≠ '/' := fun heq => hslash (heq ▸ hc)
  rw [if_neg hother, id]

theorem ofDotted_makeUp {name : List Char} (hslash : '/' ∉ name) :
    MakeUp (ofDotted name).package (ofDotted name).simple name := by
  cases hsplit : splitLast '.' name with
  | none =>
      have hdot := splitLast_eq_none_iff.mp hsplit
      simp only [ofDotted, map_dots_eq_self hslash, hsplit]
      exact ⟨fun hmem => absurd hmem hdot, fun _ => ⟨rfl, rfl⟩, by rwa [String.toList_ofList]⟩
  | some parts =>
      obtain ⟨hname, hafter⟩ := splitLast_eq_some hsplit
      have hdot : '.' ∈ name := by simp [hname]
      simp only [ofDotted, map_dots_eq_self hslash, hsplit]
      refine ⟨fun _ => ?_, fun hnone => absurd hdot hnone, by rwa [String.toList_ofList]⟩
      simp [hname, ← String.toList_inj]

/-- A name without marks of a descriptor is made up by its parts once every `L` in front is taken off. -/
theorem split_makeUp {name : String} (hslash : '/' ∉ name.toList) (hmark : ';' ∉ name.toList) :
    MakeUp (split name).package (split name).simple (trimStart 'L' name.toList) := by
  rw [← mem_trimStart_iff (show '/' ≠ 'L' by decide)] at hslash
  rw [← mem_trimStart_iff (show ';' ≠ 'L' by decide)] at hmark
  have hlast : (trimStart 'L' name.toList).getLast? ≠ some ';' :=
    fun hlast => hmark (List.mem_of_getLast? hlast)
  rw [split, trimEnd_eq_self hlast]
  exact ofDotted_makeUp hslash

theorem split_makeUp_self_iff {name : String} (hslash : '/' ∉ name.toList)
    (hmark : ';' ∉ name.toList) :
    MakeUp (split name).package (split name).simple name.toList ↔ name.toList.head? ≠ some 'L' := by
  have htrimmed := split_makeUp hslash hmark
  rw [← trimStart_eq_self_iff]
  constructor
  · intro hwhole
    exact htrimmed.unique hwhole (mem_trimStart_iff (by decide))
  · intro hself
    rwa [hself] at htrimmed

end ClassName

namespace Class

theorem className_named (name : String) : (named name).className = name := rfl

theorem package_named (name : String) : (named name).package = (ClassName.split name).package := rfl

theorem simpleName_named (name : String) : (named name).simpleName = (ClassName.split name).simple := rfl

end Class

namespace ClassPath

/-- The name of the class with dots between its parts. -/
def dotted (path : ClassPath) : List Char :=
  (JavaType.object path).nameChars

/-- The class that is made from the name in its descriptor. -/
def namedClass (path : ClassPath) : Class :=
  Class.named (Descriptor.typeName (JavaType.object path).descriptor)

theorem namedClass_eq (path : ClassPath) : path.namedClass = Class.named (String.ofList path.dotted) := by
  rw [namedClass, Descriptor.typeName_descriptor]
  rfl

theorem dot_mem_dotted_iff (path : ClassPath) : '.' ∈ path.dotted ↔ '/' ∈ path.chars := by
  have hdot : '.' ∉ path.chars := fun hmem => (path.plain _ hmem).2.1 rfl
  simp only [dotted, JavaType.nameChars, List.mem_map]
  constructor
  · rintro ⟨c, hc, heq⟩
    split at heq
    next hslash => rwa [← hslash]
    next => exact absurd (heq ▸ hc) hdot
  · intro hslash
    exact ⟨'/', hslash, rfl⟩

theorem slash_notMem_dotted (path : ClassPath) : '/' ∉ path.dotted := by
  simp only [dotted, JavaType.nameChars, List.mem_map, not_exists, not_and]
  intro c _
  split
  next => decide
  next hc => exact hc

theorem mark_notMem_dotted (path : ClassPath) : ';' ∉ path.dotted := by
  simp only [dotted, JavaType.nameChars, List.mem_map, not_exists, not_and]
  intro c hc
  split
  next => decide
  next => exact (path.plain c hc).1

theorem head?_dotted_ne_iff (path : ClassPath) :
    path.dotted.head? ≠ some 'L' ↔ path.chars.head? ≠ some 'L' := by
  simp only [dotted, JavaType.nameChars, List.head?_map]
  cases path.chars.head? with
  | none => simp
  | some c =>
      by_cases hslash : c = '/'
      · simp [hslash]
      · simp [hslash]

end ClassPath

/-- A class made from the name in its descriptor has this name. Its package and simple name, with a dot between
them if the path of the class has more than one part, make up the name without every `L` in front of it. So they
make up the name itself exactly if it does not begin with `L`. -/
theorem parts_make_up_name_iff (path : ClassPath) :
    path.namedClass.className = (JavaType.object path).name ∧
      ClassName.MakeUp path.namedClass.package path.namedClass.simpleName (trimStart 'L' path.dotted) ∧
      (('/' ∈ path.chars → path.namedClass.package ++ "." ++ path.namedClass.simpleName =
            path.namedClass.className) ∧
          ('/' ∉ path.chars → path.namedClass.package = "" ∧
            path.namedClass.simpleName = path.namedClass.className) ↔
        path.chars.head? ≠ some 'L') := by
  have hslash := path.slash_notMem_dotted
  have hmark := path.mark_notMem_dotted
  have hchars : (String.ofList path.dotted).toList = path.dotted := String.toList_ofList
  rw [← hchars] at hslash hmark
  have htrimmed := ClassName.split_makeUp hslash hmark
  have hwhole := ClassName.split_makeUp_self_iff hslash hmark
  rw [hchars, ← Class.package_named, ← Class.simpleName_named, ← path.namedClass_eq] at htrimmed hwhole
  have hname : path.namedClass.className = String.ofList path.dotted := by
    rw [path.namedClass_eq, Class.className_named]
  refine ⟨hname, htrimmed, ?_⟩
  rw [← path.head?_dotted_ne_iff, ← hwhole, hname, ← path.dot_mem_dotted_iff]
  constructor
  · rintro ⟨hdotted, hplain⟩
    exact ⟨hdotted, hplain, htrimmed.last⟩
  · intro hparts
    exact ⟨hparts.dotted, hparts.plain⟩

/-- A class of the package that has no name. -/
def loginPath : ClassPath where
  chars := ['L', 'o', 'g', 'i', 'n']
  nonempty := by decide
  plain := by simp

/-- The name of the class is not found again in its parts. -/
theorem login_loses_first_letter :
    loginPath.namedClass.className = "Login" ∧ loginPath.namedClass.package = "" ∧
      loginPath.namedClass.simpleName = "ogin" ∧
      ¬ ('/' ∉ loginPath.chars → loginPath.namedClass.package = "" ∧
        loginPath.namedClass.simpleName = loginPath.namedClass.className) := by
  obtain ⟨hname, hparts, hwhole⟩ := parts_make_up_name_iff loginPath
  obtain ⟨hpackage, hsimple⟩ := hparts.plain (by decide)
  refine ⟨hname, hpackage, hsimple, fun hplain => ?_⟩
  exact hwhole.mp ⟨fun hslash => absurd hslash (by decide), hplain⟩ rfl

end AppSurvey.Dex
