import AppSurvey.Proofs.Dex.Bundle

/-!
# Finding the code of a listed method

The listing of a file and the search for the code of a method go through the same classes and methods in the
same order. `File.way` is what both come upon. The listing takes from it what can be read and passes over the
rest; the search ends at the first stop that cannot be read, and at the first method of the name it looks for,
whether this one is listed or not. So a listed method is found if all stops before it are methods with other
names, and otherwise the first stop that is not decides what the search gives.
-/

namespace AppSurvey.Dex

/-- What a search comes upon: a method with its name, or an item that cannot be read. -/
abbrev Stop := Except Fault (String × MethodEntry)

/-- The stop is a method with another name. -/
def Stop.Passes (methodName : String) (stop : Stop) : Prop :=
  ∃ name entry, stop = .ok (name, entry) ∧ name ≠ methodName

theorem Stop.cases_of_not_passes {methodName : String} {stop : Stop} (hstop : ¬ stop.Passes methodName) :
    (∃ fault, stop = .error fault) ∨ ∃ entry, stop = .ok (methodName, entry) := by
  cases stop with
  | error fault => exact .inl ⟨fault, rfl⟩
  | ok named =>
      obtain ⟨name, entry⟩ := named
      by_cases hname : name = methodName
      · subst hname
        exact .inr ⟨entry, rfl⟩
      · exact absurd ⟨name, entry, rfl, hname⟩ hstop

/-- The first stop that is not a method with another name. -/
inductive FirstHalt (methodName : String) : List Stop → Stop → Prop
  | here {halt : Stop} {rest : List Stop} (hhalt : ¬ halt.Passes methodName) :
      FirstHalt methodName (halt :: rest) halt
  | there {stop halt : Stop} {rest : List Stop} (hstop : stop.Passes methodName)
      (hrest : FirstHalt methodName rest halt) : FirstHalt methodName (stop :: rest) halt

theorem FirstHalt.cases {methodName : String} {stops : List Stop} {halt : Stop}
    (hhalt : FirstHalt methodName stops halt) :
    (∃ fault, halt = .error fault) ∨ ∃ entry, halt = .ok (methodName, entry) := by
  induction hhalt with
  | here hhalt => exact Stop.cases_of_not_passes hhalt
  | there _ _ ih => exact ih

theorem all_pass_or_firstHalt (methodName : String) (stops : List Stop) :
    (∀ stop ∈ stops, stop.Passes methodName) ∨ ∃ halt, FirstHalt methodName stops halt := by
  induction stops with
  | nil => exact .inl (by simp)
  | cons stop rest ih =>
      by_cases hstop : stop.Passes methodName
      · rcases ih with hall | ⟨halt, hhalt⟩
        · exact .inl (List.forall_mem_cons.mpr ⟨hstop, hall⟩)
        · exact .inr ⟨halt, .there hstop hhalt⟩
      · exact .inr ⟨stop, .here hstop⟩

namespace File

/-- A method that a class declares, under its name. -/
def named (file : File) (entry : MethodEntry) : Stop := do
  let ref ← file.method entry.method.toNat
  let name ← file.string ref.name.toNat
  return (name, entry)

/-- The methods of the class of a number, if it has the given name. -/
def methodsIfNamed (file : File) (className : String) (index : Nat) : Except Fault (List MethodEntry) := do
  let definition ← file.classDef index
  let name ← file.typeName definition.type.toNat
  if name = className then
    let data ← file.classData definition.classData.toNat
    return data.methods
  else return []

def stopsAt (file : File) (className : String) (index : Nat) : List Stop :=
  match file.methodsIfNamed className index with
  | .ok entries => entries.map file.named
  | .error fault => [.error fault]

/-- The methods of all classes with the given name, and the items on the way to them that cannot be read. -/
def way (file : File) (className : String) : List Stop :=
  (List.range file.classCount).flatMap (file.stopsAt className)

/-! ## The search -/

/-- The code of the first method of the given name. -/
def codeOn (file : File) (methodName : String) : List Stop → Except Fault (Option (List UInt16))
  | [] => .ok none
  | stop :: rest => do
      let (name, entry) ← stop
      if name = methodName then (file.code entry.code.toNat).map some
      else file.codeOn methodName rest

variable {file : File} {className methodName : String}

theorem codeIn_eq (entries : List MethodEntry) :
    file.codeIn methodName entries = file.codeOn methodName (entries.map file.named) := by
  induction entries with
  | nil => rfl
  | cons entry rest ih =>
      rw [List.map_cons, codeIn, codeOn, named]
      cases file.method entry.method.toNat with
      | error fault => rfl
      | ok ref =>
          change (file.string ref.name.toNat >>= _) = ((file.string ref.name.toNat >>= _) >>= _)
          cases file.string ref.name.toNat with
          | error fault => rfl
          | ok name =>
              by_cases hname : name = methodName
              · subst hname
                simp only [bind, Except.bind, pure, Except.pure, ↓reduceIte]
                cases file.code entry.code.toNat <;> rfl
              · simpa [bind, Except.bind, pure, Except.pure, hname] using ih

theorem codeOn_append (stops rest : List Stop) :
    file.codeOn methodName (stops ++ rest) = file.codeOn methodName stops >>= fun found =>
      found.elim (file.codeOn methodName rest) fun words => .ok (some words) := by
  induction stops with
  | nil => rfl
  | cons stop others ih =>
      rw [List.cons_append, codeOn, codeOn]
      cases stop with
      | error fault => rfl
      | ok named =>
          obtain ⟨name, entry⟩ := named
          by_cases hname : name = methodName
          · simp only [bind, Except.bind, hname, ↓reduceIte]
            cases file.code entry.code.toNat <;> rfl
          · simpa [bind, Except.bind, hname] using ih

theorem codeOn_stopsAt (index : Nat) :
    file.codeOn methodName (file.stopsAt className index) =
      file.methodsIfNamed className index >>= file.codeIn methodName := by
  rw [stopsAt]
  cases file.methodsIfNamed className index with
  | error fault => rfl
  | ok entries => exact (codeIn_eq entries).symm

theorem codeFrom_succ (count index : Nat) :
    file.codeFrom className methodName (count + 1) index =
      (file.methodsIfNamed className index >>= file.codeIn methodName) >>= fun found =>
        found.elim (file.codeFrom className methodName count (index + 1)) fun words =>
          .ok (some words) := by
  rw [codeFrom, methodsIfNamed]
  cases file.classDef index with
  | error fault => rfl
  | ok definition =>
      simp only [bind, Except.bind]
      cases file.typeName definition.type.toNat with
      | error fault => rfl
      | ok name =>
          by_cases hname : name = className
          · simp only [hname, ↓reduceIte]
            cases file.classData definition.classData.toNat with
            | error fault => rfl
            | ok data =>
                simp only [pure, Except.pure]
                cases file.codeIn methodName data.methods with
                | error fault => rfl
                | ok found => cases found <;> rfl
          · -- A class of another name counts as one without methods, in which nothing is found.
            simp [hname, pure, Except.pure, codeIn]

theorem codeFrom_eq (count index : Nat) :
    file.codeFrom className methodName count index =
      file.codeOn methodName ((List.range' index count).flatMap (file.stopsAt className)) := by
  induction count generalizing index with
  | zero => rfl
  | succ count ih =>
      rw [List.range'_succ, List.flatMap_cons, codeOn_append, codeOn_stopsAt, ← ih, codeFrom_succ]

/-- The search follows the way. -/
theorem findCode_eq : file.findCode className methodName = file.codeOn methodName (file.way className) := by
  rw [findCode, codeFrom_eq, way, List.range_eq_range']

theorem map_some_eq_ok_iff {answer : Except Fault (List UInt16)} {words : List UInt16} :
    answer.map some = .ok (some words) ↔ answer = .ok words := by
  cases answer <;> simp [Except.map]

theorem codeOn_cons_of_passes {stop : Stop} (hstop : stop.Passes methodName) (rest : List Stop) :
    file.codeOn methodName (stop :: rest) = file.codeOn methodName rest := by
  obtain ⟨name, entry, rfl, hname⟩ := hstop
  simp [codeOn, bind, Except.bind, hname]

theorem codeOn_append_of_passes {passed : List Stop} (hpassed : ∀ stop ∈ passed, stop.Passes methodName)
    (rest : List Stop) :
    file.codeOn methodName (passed ++ rest) = file.codeOn methodName rest := by
  induction passed with
  | nil => rfl
  | cons stop others ih =>
      obtain ⟨hstop, hothers⟩ := List.forall_mem_cons.mp hpassed
      rw [List.cons_append, codeOn_cons_of_passes hstop, ih hothers]

theorem codeOn_found (entry : MethodEntry) (rest : List Stop) :
    file.codeOn methodName (.ok (methodName, entry) :: rest) =
      (file.code entry.code.toNat).map some := by
  simp [codeOn, bind, Except.bind]

theorem codeOn_of_firstHalt {stops : List Stop} {halt : Stop} (hhalt : FirstHalt methodName stops halt)
    (rest : List Stop) :
    file.codeOn methodName (stops ++ rest) = halt >>= fun named =>
      (file.code named.2.code.toNat).map some := by
  induction hhalt with
  | here hhalt =>
      rcases Stop.cases_of_not_passes hhalt with ⟨fault, rfl⟩ | ⟨entry, rfl⟩
      · rfl
      · exact codeOn_found entry _
  | there hstop _ ih => rw [List.cons_append, codeOn_cons_of_passes hstop, ih]

theorem codeOn_eq_ok_iff {before : List Stop} {entry : MethodEntry} {words : List UInt16}
    (hwords : file.code entry.code.toNat = .ok words) (after : List Stop) :
    file.codeOn methodName (before ++ .ok (methodName, entry) :: after) = .ok (some words) ↔
      (∀ stop ∈ before, stop.Passes methodName) ∨
        ∃ twin, FirstHalt methodName before (.ok (methodName, twin)) ∧
          file.code twin.code.toNat = .ok words := by
  constructor
  · intro hfound
    rcases all_pass_or_firstHalt methodName before with hall | ⟨halt, hhalt⟩
    · exact .inl hall
    · rw [codeOn_of_firstHalt hhalt] at hfound
      rcases hhalt.cases with ⟨fault, rfl⟩ | ⟨twin, rfl⟩
      · cases hfound
      · exact .inr ⟨twin, hhalt, map_some_eq_ok_iff.mp hfound⟩
  · rintro (hall | ⟨twin, hhalt, htwin⟩)
    · rw [codeOn_append_of_passes hall, codeOn_found]
      exact map_some_eq_ok_iff.mpr hwords
    · rw [codeOn_of_firstHalt hhalt]
      exact map_some_eq_ok_iff.mpr htwin

/-! ## The listing -/

/-- The method as it is listed, if the stop is a method that is. -/
def listed? (file : File) (stop : Stop) : Option Method :=
  stop.toOption.bind fun named =>
    (file.listMethod named.2.method.toNat ⟨named.2.access⟩).toOption

theorem listed?_eq_some_iff {stop : Stop} {method : Method} :
    file.listed? stop = some method ↔
      ∃ name entry, stop = .ok (name, entry) ∧ file.IsMethod entry method := by
  cases stop with
  | error fault => simp [listed?, Except.toOption]
  | ok named =>
      obtain ⟨name, entry⟩ := named
      simp only [listed?, Except.toOption, Option.bind_some, Except.ok.injEq, Prod.mk.injEq,
        ← listMethod_eq_ok_iff]
      cases hlist : file.listMethod entry.method.toNat ⟨entry.access⟩ <;> simp [hlist]

/-- A listed method has a name that can be read. -/
theorem named_of_isMethod {entry : MethodEntry} {method : Method} (hmethod : file.IsMethod entry method) :
    file.named entry = .ok (method.name, entry) := by
  obtain ⟨ref, proto, href, -, hname, -⟩ := hmethod
  simp only [named, bind_eq_ok_iff, pure_eq_ok_iff]
  exact ⟨ref, href, method.name, hname, rfl⟩

theorem listed?_named (entry : MethodEntry) :
    file.listed? (file.named entry) = (file.listMethod entry.method.toNat ⟨entry.access⟩).toOption := by
  cases hlist : file.listMethod entry.method.toNat ⟨entry.access⟩ with
  | ok method =>
      have hmethod := listMethod_eq_ok_iff.mp hlist
      rw [named_of_isMethod hmethod]
      exact listed?_eq_some_iff.mpr ⟨_, entry, rfl, hmethod⟩
  | error fault =>
      rw [Except.toOption, Option.eq_none_iff_forall_ne_some]
      intro method hmethod
      obtain ⟨name, other, hnamed, hother⟩ := listed?_eq_some_iff.mp hmethod
      simp only [named, bind_eq_ok_iff, pure_eq_ok_iff, Prod.mk.injEq] at hnamed
      obtain ⟨-, -, -, -, -, rfl⟩ := hnamed
      rw [listMethod_eq_ok_iff.mpr hother] at hlist
      cases hlist

theorem filterMap_listed?_named (data : ClassData) :
    (data.methods.map file.named).filterMap file.listed? = file.listMethods data := by
  rw [List.filterMap_map, listMethods]
  congr 1
  funext entry
  exact listed?_named entry

theorem filterMap_listed?_stopsAt (index : Nat) :
    (file.stopsAt className index).filterMap file.listed? =
      ((file.listClass index).toOption.toList.filter (·.className = className)).flatMap
        Class.methods := by
  rw [stopsAt, methodsIfNamed, listClass]
  cases file.classDef index with
  | error fault => rfl
  | ok definition =>
      simp only [bind, Except.bind]
      cases file.typeName definition.type.toNat with
      | error fault => rfl
      | ok name =>
          by_cases hname : name = className
          · simp only [hname, ↓reduceIte]
            cases file.classData definition.classData.toNat with
            | error fault => rfl
            | ok data =>
                refine (filterMap_listed?_named data).trans ?_
                simp [pure, Except.pure, Except.toOption, Class.named]
          · cases file.classData definition.classData.toNat with
            | error fault => simp [hname, pure, Except.pure, Except.toOption]
            | ok data => simp [hname, pure, Except.pure, Except.toOption, Class.named]

theorem filterMap_listed?_way :
    (file.way className).filterMap file.listed? =
      (file.classes.filter (·.className = className)).flatMap Class.methods := by
  rw [way, classes]
  induction List.range file.classCount with
  | nil => rfl
  | cons index rest ih =>
      rw [List.flatMap_cons, List.filterMap_append, ih, filterMap_listed?_stopsAt,
        List.filterMap_cons]
      cases (file.listClass index).toOption with
      | none => simp
      | some c => by_cases hname : c.className = className <;> simp [hname]

theorem named_of_mem_way {name : String} {entry : MethodEntry}
    (hmem : .ok (name, entry) ∈ file.way className) : file.named entry = .ok (name, entry) := by
  obtain ⟨index, -, hindex⟩ := List.mem_flatMap.mp hmem
  unfold stopsAt at hindex
  split at hindex
  next entries hentries =>
    obtain ⟨other, -, hother⟩ := List.mem_map.mp hindex
    have hsame := hother
    simp only [named, bind_eq_ok_iff, pure_eq_ok_iff, Prod.mk.injEq] at hsame
    obtain ⟨-, -, -, -, -, rfl⟩ := hsame
    exact hother
  next => simp at hindex

theorem name_of_mem_way {name : String} {entry : MethodEntry} {method : Method}
    (hmem : .ok (name, entry) ∈ file.way className) (hmethod : file.IsMethod entry method) :
    method.name = name := by
  have hnamed := named_of_mem_way hmem
  rw [named_of_isMethod hmethod] at hnamed
  simp only [Except.ok.injEq, Prod.mk.injEq] at hnamed
  exact hnamed.1

theorem not_isMethod_of_mem_before {before rest : List Stop} (hway : file.way className = before ++ rest)
    (hbefore : ∀ method ∈ before.filterMap file.listed?, method.name ≠ methodName) {twin : MethodEntry}
    (htwin : .ok (methodName, twin) ∈ before) (method : Method) : ¬ file.IsMethod twin method := by
  intro hmethod
  have hmem : .ok (methodName, twin) ∈ file.way className := by simp [hway, htwin]
  apply hbefore method _ (name_of_mem_way hmem hmethod)
  exact List.mem_filterMap.mpr ⟨_, htwin, listed?_eq_some_iff.mpr ⟨_, twin, rfl, hmethod⟩⟩

/-- Where a listed method stands on the way: after all that is listed before it. -/
theorem exists_way_split {earlier later : List Class} {c : Class} {prior others : List Method}
    {method : Method} (hclasses : file.classes = earlier ++ c :: later) (hclass : c.className = className)
    (hmethods : c.methods = prior ++ method :: others) :
    ∃ before entry after,
      file.way className = before ++ .ok (method.name, entry) :: after ∧ file.IsMethod entry method ∧
        before.filterMap file.listed? =
          (earlier.filter (·.className = className)).flatMap Class.methods ++ prior := by
  have hlisted : (file.way className).filterMap file.listed? =
      ((earlier.filter (·.className = className)).flatMap Class.methods ++ prior) ++
        method :: (others ++ (later.filter (·.className = className)).flatMap Class.methods) := by
    rw [filterMap_listed?_way, hclasses]
    simp [hclass, hmethods]
  -- Between what is listed before the method and the method itself lie only stops that are not listed.
  obtain ⟨front, back, hway, hfront, hback⟩ := List.filterMap_eq_append_iff.mp hlisted
  obtain ⟨unlisted, stop, after, rfl, hunlisted, hstop, -⟩ := List.filterMap_eq_cons_iff.mp hback
  obtain ⟨name, entry, rfl, hentry⟩ := listed?_eq_some_iff.mp hstop
  have hmem : .ok (name, entry) ∈ file.way className := by simp [hway]
  obtain rfl := name_of_mem_way hmem hentry
  refine ⟨front ++ unlisted, entry, after, by rw [hway, List.append_assoc], hentry, ?_⟩
  rw [List.filterMap_append, hfront, List.filterMap_eq_nil_iff.mpr hunlisted, List.append_nil]

end File

/-! ## Listed and found -/

/-- The first listed method of a name, in the first listed class of a name that has one, stands at one place of
the way. Its code is what the search gives if and only if all stops before it are methods with other names, or the
first that is not is a method of the same name, not listed itself, with the same code. If that stop cannot be read,
the search fails as it does. A method without code has the empty one. -/
theorem listed_method_found_iff {file : File} {className methodName : String} {earlier later : List Class}
    {c : Class} {prior others : List Method} {method : Method}
    (hclasses : file.classes = earlier ++ c :: later) (hclass : c.className = className)
    (hmethods : c.methods = prior ++ method :: others) (hmethod : method.name = methodName)
    (hearlier : ∀ d ∈ earlier, d.className = className → ∀ m ∈ d.methods, m.name ≠ methodName)
    (hprior : ∀ m ∈ prior, m.name ≠ methodName) :
    ∃ before entry after,
      file.way className = before ++ .ok (methodName, entry) :: after ∧
      file.IsMethod entry method ∧
      before.filterMap file.listed? =
        (earlier.filter (·.className = className)).flatMap Class.methods ++ prior ∧
      (∀ twin, .ok (methodName, twin) ∈ before → ∀ m, ¬ file.IsMethod twin m) ∧
      (entry.code = 0 → file.code entry.code.toNat = .ok []) ∧
      (∀ words, file.code entry.code.toNat = .ok words →
        (file.findCode className methodName = .ok (some words) ↔
          (∀ stop ∈ before, stop.Passes methodName) ∨
            ∃ twin, FirstHalt methodName before (.ok (methodName, twin)) ∧
              file.code twin.code.toNat = .ok words)) ∧
      (∀ fault, FirstHalt methodName before (.error fault) →
        file.findCode className methodName = .error fault) := by
  obtain ⟨before, entry, after, hway, hentry, hbefore⟩ := File.exists_way_split hclasses hclass hmethods
  rw [hmethod] at hway
  refine ⟨before, entry, after, hway, hentry, hbefore, ?_, ?_, ?_, ?_⟩
  · intro twin htwin
    apply File.not_isMethod_of_mem_before hway _ htwin
    rw [hbefore]
    simp only [List.mem_append, List.mem_flatMap, List.mem_filter, decide_eq_true_eq]
    rintro m (⟨d, ⟨hd, hname⟩, hm⟩ | hm)
    · exact hearlier d hd hname m hm
    · exact hprior m hm
  · intro habsent
    rw [habsent]
    rfl
  · intro words hwords
    rw [File.findCode_eq, hway, File.codeOn_eq_ok_iff hwords]
  · intro fault hhalt
    rw [File.findCode_eq, hway, File.codeOn_of_firstHalt hhalt]
    rfl

/-- The one method of the second class, as the class declares it. -/
def patchyEntry : MethodEntry where
  method := 0
  access := 1
  code := 226

/-- The first class of the file has no type. The second one is listed with its method, whose code can be read, but
the search ends at the first. -/
theorem patchyMethod_not_found :
    patchyFile.classes = [patchyClass] ∧ patchyFile.IsMethod patchyEntry patchyMethod ∧
      patchyFile.code patchyEntry.code.toNat = .ok [0x000E] ∧
      patchyFile.findCode "A" "m" = .error (.outOfBounds .types 9) := by
  have hclasses : patchyFile.classes = [patchyClass] := by decide +kernel
  have hway : patchyFile.way "A" = [.error (.outOfBounds .types 9), .ok ("m", patchyEntry)] := by
    decide +kernel
  have hcode : patchyFile.code patchyEntry.code.toNat = .ok [0x000E] := by decide +kernel
  obtain ⟨before, entry, after, hsplit, hentry, -, -, -, -, hfault⟩ := listed_method_found_iff
    (show patchyFile.classes = [] ++ patchyClass :: [] from hclasses)
    (show patchyClass.className = "A" from rfl)
    (show patchyClass.methods = [] ++ patchyMethod :: [] from rfl)
    (show patchyMethod.name = "m" from rfl) (by simp) (by simp)
  rw [hway] at hsplit
  rcases before with _ | ⟨first, _ | ⟨second, rest⟩⟩
  · cases hsplit
  · cases hsplit
    refine ⟨hclasses, hentry, hcode, hfault _ (.here ?_)⟩
    rintro ⟨name, entry, hstop, -⟩
    cases hstop
  · simp at hsplit

end AppSurvey.Dex
