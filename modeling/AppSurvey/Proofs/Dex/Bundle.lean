import AppSurvey.Proofs.Dex.Header
import AppSurvey.Proofs.Dex.Resolution
import Mathlib.Data.List.Forall2

/-!
# What the listing of a bundle keeps

Reading can fail for a file, a class, a member or the type of a parameter or result. A listing answers these
failures in four ways: it stops at a file, leaves out a class or a member, and puts another name in place of
a type. `File.IsClass`, `File.IsField` and `File.IsMethod` say what is to be listed in terms of the tables of
the file, and `Gathers` that nothing else is lost, repeated or moved.
-/

namespace AppSurvey.Dex

/-- The values that belong to the items, in order and each once. An item that no value belongs to is passed
over. -/
inductive Gathers {α β : Type} (belongs : α → β → Prop) : List α → List β → Prop
  | nil : Gathers belongs [] []
  | taken {item : α} {value : β} {items : List α} {values : List β} (hvalue : belongs item value)
      (hrest : Gathers belongs items values) : Gathers belongs (item :: items) (value :: values)
  | passed {item : α} {items : List α} {values : List β} (hnone : ∀ value, ¬ belongs item value)
      (hrest : Gathers belongs items values) : Gathers belongs (item :: items) values

section Gathering

variable {α β : Type} {belongs : α → β → Prop} {read : α → Except Fault β}

theorem gathers_filterMap (hread : ∀ item value, read item = .ok value ↔ belongs item value)
    (items : List α) : Gathers belongs items (items.filterMap fun item => (read item).toOption) := by
  induction items with
  | nil => exact .nil
  | cons item rest ih =>
      cases hitem : read item with
      | error fault =>
          simp only [List.filterMap_cons, hitem, Except.toOption]
          refine .passed (fun value hvalue => ?_) ih
          rw [← hread, hitem] at hvalue
          cases hvalue
      | ok value =>
          simp only [List.filterMap_cons, hitem, Except.toOption]
          exact .taken ((hread item value).mp hitem) ih

theorem gathers_iff (hread : ∀ item value, read item = .ok value ↔ belongs item value)
    {items : List α} {values : List β} :
    Gathers belongs items values ↔ items.filterMap (fun item => (read item).toOption) = values := by
  constructor
  · intro hgathers
    induction hgathers with
    | nil => rfl
    | taken hvalue _ ih =>
        rw [List.filterMap_cons, (hread _ _).mpr hvalue, ← ih]
        rfl
    | @passed item items values hnone _ ih =>
        cases hitem : read item with
        | error fault =>
            rw [List.filterMap_cons, hitem, ← ih]
            rfl
        | ok value => exact absurd ((hread item value).mp hitem) (hnone value)
  · rintro rfl
    exact gathers_filterMap hread items

theorem forall₂_iff_map_eq {view : α → β} (hview : ∀ item value, belongs item value ↔ view item = value)
    {items : List α} {values : List β} :
    List.Forall₂ belongs items values ↔ items.map view = values := by
  induction items generalizing values with
  | nil => simp [eq_comm]
  | cons item rest ih =>
      cases values with
      | nil => simp
      | cons value values => simp [ih, hview]

end Gathering

namespace File

/-! ## Members -/

/-- The name of a type, or another one where it cannot be read. -/
def NamedOr (file : File) (substitute : String) (index : Nat) (name : String) : Prop :=
  file.typeName index = .ok name ∨ (∃ fault, file.typeName index = .error fault) ∧ name = substitute

/-- A field whose names can all be read, with these flags. -/
def IsField (file : File) (index : UInt32) (flags : UInt32) (field : Field) : Prop :=
  ∃ ref, file.field index.toNat = .ok ref ∧ file.string ref.name.toNat = .ok field.name ∧
    file.typeName ref.type.toNat = .ok field.type ∧
    file.typeName ref.owner.toNat = .ok field.owner ∧ field.access.bits = flags

/-- A method whose name and class can be read, and whose prototype stands in its table. Its types need not
be readable. -/
def IsMethod (file : File) (entry : MethodEntry) (method : Method) : Prop :=
  ∃ ref proto, file.method entry.method.toNat = .ok ref ∧ file.proto ref.proto.toNat = .ok proto ∧
    file.string ref.name.toNat = .ok method.name ∧
    file.typeName ref.owner.toNat = .ok method.owner ∧
    List.Forall₂ (fun (parameter : UInt16) => file.NamedOr "unknown" parameter.toNat)
      proto.parameters method.parameters ∧
    file.NamedOr "void" proto.returnType.toNat method.returnType ∧
    method.access.bits = entry.access ∧ method.references = {}

variable {file : File}

theorem namedOr_iff {substitute : String} {index : Nat} {name : String} :
    file.NamedOr substitute index name ↔
      (file.typeName index).toOption.getD substitute = name := by
  unfold NamedOr
  cases file.typeName index with
  | error fault => simp [Except.toOption, eq_comm]
  | ok found => simp [Except.toOption]

theorem forall₂_namedOr_iff {substitute : String} {parameters : List UInt16} {names : List String} :
    List.Forall₂ (fun (parameter : UInt16) => file.NamedOr substitute parameter.toNat) parameters
        names ↔
      (parameters.map fun parameter =>
        (file.typeName parameter.toNat).toOption.getD substitute) = names := by
  apply forall₂_iff_map_eq
  intro parameter name
  exact namedOr_iff

theorem listField_eq_ok_iff {index : UInt32} {access : Access} {field : Field} :
    file.listField index.toNat access = .ok field ↔ file.IsField index access.bits field := by
  simp only [listField, bind_eq_ok_iff, pure_eq_ok_iff]
  constructor
  · rintro ⟨ref, href, name, hname, type, htype, owner, howner, rfl⟩
    exact ⟨ref, href, hname, htype, howner, rfl⟩
  · rintro ⟨ref, href, hname, htype, howner, hflags⟩
    refine ⟨ref, href, _, hname, _, htype, _, howner, ?_⟩
    cases access
    cases field with
    | mk name type owner access =>
        cases access
        simp only at hflags
        rw [hflags]

theorem listMethod_eq_ok_iff {entry : MethodEntry} {method : Method} :
    file.listMethod entry.method.toNat ⟨entry.access⟩ = .ok method ↔ file.IsMethod entry method := by
  simp only [listMethod, bind_eq_ok_iff, pure_eq_ok_iff]
  constructor
  · rintro ⟨ref, href, proto, hproto, name, hname, owner, howner, rfl⟩
    exact ⟨ref, proto, href, hproto, hname, howner, forall₂_namedOr_iff.mpr rfl,
      namedOr_iff.mpr rfl, rfl, rfl⟩
  · rintro ⟨ref, proto, href, hproto, hname, howner, hparameters, hreturn, haccess, hreferences⟩
    refine ⟨ref, href, proto, hproto, _, hname, _, howner, ?_⟩
    cases method with
    | mk name parameters returnType owner access references =>
        cases access
        simp only at haccess hreferences
        rw [forall₂_namedOr_iff.mp hparameters, namedOr_iff.mp hreturn, haccess, hreferences]

/-! ## Classes -/

/-- The readable members, list by list. A field from the list of static ones is marked as static. -/
structure ListsMembers (file : File) (data : ClassData) (c : Class) : Prop where
  fields : ∃ statics instances,
    Gathers (fun entry => file.IsField entry.field (entry.access ||| 0x8)) data.staticFields statics ∧
    Gathers (fun entry => file.IsField entry.field entry.access) data.instanceFields instances ∧
    c.fields = statics ++ instances
  methods : ∃ directs virtuals, Gathers file.IsMethod data.directMethods directs ∧
    Gathers file.IsMethod data.virtualMethods virtuals ∧ c.methods = directs ++ virtuals

/-- The class of a definition with readable name and members. -/
structure Shows (file : File) (definition : ClassDef) (data : ClassData) (c : Class) : Prop extends
    file.ListsMembers data c where
  className : file.typeName definition.type.toNat = .ok c.className
  parts : ⟨c.package, c.simpleName⟩ = ClassName.split c.className
  access : c.access.bits = definition.access
  superclass : ∀ name, c.superclass = some name ↔
    definition.superclass ≠ noIndex ∧ file.typeName definition.superclass.toNat = .ok name
  interfaces : c.interfaces = []
  references : c.references = {}

/-- The class of a number can be read, and is this one. -/
def IsClass (file : File) (index : Nat) (c : Class) : Prop :=
  ∃ definition data, file.classDef index = .ok definition ∧
    file.classData definition.classData.toNat = .ok data ∧ file.Shows definition data c

theorem superclassName_eq_some_iff {definition : ClassDef} {name : String} :
    file.superclassName definition = some name ↔
      definition.superclass ≠ noIndex ∧ file.typeName definition.superclass.toNat = .ok name := by
  unfold superclassName
  split
  next hnone => simp [hnone]
  next hsome =>
    cases file.typeName definition.superclass.toNat <;> simp [Except.toOption, hsome]

theorem listsMembers_iff {data : ClassData} {c : Class} :
    file.ListsMembers data c ↔ c.fields = file.listFields data ∧ c.methods = file.listMethods data := by
  have hstatic (entry : FieldEntry) (field : Field) :
      file.listField entry.field.toNat ((Access.mk entry.access).set 0x8) = .ok field ↔
        file.IsField entry.field (entry.access ||| 0x8) field := listField_eq_ok_iff
  have hinstance (entry : FieldEntry) (field : Field) :
      file.listField entry.field.toNat ⟨entry.access⟩ = .ok field ↔
        file.IsField entry.field entry.access field := listField_eq_ok_iff
  have hmethod (entry : MethodEntry) (method : Method) :
      file.listMethod entry.method.toNat ⟨entry.access⟩ = .ok method ↔
        file.IsMethod entry method := listMethod_eq_ok_iff
  constructor
  · rintro ⟨⟨statics, instances, hstatics, hinstances, hfields⟩, directs, virtuals, hdirects,
      hvirtuals, hmethods⟩
    rw [hfields, hmethods, listFields, listMethods, ClassData.methods, List.filterMap_append,
      ← (gathers_iff hstatic).mp hstatics, ← (gathers_iff hinstance).mp hinstances,
      ← (gathers_iff hmethod).mp hdirects, ← (gathers_iff hmethod).mp hvirtuals]
    exact ⟨rfl, rfl⟩
  · rintro ⟨hfields, hmethods⟩
    refine ⟨⟨_, _, gathers_filterMap hstatic _, gathers_filterMap hinstance _, hfields⟩,
      _, _, gathers_filterMap hmethod _, gathers_filterMap hmethod _, ?_⟩
    rw [hmethods, listMethods, ClassData.methods, List.filterMap_append]

theorem listClass_eq_ok_iff {index : Nat} {c : Class} :
    file.listClass index = .ok c ↔ file.IsClass index c := by
  simp only [listClass, bind_eq_ok_iff, pure_eq_ok_iff]
  constructor
  · rintro ⟨definition, hdefinition, className, hname, data, hdata, rfl⟩
    refine ⟨definition, data, hdefinition, hdata, listsMembers_iff.mpr ⟨rfl, rfl⟩, hname, ?_, rfl,
      fun name => superclassName_eq_some_iff, rfl, rfl⟩
    dsimp only [Class.named]
  · rintro ⟨definition, data, hdefinition, hdata, hshows⟩
    refine ⟨definition, hdefinition, _, hshows.className, data, hdata, ?_⟩
    obtain ⟨hfields, hmethods⟩ := listsMembers_iff.mp hshows.toListsMembers
    have hsuper : c.superclass = file.superclassName definition := by
      ext name
      rw [hshows.superclass, superclassName_eq_some_iff]
    have hparts := hshows.parts
    have haccess := hshows.access
    have hinterfaces := hshows.interfaces
    have hreferences := hshows.references
    cases c with
    | mk className package simpleName superclass interfaces access fields methods references =>
        cases access
        dsimp only at hfields hmethods hsuper hparts haccess hinterfaces hreferences
        subst hfields hmethods hsuper haccess hinterfaces hreferences
        rw [Class.named, ← hparts]

theorem forall₂_gathers_iff {files : List File} {listings : List (List Class)} :
    List.Forall₂ (fun file => Gathers file.IsClass (List.range file.classCount)) files listings ↔
      files.map File.classes = listings := by
  apply forall₂_iff_map_eq
  intro file listing
  exact gathers_iff fun _ _ => listClass_eq_ok_iff

end File

/-! ## Bundles -/

section Sequence

variable {α β : Type} {f : α → Except Fault β}

theorem mapM_eq_error_iff {items : List α} {fault : Fault} :
    items.mapM f = .error fault ↔ ∃ before item after, items = before ++ item :: after ∧
      (∀ earlier ∈ before, ∃ value, f earlier = .ok value) ∧ f item = .error fault := by
  constructor
  · intro hfault
    induction items with
    | nil => cases hfault
    | cons item rest ih =>
        rw [List.mapM_cons] at hfault
        cases hitem : f item with
        | error other =>
            rw [hitem] at hfault
            cases hfault
            exact ⟨[], item, rest, rfl, by simp, hitem⟩
        | ok value =>
            cases hrest : rest.mapM f with
            | ok values =>
                rw [hitem, hrest] at hfault
                cases hfault
            | error other =>
                rw [hitem, hrest] at hfault
                cases hfault
                obtain ⟨before, failing, after, rfl, hbefore, hfailing⟩ := ih hrest
                refine ⟨item :: before, failing, after, rfl, ?_, hfailing⟩
                exact List.forall_mem_cons.mpr ⟨⟨value, hitem⟩, hbefore⟩
  · rintro ⟨before, item, after, rfl, hbefore, hitem⟩
    induction before with
    | nil =>
        rw [List.nil_append, List.mapM_cons, hitem]
        rfl
    | cons first others ih =>
        obtain ⟨⟨value, hvalue⟩, hothers⟩ := List.forall_mem_cons.mp hbefore
        rw [List.cons_append, List.mapM_cons, hvalue, ih hothers]
        rfl

end Sequence

namespace Bundle

theorem classesOf_eq (entries : List Entry) :
    classesOf entries = (entries.mapM fun entry => File.ofImage entry.image) >>= fun files =>
      .ok (files.flatMap File.classes) := by
  induction entries with
  | nil => rfl
  | cons entry rest ih =>
      rw [classesOf, ih, List.mapM_cons]
      cases File.ofImage entry.image with
      | error fault => rfl
      | ok file =>
          cases rest.mapM fun entry => File.ofImage entry.image with
          | error fault => rfl
          | ok files => rfl

theorem classes_eq_error_iff {bundle : Bundle} {fault : Fault} :
    bundle.classes = .error fault ↔
      (bundle.entries.mapM fun entry => File.ofImage entry.image) = .error fault := by
  rw [classes, classesOf_eq]
  cases bundle.entries.mapM fun entry => File.ofImage entry.image with
  | error other => simp [bind, Except.bind]
  | ok files => simp [bind, Except.bind]

end Bundle

/-- Listing the classes of a bundle fails exactly if a header is rejected, for the reason of the first one.
Otherwise it gives the classes that can be read, file by file and in the order of their numbers, each with
the members that can be read. -/
theorem bundle_lists_all_readable (bundle : Bundle) :
    (∀ fault, bundle.classes = .error fault ↔
      ∃ opened entry rest, bundle.entries = opened ++ entry :: rest ∧
        (∀ earlier ∈ opened, ∃ file, File.ofImage earlier.image = .ok file) ∧
        Header.Rejected entry.image fault) ∧
    ∀ classes, bundle.classes = .ok classes ↔
      ∃ files listings,
        List.Forall₂ (fun entry file => File.ofImage entry.image = .ok file) bundle.entries files ∧
        List.Forall₂ (fun file => Gathers file.IsClass (List.range file.classCount)) files
          listings ∧
        classes = listings.flatten := by
  constructor
  · intro fault
    simp only [Bundle.classes_eq_error_iff, mapM_eq_error_iff, ofImage_eq_error_iff]
  · intro classes
    simp only [Bundle.classes, Bundle.classesOf_eq, bind_eq_ok_iff, mapM_eq_ok_iff,
      Except.ok.injEq, File.forall₂_gathers_iff]
    constructor
    · rintro ⟨files, hfiles, rfl⟩
      exact ⟨files, _, hfiles, rfl, List.flatMap_def⟩
    · rintro ⟨files, _, hfiles, rfl, rfl⟩
      exact ⟨files, hfiles, List.flatMap_def⟩

/-- A header with two classes, of which only the second can be read. -/
def patchyHeader : Header where
  magic := Header.mark
  version := [0x30, 0x33, 0x35, 0]
  checksum := 0
  signature := List.replicate 20 0
  fileSize := 265
  headerSize := 0x70
  endianTag := 0x12345678
  link := ⟨0, 0⟩
  mapOffset := 0
  strings := ⟨3, 112⟩
  types := ⟨3, 124⟩
  protos := ⟨1, 136⟩
  fields := ⟨0, 0⟩
  methods := ⟨1, 148⟩
  classes := ⟨2, 156⟩
  data := ⟨45, 220⟩

/-- The first class has no type, the second one declares a static field that does not exist and a method
whose parameter and result have no types. -/
def patchyFile : File where
  header := patchyHeader
  image := (List.flatten [
    patchyHeader.bytes,
    dwordBytes 254, dwordBytes 259, dwordBytes 262,
    dwordBytes 0, dwordBytes 2, dwordBytes 7,
    dwordBytes 2, dwordBytes 9, dwordBytes 220,
    MethodRef.bytes ⟨0, 0, 1⟩,
    ClassDef.bytes ⟨9, 1, 0xFFFFFFFF, 0, 0xFFFFFFFF, 0, 0, 0⟩,
    ClassDef.bytes ⟨0, 1, 0xFFFFFFFF, 0, 0xFFFFFFFF, 0, 244, 0⟩,
    countedWords 1 [2],
    CodeItem.bytes ⟨1, 1, 0, 0, 0, [0x000E]⟩ 1,
    [1, 0, 1, 0, 5, 1, 0, 1, 0xE2, 1],
    varintBytes 3, Utf8.encode "LA;", [0],
    varintBytes 1, Utf8.encode "m", [0],
    varintBytes 1, Utf8.encode "V", [0]]).toArray

theorem patchyFile_opens : File.ofImage patchyFile.image = .ok patchyFile :=
  ofImage_eq rfl rfl rfl rfl (by decide +kernel)

/-- The one method of the second class, as it is listed. -/
def patchyMethod : Method where
  name := "m"
  parameters := ["unknown"]
  returnType := "void"
  owner := "A"
  access := ⟨1⟩

/-- The second class, as it is listed. -/
def patchyClass : Class where
  className := "A"
  package := ""
  simpleName := "A"
  access := ⟨1⟩
  methods := [patchyMethod]

theorem patchyFile_listed :
    (Bundle.mk [⟨"classes.dex", patchyFile.image⟩]).classes = .ok [patchyClass] ∧
      (Bundle.mk [⟨"classes.dex", patchyFile.image⟩, ⟨"classes2.dex", #[]⟩,
        ⟨"classes3.dex", patchyFile.image⟩]).classes = .error .tooSmall := by
  constructor
  · refine ((bundle_lists_all_readable _).2 _).mpr
      ⟨[patchyFile], [_], .cons patchyFile_opens .nil, .cons ?_ .nil, List.flatten_singleton.symm⟩
    change Gathers patchyFile.IsClass [0, 1] _
    refine .passed (fun c hc => ?_) (.taken (File.listClass_eq_ok_iff.mp ?_) .nil)
    · have hfault : patchyFile.listClass 0 = .error (.outOfBounds .types 9) := by decide +kernel
      rw [← File.listClass_eq_ok_iff, hfault] at hc
      cases hc
    · decide +kernel
  · refine ((bundle_lists_all_readable _).1 _).mpr ⟨[_], _, [_], rfl, ?_, .tooSmall (by decide)⟩
    exact List.forall_mem_singleton.mpr ⟨patchyFile, patchyFile_opens⟩

end AppSurvey.Dex
