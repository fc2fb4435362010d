import AppSurvey.Dex.Member
import AppSurvey.Dex.Outline

/-!
# Bundles of DEX files

An app holds one or more DEX files. Listing the classes of a bundle fails only where a file has no
readable header: a class or a member that cannot be read costs only itself.
-/

namespace AppSurvey.Dex

/-- A named DEX file of an app, not yet opened. -/
structure Entry where
  name : String
  image : Image

/-- The DEX files of an app, in order. -/
structure Bundle where
  entries : List Entry

namespace File

/-- A field with its names. -/
def listField (file : File) (index : Nat) (access : Access) : Except Fault Field := do
  let field ← file.field index
  let name ← file.string field.name.toNat
  let type ← file.typeName field.type.toNat
  let owner ← file.typeName field.owner.toNat
  return { name, type, owner, access }

/-- A method with its names. Types that cannot be read do not hide the method: a parameter is then
`unknown` and a result `void`. -/
def listMethod (file : File) (index : Nat) (access : Access) : Except Fault Method := do
  let method ← file.method index
  let proto ← file.proto method.proto.toNat
  let name ← file.string method.name.toNat
  let owner ← file.typeName method.owner.toNat
  let parameters := proto.parameters.map fun parameter =>
    (file.typeName parameter.toNat).toOption.getD "unknown"
  let returnType := (file.typeName proto.returnType.toNat).toOption.getD "void"
  return { name, parameters, returnType, owner, access }

/-- The readable fields of a class, static ones first and marked as static. -/
def listFields (file : File) (data : ClassData) : List Field :=
  (data.staticFields.filterMap fun entry =>
      (file.listField entry.field.toNat ((Access.mk entry.access).set 0x8)).toOption) ++
    data.instanceFields.filterMap fun entry =>
      (file.listField entry.field.toNat ⟨entry.access⟩).toOption

/-- The readable methods of a class, direct ones first. -/
def listMethods (file : File) (data : ClassData) : List Method :=
  data.methods.filterMap fun entry =>
    (file.listMethod entry.method.toNat ⟨entry.access⟩).toOption

/-- The class of a number. -/
def listClass (file : File) (index : Nat) : Except Fault Class := do
  let definition ← file.classDef index
  let className ← file.typeName definition.type.toNat
  let data ← file.classData definition.classData.toNat
  return { Class.named className with
    access := ⟨definition.access⟩
    superclass := file.superclassName definition
    fields := file.listFields data
    methods := file.listMethods data }

/-- The readable classes of a file, in order. -/
def classes (file : File) : List Class :=
  (List.range file.classCount).filterMap fun index => (file.listClass index).toOption

end File

namespace Bundle

/-- How many files the bundle has. -/
def size (bundle : Bundle) : Nat := bundle.entries.length

/-- The classes of one file. -/
def fileClasses (bundle : Bundle) (index : Nat) : Except Fault (List Class) :=
  match bundle.entries[index]? with
  | none => .error (.noSuchFile index bundle.size)
  | some entry => (File.ofImage entry.image).map File.classes

/-- The classes of the given entries, in order. -/
def classesOf : List Entry → Except Fault (List Class)
  | [] => .ok []
  | entry :: rest => do
      let file ← File.ofImage entry.image
      let others ← classesOf rest
      return file.classes ++ others

/-- The classes of all files, in order. -/
def classes (bundle : Bundle) : Except Fault (List Class) :=
  classesOf bundle.entries

end Bundle

end AppSurvey.Dex
