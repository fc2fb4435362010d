import AppSurvey.Dex.Bundle
import AppSurvey.Proofs.Dex.Layout
import AppSurvey.Proofs.Outcome

/-!
# Three readings of a method

A method is read by number in three places: for its signature, for the listing of its class and for
the outline of its class. The look-ups are made in different orders, and a look-up that fails ends the
reading in one place and is passed over in another. `File.Describes` says what the readings have in
common: the name and the types of a method, each of them readable.
-/

namespace AppSurvey.Dex

namespace File

/-- The name, the parameter types and the result type of a method can be read, and are these. -/
structure Describes (file : File) (ref : MethodRef) (name : String) (parameters : List String)
    (returnType : String) : Prop where
  name : file.string ref.name.toNat = .ok name
  types : ∃ proto, file.proto ref.proto.toNat = .ok proto ∧
    file.typeName proto.returnType.toNat = .ok returnType ∧
    file.typeNames proto.parameters = .ok parameters


/-! ## Signatures -/

theorem resolve_eq_ok_iff {file : File} {index : Nat} {signature : Signature} :
    file.resolve index = .ok signature ↔
      ∃ ref className name parameters returnType, file.method index = .ok ref ∧
        file.typeName ref.owner.toNat = .ok className ∧
        file.Describes ref name parameters returnType ∧
        Signature.make className name parameters returnType = signature := by
  simp only [resolve, bind_eq_ok_iff, pure_eq_ok_iff]
  constructor
  · rintro ⟨ref, href, className, hclass, name, hname, proto, hproto, returnType, hreturn, parameters,
      hparameters, rfl⟩
    exact ⟨ref, className, name, parameters, returnType, href, hclass,
      ⟨hname, proto, hproto, hreturn, hparameters⟩, rfl⟩
  · rintro ⟨ref, className, name, parameters, returnType, href, hclass,
      ⟨hname, proto, hproto, hreturn, hparameters⟩, rfl⟩
    exact ⟨ref, href, className, hclass, name, hname, proto, hproto, returnType, hreturn, parameters,
      hparameters, rfl⟩

/-! ## Outlines -/

/-- The outline of a method with the given name and types. -/
def outlineWith (file : File) (entry : MethodEntry) (name : String) (parameters : List String)
    (returnType : String) : MethodOutline :=
  { name
    signature := Signature.memberText name parameters returnType
    access := ⟨entry.access⟩
    isPublic := (Access.mk entry.access).isPublic
    isPrivate := (Access.mk entry.access).isPrivate
    isStatic := (Access.mk entry.access).isStatic
    parameters
    returnType
    expressions := (Registers.empty.run file (file.readableCode entry)).2
    codeSize := (file.readableCode entry).length }

/-- Neither the class nor the code of a method decides whether it has an outline. -/
theorem outlineMethod_eq_ok_iff {file : File} {entry : MethodEntry} {outline : MethodOutline} :
    file.outlineMethod entry = .ok outline ↔
      ∃ ref name parameters returnType, file.method entry.method.toNat = .ok ref ∧
        file.Describes ref name parameters returnType ∧
        file.outlineWith entry name parameters returnType = outline := by
  simp only [outlineMethod, bind_eq_ok_iff, pure_eq_ok_iff]
  constructor
  · rintro ⟨ref, href, name, hname, proto, hproto, returnType, hreturn, parameters, hparameters, rfl⟩
    exact ⟨ref, name, parameters, returnType, href, ⟨hname, proto, hproto, hreturn, hparameters⟩, rfl⟩
  · rintro ⟨ref, name, parameters, returnType, href, ⟨hname, proto, hproto, hreturn, hparameters⟩,
      rfl⟩
    exact ⟨ref, href, name, hname, proto, hproto, returnType, hreturn, parameters, hparameters, rfl⟩

/-! ## Listings -/

/-- Where every type can be read, nothing is put in its place. -/
theorem map_typeName_getD {file : File} {parameters : List UInt16} {names : List String}
    (hnames : file.typeNames parameters = .ok names) (substitute : String) :
    (parameters.map fun parameter =>
      (file.typeName parameter.toNat).toOption.getD substitute) = names := by
  induction parameters generalizing names with
  | nil => simpa [typeNames, pure_eq_ok_iff] using hnames
  | cons parameter rest ih =>
      simp only [typeNames, List.mapM_cons, bind_eq_ok_iff, pure_eq_ok_iff] at hnames
      obtain ⟨name, hname, restNames, hrest, rfl⟩ := hnames
      rw [List.map_cons, hname, ih hrest]
      rfl

theorem listMethod_of_describes {file : File} {index : Nat} {ref : MethodRef}
    {owner name returnType : String} {parameters : List String}
    (href : file.method index = .ok ref) (howner : file.typeName ref.owner.toNat = .ok owner)
    (hdescribes : file.Describes ref name parameters returnType) (access : Access) :
    file.listMethod index access = .ok { name, parameters, returnType, owner, access } := by
  obtain ⟨hname, proto, hproto, hreturn, hparameters⟩ := hdescribes
  simp only [listMethod, bind_eq_ok_iff, pure_eq_ok_iff]
  refine ⟨ref, href, proto, hproto, name, hname, owner, howner, ?_⟩
  rw [map_typeName_getD hparameters, hreturn]
  rfl

end File

/-- The three readings of a method agree. A method with a signature is listed with the same names; and
it has a signature exactly if it has an outline and the name of its class can be read, the signature
being that of the outline with the class in front. Whether the code of the method can be read does not
matter. -/
theorem readings_of_method_agree (file : File) (index : Nat) (signature : Signature) :
    (file.resolve index = .ok signature → ∀ access, ∃ method,
      file.listMethod index access = .ok method ∧ method.name = signature.methodName ∧
        method.parameters = signature.parameters ∧ method.returnType = signature.returnType ∧
        method.owner = signature.className) ∧
      ∀ entry : MethodEntry, entry.method.toNat = index →
        (file.resolve index = .ok signature ↔
          ∃ outline ref className, file.outlineMethod entry = .ok outline ∧
            file.method index = .ok ref ∧ file.typeName ref.owner.toNat = .ok className ∧
            signature.className = className ∧ signature.methodName = outline.name ∧
            signature.parameters = outline.parameters ∧
            signature.returnType = outline.returnType ∧
            signature.full = className ++ "." ++ outline.signature) := by
  constructor
  · intro hresolve access
    obtain ⟨ref, className, name, parameters, returnType, href, hclass, hdescribes, rfl⟩ :=
      File.resolve_eq_ok_iff.mp hresolve
    exact ⟨_, File.listMethod_of_describes href hclass hdescribes access, rfl, rfl, rfl, rfl⟩
  · rintro entry rfl
    rw [File.resolve_eq_ok_iff]
    constructor
    · rintro ⟨ref, className, name, parameters, returnType, href, hclass, hdescribes, rfl⟩
      have houtline := File.outlineMethod_eq_ok_iff.mpr
        ⟨ref, name, parameters, returnType, href, hdescribes, rfl⟩
      exact ⟨_, ref, className, houtline, href, hclass, rfl, rfl, rfl, rfl, rfl⟩
    · rintro ⟨outline, ref, className, houtline, href, hclass, howner, hname, hparameters, hreturn,
        hfull⟩
      obtain ⟨other, name, parameters, returnType, hother, hdescribes, rfl⟩ :=
        File.outlineMethod_eq_ok_iff.mp houtline
      obtain rfl : ref = other := Except.ok.inj (href.symm.trans hother)
      refine ⟨ref, className, name, parameters, returnType, href, hclass, hdescribes, ?_⟩
      -- The outline gives every part of the signature but the class.
      cases signature
      dsimp only [File.outlineWith] at howner hname hparameters hreturn hfull
      subst howner hname hparameters hreturn hfull
      rfl

/-- The one method of the file has a signature, a listing and an outline, although its code would begin
behind the last byte. -/
theorem backwardMethod_readings_agree :
    let file : File := { image := backwardImage, header := backwardPlan.header }
    File.ofImage backwardImage = .ok file ∧
      file.resolve 0 = .ok (Signature.make "int" "I" ["é.A[]", "int"] "int") ∧
      file.code 243 = .error .truncated ∧
      (∃ method, file.listMethod 0 ⟨1⟩ = .ok method ∧ method.parameters = ["é.A[]", "int"] ∧
        method.owner = "int") ∧
      ∃ outline, file.outlineMethod ⟨0, 1, 243⟩ = .ok outline ∧
        outline.parameters = ["é.A[]", "int"] := by
  intro file
  have hresolve : file.resolve 0 = .ok (Signature.make "int" "I" ["é.A[]", "int"] "int") := by
    decide +kernel
  have hcode : file.code 243 = .error .truncated := by decide +kernel
  obtain ⟨hlisted, houtlined⟩ :=
    readings_of_method_agree file 0 (Signature.make "int" "I" ["é.A[]", "int"] "int")
  obtain ⟨method, hmethod, -, hparameters, -, howner⟩ := hlisted hresolve ⟨1⟩
  obtain ⟨outline, -, -, houtline, -, -, -, -, htypes, -⟩ :=
    (houtlined ⟨0, 1, 243⟩ rfl).mp hresolve
  exact ⟨backwardPlan_laidOut.ofImage_eq_ok, hresolve, hcode, ⟨method, hmethod, hparameters, howner⟩,
    outline, houtline, htypes.symm⟩

end AppSurvey.Dex
