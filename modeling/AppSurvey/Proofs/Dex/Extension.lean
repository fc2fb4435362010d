import AppSurvey.Dex.Outline
import AppSurvey.Proofs.Dex.Layout

/-!
# Bytes behind the end

A reader goes forward from a position and learns where the image ends only by running into the end, which
is the fault `truncated`. Every other answer, a value or a fault, rests on bytes that are there, so it
stays what it is when bytes are appended. `Kept` says this of two answers, and it passes from the readers
of single bytes through sequences, loops and look-ups in several tables to every question that a file
answers.
-/

namespace AppSurvey.Dex

/-! ## Answers that stay -/

/-- The second answer is the first one again, unless the first one came from the end of the image. -/
def Kept {α : Type} (answer longer : Except Fault α) : Prop :=
  answer ≠ .error .truncated → longer = answer

section Answers

variable {α β : Type}

theorem Kept.refl (answer : Except Fault α) : Kept answer answer :=
  fun _ => rfl

theorem Kept.truncated (longer : Except Fault α) : Kept (.error .truncated) longer :=
  fun hanswer => absurd rfl hanswer

theorem Kept.bind {first firstLonger : Except Fault α} {next nextLonger : α → Except Fault β}
    (hfirst : Kept first firstLonger) (hnext : ∀ value, Kept (next value) (nextLonger value)) :
    Kept (first >>= next) (firstLonger >>= nextLonger) := by
  intro hanswer
  cases first with
  | error fault =>
      have hfault : (.error fault : Except Fault α) ≠ .error .truncated := by
        rintro ⟨⟩
        exact hanswer rfl
      rw [hfirst hfault]
      rfl
  | ok value =>
      rw [hfirst (by simp)]
      exact hnext value hanswer

theorem Kept.map {answer longer : Except Fault α} (hanswer : Kept answer longer) (f : α → β) :
    Kept (answer.map f) (longer.map f) := by
  cases answer with
  | error fault =>
      intro hmapped
      rw [hanswer (by rintro ⟨⟩; exact hmapped rfl)]
  | ok value =>
      rw [hanswer (by simp)]
      exact Kept.refl _

theorem Kept.ite {condition : Prop} [Decidable condition]
    {first firstLonger second secondLonger : Except Fault α} (hfirst : Kept first firstLonger)
    (hsecond : Kept second secondLonger) :
    Kept (if condition then first else second)
      (if condition then firstLonger else secondLonger) := by
  split
  · exact hfirst
  · exact hsecond

theorem Kept.mapM {f longer : α → Except Fault β} (hf : ∀ item, Kept (f item) (longer item))
    (items : List α) : Kept (items.mapM f) (items.mapM longer) := by
  induction items with
  | nil => exact Kept.refl _
  | cons item rest ih =>
      rw [List.mapM_cons, List.mapM_cons]
      exact (hf item).bind fun value => ih.bind fun values => Kept.refl _

end Answers

/-! ## Readers -/

namespace Reader

/-- What the reader gives stays when bytes are appended. -/
def Keeps {α : Type} (reader : Reader α) : Prop :=
  ∀ image suffix position, Kept (reader image position) (reader (image ++ suffix) position)

section Composition

variable {α β : Type}

theorem Keeps.pure (value : α) : (Pure.pure value : Reader α).Keeps :=
  fun _ _ _ => Kept.refl _

theorem Keeps.throw (fault : Fault) : (MonadExcept.throw fault : Reader α).Keeps :=
  fun _ _ _ => Kept.refl _

theorem Keeps.bind {first : Reader α} {next : α → Reader β} (hfirst : first.Keeps)
    (hnext : ∀ value, (next value).Keeps) : (first >>= next).Keeps := by
  intro image suffix position
  exact (hfirst image suffix position).bind fun result => hnext result.1 image suffix result.2

theorem Keeps.ite {condition : Prop} [Decidable condition] {first second : Reader α}
    (hfirst : first.Keeps) (hsecond : second.Keeps) :
    (if condition then first else second : Reader α).Keeps := by
  split
  · exact hfirst
  · exact hsecond

theorem Keeps.times {reader : Reader α} (hreader : reader.Keeps) (n : Nat) :
    (reader.times n).Keeps := by
  induction n with
  | zero => exact Keeps.pure []
  | succ n ih => exact hreader.bind fun _ => ih.bind fun _ => Keeps.pure _

theorem Keeps.readAt {reader : Reader α} (hreader : reader.Keeps) (image suffix : Image)
    (position : Nat) : Kept (reader.readAt image position) (reader.readAt (image ++ suffix) position) :=
  (hreader image suffix position).map Prod.fst

end Composition

theorem keeps_byte : byte.Keeps := by
  intro image suffix position
  unfold byte
  cases hbyte : image[position]? with
  | none => exact Kept.truncated _
  | some b =>
      obtain ⟨hposition, -⟩ := Array.getElem?_eq_some_iff.mp hbyte
      rw [Array.getElem?_append_left hposition, hbyte]
      exact Kept.refl _

theorem keeps_word : word.Keeps :=
  keeps_byte.bind fun _ => keeps_byte.bind fun _ => Keeps.pure _

theorem keeps_dword : dword.Keeps :=
  keeps_word.bind fun _ => keeps_word.bind fun _ => Keeps.pure _

theorem keeps_groups (left : Nat) (value shift : UInt32) : (groups left value shift).Keeps := by
  induction left generalizing value shift with
  | zero => exact Keeps.throw _
  | succ left ih => exact keeps_byte.bind fun _ => .ite (Keeps.pure _) (ih _ _)

theorem keeps_varint : varint.Keeps :=
  keeps_groups 5 0 0

/-- The bound on the search for a zero byte grows with the image, and a larger bound only lets the search
go on where it would have run into the end. -/
theorem kept_untilZero {left more : Nat} (hleft : left ≤ more) (image suffix : Image)
    (position : Nat) :
    Kept (untilZero left image position) (untilZero more (image ++ suffix) position) := by
  induction left generalizing more position with
  | zero => exact Kept.truncated _
  | succ left ih =>
      obtain ⟨more, rfl⟩ := Nat.exists_eq_add_of_le' (Nat.le_trans (Nat.le_add_left 1 left) hleft)
      -- The same byte is read on both sides; only what is left of the bounds differs.
      refine (keeps_byte image suffix position).bind fun (b, next) => ?_
      by_cases hzero : b = 0
      · simp only [hzero, ↓reduceIte]
        exact Kept.refl _
      · simp only [hzero, ↓reduceIte]
        exact (ih (Nat.le_of_succ_le_succ hleft) next).bind fun _ => Kept.refl _

theorem keeps_zeroTerminated : zeroTerminated.Keeps := by
  intro image suffix position
  refine kept_untilZero ?_ image suffix position
  rw [Array.size_append]
  omega

end Reader

open Reader

theorem keeps_readExtent : Header.readExtent.Keeps :=
  keeps_dword.bind fun _ => keeps_dword.bind fun _ => Keeps.pure _

theorem keeps_readHeader : Header.read.Keeps := by
  refine (keeps_byte.times 4).bind fun _ => .ite ?_ (Keeps.throw _)
  refine (keeps_byte.times 4).bind fun _ => keeps_dword.bind fun _ =>
    (keeps_byte.times 20).bind fun _ => keeps_dword.bind fun _ => keeps_dword.bind fun _ =>
      .ite ?_ (Keeps.throw _)
  exact keeps_dword.bind fun _ => keeps_readExtent.bind fun _ => keeps_dword.bind fun _ =>
    keeps_readExtent.bind fun _ => keeps_readExtent.bind fun _ => keeps_readExtent.bind fun _ =>
      keeps_readExtent.bind fun _ => keeps_readExtent.bind fun _ => keeps_readExtent.bind fun _ =>
        keeps_readExtent.bind fun _ => Keeps.pure _

namespace ClassData

theorem keeps_readFields (last : UInt32) (n : Nat) : (readFields last n).Keeps := by
  induction n generalizing last with
  | zero => exact Keeps.pure []
  | succ n ih =>
      exact keeps_varint.bind fun difference => keeps_varint.bind fun _ =>
        (ih (last + difference)).bind fun _ => Keeps.pure _

theorem keeps_readMethods (last : UInt32) (n : Nat) : (readMethods last n).Keeps := by
  induction n generalizing last with
  | zero => exact Keeps.pure []
  | succ n ih =>
      exact keeps_varint.bind fun difference => keeps_varint.bind fun _ => keeps_varint.bind fun _ =>
        (ih (last + difference)).bind fun _ => Keeps.pure _

theorem keeps_read : ClassData.read.Keeps :=
  keeps_varint.bind fun _ => keeps_varint.bind fun _ => keeps_varint.bind fun _ =>
    keeps_varint.bind fun _ => (keeps_readFields _ _).bind fun _ => (keeps_readFields _ _).bind fun _ =>
      (keeps_readMethods _ _).bind fun _ => (keeps_readMethods _ _).bind fun _ => Keeps.pure _

end ClassData

/-! ## Files -/

namespace File

/-- The file with bytes behind its end. -/
def extend (file : File) (suffix : Image) : File :=
  { file with image := file.image ++ suffix }

/-- A header that can be read is read again with bytes behind it. -/
theorem ofImage_append {image : Image} {file : File} (hfile : ofImage image = .ok file)
    (suffix : Image) : ofImage (image ++ suffix) = .ok (file.extend suffix) := by
  -- The size of the image is looked at before its header, and a larger one passes too.
  have hlarge : ¬ image.size < Header.byteCount := by
    intro hsmall
    rw [ofImage, if_pos hsmall] at hfile
    cases hfile
  have hlonger : ¬ (image ++ suffix).size < Header.byteCount := by
    rw [Array.size_append]
    omega
  rw [ofImage, if_neg hlarge] at hfile
  rw [ofImage, if_neg hlonger]
  have hkept := keeps_readHeader.readAt image suffix 0
  cases hheader : Header.read.readAt image 0 with
  | error fault =>
      rw [hheader] at hfile
      cases hfile
  | ok header =>
      rw [hheader] at hfile hkept
      rw [hkept (by simp)]
      cases hfile
      rfl

variable (file : File) (suffix : Image)

theorem kept_item {α : Type} {reader : Reader α} (hreader : reader.Keeps) (table : Table)
    (index : Nat) :
    Kept (file.item table index reader) ((file.extend suffix).item table index reader) :=
  .ite (Kept.refl _) (hreader.readAt file.image suffix _)

theorem kept_textAt (offset : Nat) :
    Kept (file.textAt offset) ((file.extend suffix).textAt offset) :=
  ((keeps_varint.bind fun _ => keeps_zeroTerminated).readAt file.image suffix offset).bind
    fun _ => Kept.refl _

theorem kept_string (index : Nat) : Kept (file.string index) ((file.extend suffix).string index) :=
  (file.kept_item suffix keeps_dword .strings index).bind fun offset =>
    file.kept_textAt suffix offset.toNat

theorem kept_typeName (index : Nat) :
    Kept (file.typeName index) ((file.extend suffix).typeName index) :=
  (file.kept_item suffix keeps_dword .types index).bind fun descriptor =>
    (file.kept_string suffix descriptor.toNat).bind fun _ => Kept.refl _

theorem kept_readParameters (image : Image) (offset : Nat) :
    Kept (Proto.readParameters image offset) (Proto.readParameters (image ++ suffix) offset) :=
  .ite (Kept.refl _)
    ((keeps_dword.bind fun size => keeps_word.times size.toNat).readAt image suffix offset)

theorem kept_proto (index : Nat) : Kept (file.proto index) ((file.extend suffix).proto index) := by
  refine (file.kept_item suffix ?_ .protos index).bind fun (returnType, parameters) => ?_
  · exact keeps_dword.bind fun _ => keeps_dword.bind fun _ => keeps_dword.bind fun _ => Keeps.pure _
  · exact (kept_readParameters suffix file.image parameters.toNat).bind fun _ => Kept.refl _

theorem kept_field (index : Nat) : Kept (file.field index) ((file.extend suffix).field index) :=
  file.kept_item suffix
    (keeps_word.bind fun _ => keeps_word.bind fun _ => keeps_dword.bind fun _ => Keeps.pure _) .fields index

theorem kept_method (index : Nat) : Kept (file.method index) ((file.extend suffix).method index) :=
  file.kept_item suffix
    (keeps_word.bind fun _ => keeps_word.bind fun _ => keeps_dword.bind fun _ => Keeps.pure _) .methods index

theorem kept_classDef (index : Nat) :
    Kept (file.classDef index) ((file.extend suffix).classDef index) := by
  refine file.kept_item suffix ?_ .classes index
  exact keeps_dword.bind fun _ => keeps_dword.bind fun _ => keeps_dword.bind fun _ =>
    keeps_dword.bind fun _ => keeps_dword.bind fun _ => keeps_dword.bind fun _ =>
      keeps_dword.bind fun _ => keeps_dword.bind fun _ => Keeps.pure _

theorem kept_classData (offset : Nat) :
    Kept (file.classData offset) ((file.extend suffix).classData offset) :=
  .ite (Kept.refl _) (ClassData.keeps_read.readAt file.image suffix offset)

theorem kept_code (offset : Nat) : Kept (file.code offset) ((file.extend suffix).code offset) := by
  refine .ite (Kept.refl _) (Keeps.readAt ?_ file.image suffix offset)
  exact keeps_word.bind fun _ => keeps_word.bind fun _ => keeps_word.bind fun _ =>
    keeps_word.bind fun _ => keeps_dword.bind fun _ => keeps_dword.bind fun size =>
      keeps_word.times size.toNat

theorem kept_resolve (index : Nat) :
    Kept (file.resolve index) ((file.extend suffix).resolve index) := by
  refine (file.kept_method suffix index).bind fun method => ?_
  refine (file.kept_typeName suffix method.owner.toNat).bind fun _ => ?_
  refine (file.kept_string suffix method.name.toNat).bind fun _ => ?_
  refine (file.kept_proto suffix method.proto.toNat).bind fun proto => ?_
  refine (file.kept_typeName suffix proto.returnType.toNat).bind fun _ => ?_
  have hparameters := Kept.mapM (fun parameter => file.kept_typeName suffix parameter.toNat)
    proto.parameters
  exact hparameters.bind fun _ => Kept.refl _

/-- The search among the methods of a class looks at one method after the other, and ends at the same
one. -/
theorem kept_codeIn (methodName : String) (entries : List MethodEntry) :
    Kept (file.codeIn methodName entries) ((file.extend suffix).codeIn methodName entries) := by
  induction entries with
  | nil => exact Kept.refl _
  | cons entry rest ih =>
      refine (file.kept_method suffix entry.method.toNat).bind fun method => ?_
      refine (file.kept_string suffix method.name.toNat).bind fun name => ?_
      exact .ite ((file.kept_code suffix entry.code.toNat).bind fun _ => Kept.refl _) ih

theorem kept_codeFrom (className methodName : String) (count index : Nat) :
    Kept (file.codeFrom className methodName count index)
      ((file.extend suffix).codeFrom className methodName count index) := by
  induction count generalizing index with
  | zero => exact Kept.refl _
  | succ count ih =>
      refine (file.kept_classDef suffix index).bind fun definition => ?_
      refine (file.kept_typeName suffix definition.type.toNat).bind fun name => ?_
      refine .ite ?_ (ih (index + 1))
      refine (file.kept_classData suffix definition.classData.toNat).bind fun data => ?_
      refine (file.kept_codeIn suffix methodName data.methods).bind fun found => ?_
      cases found with
      | none => exact ih (index + 1)
      | some words => exact Kept.refl _

end File

/-- A DEX file stays one when bytes are appended, with the same header, and it answers every question as
before. Only where the answer was that the image ends too early can there be another one. -/
theorem appended_bytes_keep_answers {image : Image} {file : File}
    (hfile : File.ofImage image = .ok file) (suffix : Image) :
    ∃ longer, File.ofImage (image ++ suffix) = .ok longer ∧ longer.header = file.header ∧
      (∀ index, Kept (file.string index) (longer.string index)) ∧
      (∀ index, Kept (file.typeName index) (longer.typeName index)) ∧
      (∀ index, Kept (file.classDef index) (longer.classDef index)) ∧
      (∀ offset, Kept (file.classData offset) (longer.classData offset)) ∧
      (∀ index, Kept (file.field index) (longer.field index)) ∧
      (∀ index, Kept (file.method index) (longer.method index)) ∧
      (∀ index, Kept (file.proto index) (longer.proto index)) ∧
      (∀ offset, Kept (file.code offset) (longer.code offset)) ∧
      (∀ index, Kept (file.resolve index) (longer.resolve index)) ∧
      ∀ className methodName,
        Kept (file.findCode className methodName) (longer.findCode className methodName) :=
  ⟨file.extend suffix, File.ofImage_append hfile suffix, rfl, file.kept_string suffix,
    file.kept_typeName suffix, file.kept_classDef suffix, file.kept_classData suffix,
    file.kept_field suffix, file.kept_method suffix, file.kept_proto suffix, file.kept_code suffix,
    file.kept_resolve suffix, fun className methodName =>
      file.kept_codeFrom suffix className methodName file.classCount 0⟩

/-- A code item behind the end of the image can be read from then on. A signature, a text that is refused
and a class that is not found stay as they were. -/
theorem backwardImage_extended :
    ∃ file longer, File.ofImage backwardImage = .ok file ∧
      File.ofImage (backwardImage ++ ((CodeItem.mk 0 0 0 0 0 [0x0E]).bytes 1).toArray) = .ok longer ∧
      file.code 243 = .error .truncated ∧ longer.code 243 = .ok [0x0E] ∧
      longer.resolve 0 = .ok (Signature.make "int" "I" ["é.A[]", "int"] "int") ∧
      longer.string 2 = .error (.outOfBounds .strings 2) ∧ longer.findCode "int" "I" = .ok none := by
  let file : File := { image := backwardImage, header := backwardPlan.header }
  have hfile : File.ofImage backwardImage = .ok file := backwardPlan_laidOut.ofImage_eq_ok
  have hresolve : file.resolve 0 = .ok (Signature.make "int" "I" ["é.A[]", "int"] "int") := by
    decide +kernel
  have hstring : file.string 2 = .error (.outOfBounds .strings 2) := by decide +kernel
  have hcode : file.findCode "int" "I" = .ok none := by decide +kernel
  obtain ⟨longer, hlonger, -, hstrings, -, -, -, -, -, -, -, hresolves, hcodes⟩ :=
    appended_bytes_keep_answers hfile ((CodeItem.mk 0 0 0 0 0 [0x0E]).bytes 1).toArray
  refine ⟨file, longer, hfile, hlonger, by decide +kernel, ?_, ?_, ?_, ?_⟩
  · have heq := Except.ok.inj (hlonger.symm.trans (File.ofImage_append hfile _))
    rw [heq]
    decide +kernel
  · rw [hresolves 0 (by rw [hresolve]; simp), hresolve]
  · rw [hstrings 2 (by rw [hstring]; simp), hstring]
  · rw [hcodes "int" "I" (by rw [hcode]; simp), hcode]

end AppSurvey.Dex
