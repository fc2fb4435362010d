import AppSurvey.Dex.Descriptor
import Mathlib.Data.List.TakeWhile

/-!
# Types and their descriptors

A type is a primitive one, a class or an array. Its descriptor is what a DEX file holds, its name is
what a programmer writes, and `Descriptor.typeName` leads from the one to the other. Different types have
different names, classes that are named like a primitive type apart.
-/

namespace AppSurvey.Dex

/-- The types that are no classes. -/
inductive Primitive where
  | void | boolean | byte | short | char | int | long | float | double
  deriving DecidableEq

namespace Primitive

/-- The descriptor of the type. -/
def letter : Primitive → Char
  | .void => 'V'
  | .boolean => 'Z'
  | .byte => 'B'
  | .short => 'S'
  | .char => 'C'
  | .int => 'I'
  | .long => 'J'
  | .float => 'F'
  | .double => 'D'

def name : Primitive → String
  | .void => "void"
  | .boolean => "boolean"
  | .byte => "byte"
  | .short => "short"
  | .char => "char"
  | .int => "int"
  | .long => "long"
  | .float => "float"
  | .double => "double"

end Primitive

/-- The full name of a class with `/` between its parts. -/
structure ClassPath where
  chars : List Char
  nonempty : chars ≠ []
  plain : ∀ c ∈ chars, c ≠ ';' ∧ c ≠ '.' ∧ c ≠ '['

/-- A type of the language. -/
inductive JavaType where
  | primitive (type : Primitive)
  | object (path : ClassPath)
  | array (element : JavaType)

namespace JavaType

/-- The characters of the descriptor of a type. -/
def descriptorChars : JavaType → List Char
  | .primitive type => [type.letter]
  | .object path => 'L' :: (path.chars ++ [';'])
  | .array element => '[' :: element.descriptorChars

/-- The characters of the name of a type. -/
def nameChars : JavaType → List Char
  | .primitive type => type.name.toList
  | .object path => path.chars.map fun c => if c = '/' then '.' else c
  | .array element => element.nameChars ++ ['[', ']']

/-- The descriptor of a type. -/
def descriptor (type : JavaType) : String := String.ofList type.descriptorChars

/-- The name of a type. -/
def name (type : JavaType) : String := String.ofList type.nameChars

end JavaType

namespace Descriptor

open Text

theorem trimEnd_concat_of_notMem {mark : Char} {text : List Char} (hmark : mark ∉ text) :
    trimEnd mark (text ++ [mark]) = text := by
  have hdrop : text.reverse.dropWhile (· == mark) = text.reverse := by
    rw [List.dropWhile_eq_self_iff]
    intro hlength hhead
    apply hmark
    rw [beq_iff_eq] at hhead
    rw [← hhead, ← List.mem_reverse]
    exact List.getElem_mem hlength
  rw [trimEnd, List.reverse_append, List.reverse_singleton, List.singleton_append,
    List.dropWhile_cons_of_pos (by simp), hdrop, List.reverse_reverse]

/-! ## Brackets -/

/-- The brackets in front have one byte each, so the text can be cut behind them. -/
theorem behind?_depth (text : List Char) :
    behind? (depth text) text = some (text.dropWhile (· == '[')) := by
  fun_induction depth text with
  | case1 rest ih =>
      have hcut : behind? (depth rest + 1) ('[' :: rest) = behind? (depth rest) rest := by
        simp only [behind?, cutAt?, show '['.utf8Size = 1 from rfl, Nat.le_add_left, if_true,
          Nat.add_sub_cancel, Option.map_map]
        rfl
      rw [hcut, ih]
      rfl
  | case2 text hplain =>
      have hwhole : text.dropWhile (· == '[') = text := by
        cases text with
        | nil => rfl
        | cons c rest =>
            refine List.dropWhile_cons_of_neg fun hc => ?_
            exact hplain rest (by rw [eq_of_beq hc])
      rw [hwhole]
      simp [behind?, cutAt?]

theorem base_eq (text : List Char) : base text = text.dropWhile (· == '[') := by
  rw [base, behind?_depth, Option.getD_some]

/-- A bracket in front adds a pair of brackets to the name. -/
theorem typeNameOf_bracket (element : List Char) :
    typeNameOf ('[' :: element) = typeNameOf element ++ ['[', ']'] := by
  have hbase : base ('[' :: element) = base element := by
    rw [base_eq, base_eq, List.dropWhile_cons_of_pos (by rfl)]
  rw [typeNameOf, typeNameOf, hbase, depth, List.replicate_succ', List.flatten_append,
    List.append_assoc]
  rfl

/-- A text without a bracket in front is its own element type. -/
theorem typeNameOf_plain {c : Char} (hc : c ≠ '[') (rest : List Char) :
    typeNameOf (c :: rest) = baseName (c :: rest) := by
  have hdepth : depth (c :: rest) = 0 := by
    rw [depth]
    rintro _ ⟨⟩
    exact hc rfl
  rw [typeNameOf, hdepth, base_eq, List.dropWhile_cons_of_neg (by simpa using hc)]
  exact List.append_nil _

theorem typeNameOf_descriptorChars (type : JavaType) :
    typeNameOf type.descriptorChars = type.nameChars := by
  induction type with
  | primitive type => cases type <;> rfl
  | object path =>
      have hmark : ';' ∉ path.chars := fun hmem => (path.plain _ hmem).1 rfl
      rw [JavaType.descriptorChars, typeNameOf_plain (by decide)]
      change className (path.chars ++ [';']) = _
      rw [className, trimEnd_concat_of_notMem hmark]
      rfl
  | array element ih =>
      rw [JavaType.descriptorChars, typeNameOf_bracket, ih]
      rfl

/-- A descriptor names its type. -/
theorem typeName_descriptor (type : JavaType) : typeName type.descriptor = type.name := by
  rw [typeName, JavaType.descriptor, String.toList_ofList, typeNameOf_descriptorChars]
  rfl

end Descriptor

/-! ## Types that have one name -/

theorem Primitive.name_inj {type other : Primitive} (hname : type.name.toList = other.name.toList) :
    type = other := by
  revert hname
  cases type <;> cases other <;> decide

/-- The name of a primitive type is one word. -/
theorem Primitive.name_plain (type : Primitive) :
    '/' ∉ type.name.toList ∧ '.' ∉ type.name.toList ∧ '[' ∉ type.name.toList := by
  cases type <;> decide

@[ext]
theorem ClassPath.ext {path other : ClassPath} (hchars : path.chars = other.chars) : path = other := by
  cases path
  cases other
  cases hchars
  rfl

theorem ClassPath.dot_notMem (path : ClassPath) : '.' ∉ path.chars :=
  fun hmem => (path.plain _ hmem).2.1 rfl

namespace JavaType

/-- No class below the brackets is named like a primitive type. -/
def HasOwnName : JavaType → Prop
  | .primitive _ => True
  | .object path => ∀ type : Primitive, path.chars ≠ type.name.toList
  | .array element => element.HasOwnName

/-- Characters without a dot are known from what they are once slashes are dots. -/
theorem eq_of_dotted_eq {text other : List Char} (htext : '.' ∉ text) (hother : '.' ∉ other)
    (hdotted : (text.map fun c => if c = '/' then '.' else c) =
      other.map fun c => if c = '/' then '.' else c) : text = other := by
  -- Each dot is taken back into a slash.
  have hback : ∀ chars : List Char, '.' ∉ chars →
      ((chars.map fun c => if c = '/' then '.' else c).map fun c => if c = '.' then '/' else c) =
        chars := by
    intro chars hchars
    rw [List.map_map, List.map_congr_left (g := id), List.map_id]
    intro c hc
    have hdot : c ≠ '.' := fun heq => hchars (heq ▸ hc)
    by_cases hslash : c = '/'
    · simp [hslash]
    · simp [hslash, hdot]
  rw [← hback text htext, hdotted, hback other hother]

/-- A class is named like a primitive type only if its path is. -/
theorem object_ne_primitive {path : ClassPath} (hown : (object path).HasOwnName) (type : Primitive) :
    (object path).nameChars ≠ (primitive type).nameChars := by
  intro hname
  obtain ⟨hslash, hdot, -⟩ := type.name_plain
  have hdotted : (type.name.toList.map fun c => if c = '/' then '.' else c) = type.name.toList := by
    rw [List.map_congr_left (g := id), List.map_id]
    intro c hc
    exact if_neg fun heq : c = '/' => hslash (heq ▸ hc)
  apply hown type
  refine eq_of_dotted_eq path.dot_notMem hdot ?_
  rw [hdotted]
  exact hname

/-- Only the name of an array has brackets. -/
theorem bracket_notMem_nameChars (type : JavaType) (hplain : ∀ element, type ≠ .array element) :
    '[' ∉ type.nameChars := by
  cases type with
  | primitive type => exact type.name_plain.2.2
  | object path =>
      intro hmem
      obtain ⟨c, hc, hbracket⟩ := List.mem_map.mp hmem
      split at hbracket
      next => cases hbracket
      next => exact (path.plain c hc).2.2 hbracket
  | array element => exact absurd rfl (hplain element)

theorem array_ne_plain (element type : JavaType) (hplain : ∀ element, type ≠ .array element) :
    (array element).nameChars ≠ type.nameChars := by
  intro hname
  apply bracket_notMem_nameChars type hplain
  rw [← hname, nameChars]
  simp

/-- Types that keep clear of the names of primitive types are told apart by their names. -/
theorem eq_of_nameChars_eq {type other : JavaType} (htype : type.HasOwnName)
    (hother : other.HasOwnName) (hname : type.nameChars = other.nameChars) : type = other := by
  induction type generalizing other with
  | primitive type =>
      cases other with
      | primitive other => rw [Primitive.name_inj hname]
      | object path => exact absurd hname.symm (object_ne_primitive hother type)
      | array element => exact absurd hname.symm (array_ne_plain element _ nofun)
  | object path =>
      cases other with
      | primitive other => exact absurd hname (object_ne_primitive htype other)
      | object other =>
          rw [ClassPath.ext (eq_of_dotted_eq path.dot_notMem other.dot_notMem hname)]
      | array element => exact absurd hname.symm (array_ne_plain element _ nofun)
  | array element ih =>
      cases other with
      | primitive other => exact absurd hname (array_ne_plain element _ nofun)
      | object path => exact absurd hname (array_ne_plain element _ nofun)
      | array other =>
          have hown : other.HasOwnName := hother
          have helement : element.nameChars ++ ['[', ']'] = other.nameChars ++ ['[', ']'] := hname
          rw [ih htype hown (List.append_cancel_right helement)]

end JavaType

namespace Descriptor

open Text

/-- A text is always cut between two characters, a descriptor of any depth names its type, and the
descriptors of two types that keep clear of the names of primitive types have different names. -/
theorem descriptors_named_apart (type : JavaType) :
    (∀ text, behind? (depth text) text = some (base text)) ∧
      typeName type.descriptor = type.name ∧
      ∀ other : JavaType, type.HasOwnName → other.HasOwnName → type.descriptor ≠ other.descriptor →
        typeName type.descriptor ≠ typeName other.descriptor := by
  refine ⟨fun text => ?_, typeName_descriptor type, fun other htype hother hne hname => ?_⟩
  · rw [behind?_depth, base_eq]
  · apply hne
    rw [typeName_descriptor, typeName_descriptor] at hname
    rw [JavaType.eq_of_nameChars_eq htype hother (String.ofList_injective hname)]

/-- The path of a class whose name begins like that of a primitive type. -/
def internPath : ClassPath where
  chars := ['i', 'n', 't', '/', 'P', 'o', 'o', 'l', ']']
  nonempty := by decide
  plain := by simp

/-- Arrays of different depth of one class, whose name ends in a bracket of its own. -/
theorem nested_internPath_named_apart :
    (JavaType.object internPath).HasOwnName ∧ typeName "[[Lint/Pool];" = "int.Pool][][]" ∧
      typeName "[[Lint/Pool];" ≠ typeName "[Lint/Pool];" := by
  have hown : (JavaType.object internPath).HasOwnName := by
    intro type
    cases type <;> decide
  obtain ⟨-, hname, hapart⟩ := descriptors_named_apart (.array (.array (.object internPath)))
  exact ⟨hown, hname, hapart (.array (.object internPath)) hown hown (by decide)⟩

end Descriptor

end AppSurvey.Dex
