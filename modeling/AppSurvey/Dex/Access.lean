/-!
# Access flags

The modifiers of a class, field or method, as bits of one number.
-/

namespace AppSurvey.Dex

/-- The modifiers of a class, field or method. -/
structure Access where
  bits : UInt32
  deriving DecidableEq

namespace Access

/-- Is one of the bits of `mask` set? -/
def meets (access : Access) (mask : UInt32) : Bool :=
  access.bits &&& mask != 0

/-- Are all bits of `mask` set? -/
def covers (access : Access) (mask : UInt32) : Bool :=
  access.bits &&& mask == mask

/-- The flags with the bits of `mask` set. -/
def set (access : Access) (mask : UInt32) : Access :=
  ⟨access.bits ||| mask⟩

def isPublic (access : Access) : Bool := access.meets 0x1

def isPrivate (access : Access) : Bool := access.meets 0x2

def isProtected (access : Access) : Bool := access.meets 0x4

def isStatic (access : Access) : Bool := access.meets 0x8

def isFinal (access : Access) : Bool := access.meets 0x10

def isInterface (access : Access) : Bool := access.meets 0x200

def isAbstract (access : Access) : Bool := access.meets 0x400

def isEnum (access : Access) : Bool := access.meets 0x4000

/-- Every modifier with its bit, in the order in which they are written. Two bits have a meaning
for fields and another for methods, and both are named. -/
def modifiers : List (UInt32 × String) :=
  [(0x1, "public"), (0x2, "private"), (0x4, "protected"), (0x8, "static"), (0x10, "final"),
    (0x20, "synchronized"), (0x40, "volatile"), (0x80, "transient"), (0x40, "bridge"),
    (0x80, "varargs"), (0x100, "native"), (0x200, "interface"), (0x400, "abstract"),
    (0x800, "strictfp"), (0x1000, "synthetic"), (0x2000, "annotation"), (0x4000, "enum")]

/-- The names of the modifiers that are set. -/
def names (access : Access) : List String :=
  modifiers.filterMap fun (bit, name) => if access.meets bit then some name else none

end Access

end AppSurvey.Dex
