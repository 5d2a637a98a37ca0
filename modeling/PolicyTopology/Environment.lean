import PolicyTopology.Entries
import PolicyTopology.Text.Bytes

/-!
# Environments

The variables that a program finds set: texts under names, both kept as bytes. A variable is kept as
the bytes of its name, an equals sign and the bytes of its value up to a NUL. So neither text may
hold a NUL, and a name holds no equals sign and is not empty.

A variable that was set is found under its name with the text as which the bytes of its value are
read (`get?_set_self`), and setting it changes no variable whose name has other bytes
(`get?_set_ne`).
-/

namespace PolicyTopology

/-- Why a variable cannot be set. -/
inductive EnvironmentError where
  /-- The name or the value holds a code point without bytes. -/
  | withoutBytes
  /-- The name or the value holds a NUL. -/
  | nul
  /-- The name holds an equals sign. -/
  | equalsSign
  /-- The name is empty. -/
  | nameless
deriving DecidableEq, Repr

/-- Variables under their names. -/
structure Environment where
  entries : Entries (List UInt8) (List UInt8)

namespace Environment

def empty : Environment := ⟨[]⟩

def get? (environment : Environment) (name : String) : Option String :=
  (Text.bytes? name).bind fun bytes =>
    (Entries.get? environment.entries bytes).map Text.ofBytes

def bytesOf (text : String) : Except EnvironmentError (List UInt8) :=
  match Text.bytes? text with
  | some bytes => .ok bytes
  | none => .error .withoutBytes

def equalsSign : UInt8 := 0x3D

/-- What is wrong with the bytes of a name and of a value, if anything is. -/
def fault? (name value : List UInt8) : Option EnvironmentError :=
  if (name ++ value).contains 0 then some .nul
  else if name.contains equalsSign then some .equalsSign
  else if name.isEmpty then some .nameless
  else none

/-- Set a variable, given the bytes of its name and of its value. -/
def set (environment : Environment) (name value : List UInt8) :
    Except EnvironmentError Environment :=
  match fault? name value with
  | some error => .error error
  | none => .ok ⟨Entries.set environment.entries name value⟩

theorem get?_of_bytes {name : String} {bytes : List UInt8} (h : Text.bytes? name = some bytes)
    (environment : Environment) :
    environment.get? name = (Entries.get? environment.entries bytes).map Text.ofBytes := by
  rw [get?, h, Option.bind_some]

/-- What setting a variable leaves behind. -/
theorem entries_of_set {environment after : Environment} {name value : List UInt8}
    (h : environment.set name value = .ok after) :
    after.entries = Entries.set environment.entries name value := by
  unfold set at h
  split at h
  · contradiction
  · exact congrArg Environment.entries (Except.ok.inj h).symm

/-- A variable that was set has the text of its value. -/
theorem get?_set_self {environment after : Environment} {name : String} {bytes value : List UInt8}
    (hname : Text.bytes? name = some bytes) (h : environment.set bytes value = .ok after) :
    after.get? name = some (Text.ofBytes value) := by
  rw [get?_of_bytes hname, entries_of_set h, Entries.get?_set_self, Option.map_some]

/-- Setting a variable changes no variable whose name has other bytes. -/
theorem get?_set_ne {environment after : Environment} {other : String}
    {name bytes value : List UInt8} (hother : Text.bytes? other = some bytes) (hne : name ≠ bytes)
    (h : environment.set name value = .ok after) : after.get? other = environment.get? other := by
  rw [get?_of_bytes hother, get?_of_bytes hother, entries_of_set h,
    Entries.get?_set_ne _ _ (by simpa using hne)]

end Environment

end PolicyTopology
