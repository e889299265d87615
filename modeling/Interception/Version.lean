import Interception.Fault
import Interception.Text.Blank
import Interception.Text.Cut

/-!
# Versions of the runtime

A version has three 32-bit parts and is written with points between them; when it is read, the last
parts may be missing and count as zero.  Versions are ordered part by part.
-/

namespace Interception

open Text

/-- A version of the runtime that proxies are written for. -/
structure Version where
  major : UInt32
  minor : UInt32
  patch : UInt32
deriving DecidableEq

namespace Version

/-- The parts with points between them. -/
def text (version : Version) : String :=
  version.major.toNat.repr ++ "." ++ version.minor.toNat.repr ++ "." ++ version.patch.toNat.repr

/-- The order of versions: the first part that differs decides. -/
def order (a b : Version) : Ordering :=
  (compare a.major.toNat b.major.toNat).then
    ((compare a.minor.toNat b.minor.toNat).then (compare a.patch.toNat b.patch.toNat))

/-- The first version in which a trait can use the proxy trait itself. -/
def traitProxies : Version := ⟨7, 3, 0⟩

/-- Whether a trait can use the proxy trait. -/
def allowsTraitProxies (version : Version) : Bool := (order version traitProxies).isGE

/-- The characters after a leading `+`, if there is one. -/
def unsigned : List Char → List Char
  | '+' :: digits => digits
  | digits => digits

/-- The part that is written: digits below 2^32, with or without a `+`. -/
def part? (written : List Char) : Option UInt32 :=
  let digits := unsigned written
  if digits ≠ [] ∧ digits.all Char.isDigit ∧ Nat.ofDigitChars 10 digits 0 < 4294967296 then
    some (UInt32.ofNat (Nat.ofDigitChars 10 digits 0))
  else none

/-- The version that one, two or three parts make. -/
def ofParts? : List (List Char) → Option Version
  | [major] => do return ⟨← part? major, 0, 0⟩
  | [major, minor] => do return ⟨← part? major, ← part? minor, 0⟩
  | [major, minor, patch] => do return ⟨← part? major, ← part? minor, ← part? patch⟩
  | _ => none

/-- The version that a text gives, with white space around it or not. -/
def ofText (text : String) : Except Fault Version :=
  match ofParts? (pieces '.' (trim text.toList)) with
  | some version => .ok version
  | none => .error (.badManifest ("invalid runtime version '" ++ text ++ "'"))

end Version

end Interception
