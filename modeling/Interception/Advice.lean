import Interception.Name
import Interception.Text.Cut

/-!
# Advice

An advice binds an aspect around a target.  The target is a type, which stands for all its methods,
or a type and a method with `::` between them.
-/

namespace Interception

open Name Text

/-- How an advice meets the call it is bound to. -/
inductive Advice.Kind where
  /-- It runs around the call and decides whether the call goes on. -/
  | around
deriving DecidableEq

/-- The word for a kind of advice. -/
def Advice.Kind.keyword : Advice.Kind → String
  | .around => "around"

/-- One aspect bound to one target. -/
structure Advice where
  /-- The aspect that is bound. -/
  aspect : String
  /-- A type, or a type and a method. -/
  target : String
  kind : Advice.Kind
  /-- The higher, the further outside. -/
  priority : Int32
deriving DecidableEq

namespace Advice

/-- An aspect bound around a target, written with or without leading separators. -/
def bound (aspect target : String) (priority : Int32) : Advice :=
  ⟨aspect, normalize target, .around, priority⟩

/-- The type that the target names. -/
def targetType (advice : Advice) : String :=
  match cut? "::" advice.target with
  | some (type, _) => type
  | none => advice.target

/-- The method that the target names, if it names one. -/
def targetMethod (advice : Advice) : Option String := (cut? "::" advice.target).map Prod.snd

/-- Whether the advice applies to the method called `name`, if it applies to its type. -/
def covers (advice : Advice) (name : String) : Bool :=
  match advice.targetMethod with
  | some method => sameLetters method name
  | none => true

/-- The order in which advice applies: by falling priority, then by aspect, then by target. -/
def precedes (a b : Advice) : Bool :=
  decide (b.priority < a.priority) || (a.priority == b.priority &&
    (decide (a.aspect < b.aspect) || (a.aspect == b.aspect && !decide (b.target < a.target))))

end Advice

end Interception
