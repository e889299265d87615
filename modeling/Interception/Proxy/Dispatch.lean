import Interception.Advice
import Interception.Proxy.Constructor

/-!
# What becomes of a declared method

A method that advice applies to hands its body over to the dispatcher; the constructor of a class
gets the hook; every other method stays as it was declared.
-/

namespace Interception

open Text

/-- What becomes of a method. -/
inductive Treatment where
  /-- It stays, as no advice applies. -/
  | plain
  /-- It is the constructor of a class. -/
  | hooked
  /-- Its body goes to the dispatcher. -/
  | dispatched
  /-- It stays, although advice applies: there is no body that could be wrapped. -/
  | unwrappable
deriving DecidableEq

namespace Method

/-- Whether the method has a body that a dispatcher can call on an instance. -/
def isWrappable (method : Method) : Bool :=
  method.isConcrete && !method.isStatic && !method.isConstructor

/-- Whether the method gives a result back to its caller. -/
def givesResult (method : Method) : Bool :=
  match method.returns with
  | some type => !(sameLetters type "void" || sameLetters type "never")
  | none => true

/-- What becomes of the method under the given advice. -/
def treatment (kind : Kind) (advice : List Advice) (method : Method) : Treatment :=
  if kind = .classKind ∧ method.isConstructor then .hooked
  else if kind ≠ .interfaceKind ∧ advice.any (fun one => one.covers method.name) then
    if method.isWrappable then .dispatched else .unwrappable
  else .plain

/-- The word for the type that holds a dispatched body. -/
def scopeOf : Kind → MagicWord
  | .traitKind => .ofTrait
  | _ => .ofClass

/-- The variables that the closure around the body takes along. -/
def captures (method : Method) : List Capture :=
  ⟨"__function__", false⟩ :: ⟨"__method__", false⟩ ::
    method.parameters.map fun parameter => ⟨parameter.name, parameter.byRef⟩

/-- The method with its body handed over to the dispatcher. -/
def dispatched (kind : Kind) (method : Method) : WovenMethod :=
  { method.woven with
    body := some
      [.keep "__function__" .ofFunction, .keep "__method__" .ofMethod,
       .dispatch (scopeOf kind) method.givesResult method.captures (method.woven.body.getD [])] }

/-- The method after its treatment. -/
def treated (kind : Kind) (advice : List Advice) (method : Method) : WovenMethod :=
  match method.treatment kind advice with
  | .hooked => method.hooked
  | .dispatched => method.dispatched kind
  | .plain => method.woven
  | .unwrappable => method.woven

end Method

end Interception
