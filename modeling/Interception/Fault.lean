/-!
# What can go wrong

A `Fault` is the cause for which weaving a type, finding a handler or passing a request ends without
a result.  A `Rejection` is the answer of a handler parameter that refuses to be used.
-/

namespace Interception

/-- Why an operation ends without a result. -/
inductive Fault where
  /-- No declaration has this name. -/
  | unknownType (name : String)
  /-- The declaration of `type` has a shape that weaving has no rule for. -/
  | unsupported (type construct : String)
  /-- The request reached the gate without what routing should have left on it. -/
  | misrouted (message : String)
  /-- The handler does not lead to a declared action. -/
  | unknownHandler (handler : String)
  /-- A parameter of `type` found its input invalid. -/
  | invalid (type message : String)
  /-- No instance of `type` can be had. -/
  | unresolved (type message : String)
  /-- Text that should describe declarations or a version does not. -/
  | badManifest (message : String)
  /-- The ancestors of `root` lead on further than its source had announced. -/
  | unbounded (root : String)
deriving DecidableEq

/-- The wording of a fault. -/
def Fault.message : Fault → String
  | .unknownType name => "Type '" ++ name ++ "' not found"
  | .unsupported type construct => "No weaving rule for " ++ construct ++ " in '" ++ type ++ "'"
  | .misrouted message => "Misrouted request: " ++ message
  | .unknownHandler handler => "Handler '" ++ handler ++ "' does not exist"
  | .invalid type message => "Validation of '" ++ type ++ "' failed: " ++ message
  | .unresolved type message => "Cannot resolve '" ++ type ++ "': " ++ message
  | .badManifest message => "Invalid declaration manifest: " ++ message
  | .unbounded root => "Ancestors of '" ++ root ++ "' do not end"

/-- Outcomes can be compared if faults and values can. -/
instance decidableEqExcept {ε α : Type} [DecidableEq ε] [DecidableEq α] : DecidableEq (Except ε α)
  | .ok a, .ok b => decidable_of_iff (a = b) ⟨congrArg Except.ok, Except.ok.inj⟩
  | .error a, .error b => decidable_of_iff (a = b) ⟨congrArg Except.error, Except.error.inj⟩
  | .ok _, .error _ => isFalse (by intro h; cases h)
  | .error _, .ok _ => isFalse (by intro h; cases h)

/-- Why a parameter that validates itself turned the request down. -/
inductive Rejection where
  /-- The caller may not make this request. -/
  | unauthorized (message : String)
  /-- The input is not acceptable. -/
  | invalid (message : String)
deriving DecidableEq

/-- The wording of a rejection. -/
def Rejection.text : Rejection → String
  | .unauthorized message => "Unauthorized: " ++ message
  | .invalid message => "Invalid: " ++ message

end Interception
