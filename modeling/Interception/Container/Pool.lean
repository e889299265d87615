import Interception.Container

/-!
# Instances with a history

A pool is a world of instances that remember how often they have been asked to validate themselves.
An instance answers by that number, so the same instance may accept one request and turn down the
next.
-/

namespace Interception

/-- For each instance, how often it has been asked. -/
structure Pool where
  calls : List Nat
deriving DecidableEq

namespace Pool

/-- There are no instances. -/
def empty : Pool := ⟨[]⟩

/-- Makes an instance that has never been asked, and gives its number. -/
def create : Act Pool Nat := do
  let pool ← get
  set (⟨pool.calls ++ [0]⟩ : Pool)
  return pool.calls.length

/-- Asks an instance once more, and gives the number of earlier times. -/
def ask (number : Nat) : Act Pool Nat := do
  let pool ← get
  set (⟨pool.calls.modify number (· + 1)⟩ : Pool)
  return pool.calls.getD number 0

/-- The instance of that number, answering by how often it was asked before. -/
def validator (answer : Nat → Except Rejection Unit) (number : Nat) :
    Act Pool (Except Rejection Unit) := do
  return answer (← ask number)

/-- Makes a new instance that answers like that. -/
def factory (answer : Nat → Except Rejection Unit) : Act Pool (Validator Pool) :=
  validator answer <$> create

end Pool

end Interception
