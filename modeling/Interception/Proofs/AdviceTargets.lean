import Interception.Advice
import Interception.Proofs.FirstCut
import Interception.Text.Case

/-!
# What an advice is bound to

The target of an advice is a text: a type, or a type and a method after the first `::` in it.  Main
statements: an advice lies on the type that stands in front, and takes in the methods that are called
what stands behind, or all methods if there is no `::`.
-/

namespace Interception.Advice

open Text

variable {advice : Advice}

/-- The target lies on the type: it is the type, or names a method after the first `::` in it. -/
inductive On (advice : Advice) (type : String) : Prop where
  | whole (htarget : advice.target = type)
    (huncut : ∀ front back, advice.target ≠ front ++ "::" ++ back)
  | method {method : String} (htarget : advice.target = type ++ "::" ++ method)
    (hfirst : ∀ front back, advice.target = front ++ "::" ++ back → type.length ≤ front.length)

/-- The target takes in the methods called `name`: there is no `::` in it, or what stands behind the
first one is that name, in any case of its letters. -/
inductive TakesIn (advice : Advice) (name : String) : Prop where
  | whole (huncut : ∀ front back, advice.target ≠ front ++ "::" ++ back)
  | method {type method : String} (htarget : advice.target = type ++ "::" ++ method)
    (hfirst : ∀ front back, advice.target = front ++ "::" ++ back → type.length ≤ front.length)
    (hletters : sameLetters method name = true)

/-- A target is cut in one way. -/
theorem parts_eq {parts : String × String} (hcut : cut? "::" advice.target = some parts)
    {type method : String} (htarget : advice.target = type ++ "::" ++ method)
    (hfirst : ∀ front back, advice.target = front ++ "::" ++ back → type.length ≤ front.length) :
    parts = (type, method) := by
  rw [(cut?_eq_some_iff (by decide)).mpr ⟨htarget, hfirst⟩] at hcut
  exact (Option.some.inj hcut).symm

theorem on_iff {type : String} : advice.On type ↔ advice.targetType = type := by
  have hmark : "::" ≠ "" := by decide
  rw [targetType]
  cases hcut : cut? "::" advice.target with
  | none =>
    have huncut := (cut?_eq_none_iff hmark).mp hcut
    constructor
    · rintro (⟨htarget, -⟩ | ⟨htarget, -⟩)
      · exact htarget
      · exact absurd htarget (huncut _ _)
    · intro htarget
      exact .whole htarget huncut
  | some parts =>
    obtain ⟨front, back⟩ := parts
    obtain ⟨htarget, hfirst⟩ := (cut?_eq_some_iff hmark).mp hcut
    constructor
    · rintro (⟨-, huncut⟩ | ⟨htarget', hfirst'⟩)
      · exact absurd htarget (huncut _ _)
      · exact congrArg Prod.fst (parts_eq hcut htarget' hfirst')
    · rintro rfl
      exact .method htarget hfirst

theorem takesIn_iff {name : String} : advice.TakesIn name ↔ advice.covers name = true := by
  have hmark : "::" ≠ "" := by decide
  rw [covers, targetMethod]
  cases hcut : cut? "::" advice.target with
  | none => exact iff_of_true (.whole ((cut?_eq_none_iff hmark).mp hcut)) rfl
  | some parts =>
    obtain ⟨type, method⟩ := parts
    obtain ⟨htarget, hfirst⟩ := (cut?_eq_some_iff hmark).mp hcut
    constructor
    · rintro (huncut | ⟨htarget', hfirst', hletters⟩)
      · exact absurd htarget (huncut _ _)
      · obtain ⟨-, rfl⟩ := Prod.mk.inj (parts_eq hcut htarget' hfirst')
        exact hletters
    · exact .method htarget hfirst

end Interception.Advice
