import Interception.Act
import Interception.Web.Message

/-!
# Pipelines

A middleware stands before the rest of a pipeline: it may pass the request on any number of times, and
answers itself.  A pipeline is a list of middleware before a handler, in the order in which a request
meets them.
-/

namespace Interception

/-- Answers requests. -/
abbrev Handler (σ : Type) : Type := Request → Act σ (Except Fault Response)

/-- Answers requests with the help of the handler that comes next. -/
abbrev Middleware (σ : Type) : Type := Handler σ → Handler σ

/-- The middleware before the handler, the first one outermost. -/
def pipeline {σ : Type} (stack : List (Middleware σ)) (handler : Handler σ) : Handler σ :=
  stack.foldr (fun middleware next => middleware next) handler

@[simp] theorem pipeline_nil {σ : Type} (handler : Handler σ) : pipeline [] handler = handler := rfl

@[simp] theorem pipeline_cons {σ : Type} (first : Middleware σ) (others : List (Middleware σ))
    (handler : Handler σ) :
    pipeline (first :: others) handler = first (pipeline others handler) := rfl

end Interception
