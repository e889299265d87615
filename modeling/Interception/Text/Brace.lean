/-!
# Braces

Braces stand around the bodies of types and methods, around objects and around the word for a closure.
-/

namespace Interception.Text

/-- The brace that opens. -/
def leftBrace : String := String.ofList ['{']

/-- The brace that closes. -/
def rightBrace : String := String.ofList ['}']

/-- The text between braces. -/
def braced (text : String) : String := leftBrace ++ text ++ rightBrace

@[simp] theorem toList_leftBrace : leftBrace.toList = ['{'] := rfl

@[simp] theorem toList_rightBrace : rightBrace.toList = ['}'] := rfl

@[simp] theorem toList_braced (text : String) :
    (braced text).toList = '{' :: (text.toList ++ ['}']) := by
  simp [braced]

end Interception.Text
