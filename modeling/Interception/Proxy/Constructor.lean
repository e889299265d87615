import Interception.Ancestry
import Interception.Proxy.SourceFile
import Interception.Text.Blank

/-!
# Constructors of woven classes

A woven class hands its properties over as soon as it is constructed.  A constructor of its own gets
the hook as its first statement.  A class without one gets a constructor that first calls the one it
inherits, with the parameters of that one written anew for the namespace of the class.
-/

namespace Interception

open Name Text

namespace Method

/-- The method as it was declared. -/
def woven (method : Method) : WovenMethod where
  access := method.access
  isStatic := method.isStatic
  isAbstract := method.isAbstract
  isFinal := method.isFinal
  name := method.name
  parameters := method.parameters
  returns := method.returns
  body := method.body.map (List.map Stmt.verbatim)

/-- The constructor with the hook before its statements, if it has any. -/
def hooked (method : Method) : WovenMethod :=
  { method.woven with body := method.woven.body.map (Stmt.handleProperties :: ·) }

end Method

/-- The class that the text of a default value begins with. -/
structure LeadingClass where
  /-- Whether the value is a new instance. -/
  isNew : Bool
  name : List Char
  /-- The text after the name. -/
  rest : List Char

/-- The class in front of `C::rest` or `new C rest`. -/
def LeadingClass.find? (value : List Char) : Option LeadingClass :=
  let isNew := "new ".toList.isPrefixOf value
  let expression := if isNew then trimStart (value.drop 4) else value
  let name := expression.takeWhile isNameChar
  let rest := expression.dropWhile isNameChar
  if name = [] then none
  -- a name with nothing after it may be a constant, a literal or a keyword
  else if !isNew && !"::".toList.isPrefixOf rest then none
  else if (name.head?.map Char.isDigit).getD false then none
  else some ⟨isNew, name, rest⟩

/-- A name as written in the namespace `source`, written for the namespace `target`. -/
def Name.moved (source target name : String) : String := display (qualify name source) target

/-- A default value written in the type `owner`, written for the namespace `target`.  Only a class
that it begins with is named anew; `self` there is the owner. -/
def movedDefault (owner target value : String) : String :=
  match LeadingClass.find? value.toList with
  | none => value
  | some found =>
    let name := String.ofList found.name
    let moved :=
      -- in the namespace of the heir, `self` would be the heir
      if sameLetters name "self" then display owner target
      else if isBuiltin name then name
      else Name.moved (namespaceOf owner) target name
    (if found.isNew then "new " else "") ++ moved ++ String.ofList found.rest

/-- The parameter of a method of `owner`, written for the namespace `target`. -/
def Parameter.movedTo (owner target : String) (parameter : Parameter) : Parameter :=
  { parameter with
    hint := parameter.hint.map (Hint.mapNames (Name.moved (namespaceOf owner) target))
    default := parameter.default.map (movedDefault owner target) }

/-- The method of `owner`, with its parameters written for the namespace `target`.  In the owner's
own namespace everything stays as it is. -/
def Method.movedTo (owner target : String) (method : Method) : Method :=
  if namespaceOf owner = target then method
  else { method with parameters := method.parameters.map (Parameter.movedTo owner target) }

/-- The constructor that a class without one of its own inherits. -/
inductive Inheritance where
  /-- There is no parent. -/
  | noParent
  /-- The parent declares it. -/
  | direct (ctor : Method)
  /-- It lies further up, or nobody knows. -/
  | indirect (ctor : Option Method)

namespace Inheritance

/-- The constructor that `decl` inherits, written for its namespace. -/
def find (lookup : String → Except Fault Declaration) (decl : Declaration) : Inheritance :=
  match decl.parent with
  | none => .noParent
  | some name =>
    match lookup name with
    | .error _ => .indirect none
    | .ok parent =>
      match parent.constructor? with
      | some ctor => .direct (ctor.movedTo parent.name decl.space)
      | none =>
        match Ancestry.findIn lookup name constructorName with
        | .ok (some sighting) =>
          .indirect (some (sighting.method.movedTo sighting.owner decl.space))
        | _ => .indirect none

/-- The parameters of the inherited constructor. -/
def parameters : Inheritance → List Parameter
  | .noParent => []
  | .direct ctor => ctor.parameters
  | .indirect (some ctor) => ctor.parameters
  | .indirect none => []

/-- How the inherited constructor is called. -/
def call : Inheritance → List Stmt
  | .noParent => []
  | .direct ctor =>
    [.callParent (ctor.parameters.map fun parameter => ⟨parameter.name, parameter.variadic⟩)]
  | .indirect _ => [.callParentIfAny]

/-- The constructor of a class that declares none. -/
def synthesized (inheritance : Inheritance) : WovenMethod where
  access := none
  isStatic := false
  isAbstract := false
  isFinal := false
  name := constructorName
  parameters := inheritance.parameters
  returns := none
  body := some (inheritance.call ++ [.handleProperties])

end Inheritance

end Interception
