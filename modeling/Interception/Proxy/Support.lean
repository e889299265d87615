import Interception.Declaration

/-!
# Which declarations can be woven

A declaration that its language would not accept has no proxy.  `Declaration.obstacle?` finds the
first thing that stands in the way: what does not go with the kind of the type comes first, then what
is wrong with one of its methods, in their order.
-/

namespace Interception

/-- A shape of a declaration for which there is no proxy. -/
inductive Obstacle where
  | parentOfInterface
  | traitInInterface
  | propertyOfInterface
  | bodyInInterface (method : String)
  | relativeOfTrait
  | abstractInConcrete (method : String)
  | abstractWithBody (method : String)
  | staticConstructor
deriving DecidableEq

/-- The wording of an obstacle. -/
def Obstacle.text : Obstacle → String
  | .parentOfInterface => "an interface with a parent class"
  | .traitInInterface => "trait use inside an interface"
  | .propertyOfInterface => "properties on an interface"
  | .bodyInInterface method => "interface method '" ++ method ++ "' with a body"
  | .relativeOfTrait => "a trait extending or implementing types"
  | .abstractInConcrete method => "abstract method '" ++ method ++ "' in a concrete class"
  | .abstractWithBody method => "abstract method '" ++ method ++ "' with a body"
  | .staticConstructor => "a static constructor"

/-- What is wrong with a method of any type. -/
def Method.obstacle? (method : Method) : Option Obstacle :=
  if method.isAbstract && method.hasBody then some (.abstractWithBody method.name)
  else if method.isConstructor && method.isStatic then some .staticConstructor
  else none

namespace Declaration

/-- What does not go with the kind of the type. -/
def kindObstacle? (decl : Declaration) : Option Obstacle :=
  match decl.kind with
  | .interfaceKind =>
    if decl.parent.isSome then some .parentOfInterface
    else if decl.traits ≠ [] then some .traitInInterface
    else if decl.properties ≠ [] then some .propertyOfInterface
    else (decl.methods.find? Method.hasBody).map fun method => .bodyInInterface method.name
  | .traitKind =>
    if decl.parent.isSome || decl.interfaces ≠ [] then some .relativeOfTrait else none
  | .classKind =>
    if decl.isAbstract then none
    else (decl.methods.find? Method.isAbstract).map fun method => .abstractInConcrete method.name

/-- The first thing that keeps a declaration from being woven. -/
def obstacle? (decl : Declaration) : Option Obstacle :=
  (decl.kindObstacle?).or (decl.methods.findSome? Method.obstacle?)

end Declaration

end Interception
