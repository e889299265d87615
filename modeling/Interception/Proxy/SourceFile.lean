import Interception.Declaration

/-!
# Woven source files

A proxy is a source file with a single type in it.  The file is kept as a tree, in which the
statements that weaving adds are told from those that were there before; how the tree is written
down is a matter of layout.
-/

namespace Interception

/-- The words that the runtime replaces by where they stand. -/
inductive MagicWord where
  | ofClass
  | ofTrait
  | ofFunction
  | ofMethod
deriving DecidableEq

/-- A magic word as it is written. -/
def MagicWord.text : MagicWord → String
  | .ofClass => "__CLASS__"
  | .ofTrait => "__TRAIT__"
  | .ofFunction => "__FUNCTION__"
  | .ofMethod => "__METHOD__"

/-- A variable that is passed on, alone or spread over several arguments. -/
structure Argument where
  name : String
  spread : Bool
deriving DecidableEq

/-- A variable that a closure takes along, by value or by reference. -/
structure Capture where
  name : String
  byRef : Bool
deriving DecidableEq

/-- A statement of a woven body. -/
inductive Stmt where
  /-- A statement as it was declared. -/
  | verbatim (text : String)
  /-- The hook that hands the properties of an instance over. -/
  | handleProperties
  /-- Calls the constructor of the parent. -/
  | callParent (arguments : List Argument)
  /-- Calls the constructor of the parent if there turns out to be one. -/
  | callParentIfAny
  /-- Keeps what a magic word stands for in a variable. -/
  | keep (name : String) (word : MagicWord)
  /-- Hands a body over to the dispatcher, wrapped in a closure. -/
  | dispatch (scope : MagicWord) (returns : Bool) (captures : List Capture) (body : List Stmt)

/-- A method of a woven type. -/
structure WovenMethod where
  access : Option Access
  isStatic : Bool
  isAbstract : Bool
  isFinal : Bool
  name : String
  parameters : List Parameter
  returns : Option String
  /-- Nothing for a mere signature. -/
  body : Option (List Stmt)

/-- A member of a woven type. -/
inductive Member where
  | constant (constant : Constant)
  | property (property : Property)
  | method (method : WovenMethod)

/-- The method, if the member is one. -/
def Member.method? : Member → Option WovenMethod
  | .method declared => some declared
  | _ => none

/-- A woven class, trait or interface, with the names of other types as they are written there. -/
structure WovenType where
  kind : Kind
  /-- The name inside the namespace. -/
  name : String
  isAbstract : Bool
  isFinal : Bool
  /-- What it extends: at most one class, or any number of interfaces. -/
  parents : List String
  /-- The interfaces that it implements. -/
  contracts : List String
  /-- The traits that it uses. -/
  mixins : List String
  members : List Member

namespace WovenType

/-- The methods in order. -/
def methods (type : WovenType) : List WovenMethod := type.members.filterMap Member.method?

/-- The first method of that name, in any case. -/
def method? (type : WovenType) (name : String) : Option WovenMethod :=
  type.methods.find? fun method => Text.sameLetters method.name name

end WovenType

/-- A source file with one woven type. -/
structure SourceFile where
  /-- Whether the file asks for strict types. -/
  strictTypes : Bool
  /-- The comment at the head; none if empty. -/
  banner : String
  /-- The namespace, unless it is the global one. -/
  space : Option String
  type : WovenType

end Interception
