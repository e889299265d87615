import Interception.Declaration

/-!
# Events worth noting

What the library reports while it works, as data.  An event has a level, a message and fields; who
runs the library decides what becomes of them.
-/

namespace Interception

/-- How much an event matters. -/
inductive Level where
  | trace
  | debug
  | warning
deriving DecidableEq

/-- Something that happened and may be of interest later. -/
inductive Event where
  /-- A manifest with `types` distinct types has been read. -/
  | manifestLoaded (types : Nat)
  /-- The body of a method goes through the dispatcher from now on. -/
  | intercepting (type method : String)
  /-- Advice applies to a method that has no body to wrap. -/
  | notWrappable (type method : String)
  /-- The parent of a class cannot be read, so its constructor is called under a guard. -/
  | parentUnavailable (type parent : String)
  /-- The proxy of a type is done. -/
  | woven (type : String) (kind : Kind) (bindings intercepted : Nat)
  /-- The interfaces of a type have been found and are remembered. -/
  | memoized (type : String) (interfaces : Nat)
  /-- The gate has something to say about a request. -/
  | remark (level : Level) (request text : String)
deriving DecidableEq

/-- The value of a field of an event. -/
inductive Detail where
  | count (number : Nat)
  | text (value : String)
deriving DecidableEq

namespace Event

/-- How much the event matters. -/
def level : Event → Level
  | .manifestLoaded _ => .debug
  | .intercepting _ _ => .trace
  | .notWrappable _ _ => .trace
  | .parentUnavailable _ _ => .debug
  | .woven _ _ _ _ => .debug
  | .memoized _ _ => .trace
  | .remark level _ _ => level

/-- The text of the event without its fields. -/
def message : Event → String
  | .manifestLoaded _ => "loaded declaration manifest"
  | .intercepting _ _ => "intercepting"
  | .notWrappable _ _ => "advised method has no wrappable body, emitted verbatim"
  | .parentUnavailable _ _ => "parent declaration unavailable, guarding constructor forwarding"
  | .woven _ _ _ _ => "woven proxy"
  | .memoized _ _ => "memoized implements"
  | .remark _ _ text => text

/-- The fields of the event by name. -/
def details : Event → List (String × Detail)
  | .manifestLoaded types => [("types", .count types)]
  | .intercepting type method => [("type_name", .text type), ("method", .text method)]
  | .notWrappable type method => [("type_name", .text type), ("method", .text method)]
  | .parentUnavailable type parent => [("type_name", .text type), ("parent", .text parent)]
  | .woven type kind bindings intercepted =>
    [("type_name", .text type), ("kind", .text kind.keyword), ("bindings", .count bindings),
     ("intercepted", .count intercepted)]
  | .memoized type interfaces => [("type_name", .text type), ("interfaces", .count interfaces)]
  | .remark _ request _ => [("request_id", .text request)]

end Event

end Interception
