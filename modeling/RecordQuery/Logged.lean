import RecordQuery.Fault
import RecordQuery.Operator
import RecordQuery.Path

/-!
# Operations that log

Reading specifiers, preparing lookups and filtering report what they did, as events in the order in
which it happened. `Logged` pairs the events of an operation with its outcome. An operation that
fails keeps the events from before it failed, and what would have come after it does not happen.
-/

namespace RecordQuery

/-! ## Events -/

/-- How much an event matters. -/
inductive EventLevel where
  /-- Of interest when something is being tracked down. -/
  | debug
  /-- Of interest when every step is being followed. -/
  | trace
  deriving DecidableEq, Repr

/-- The name of a level. -/
def EventLevel.name : EventLevel → String
  | .debug => "DEBUG"
  | .trace => "TRACE"

/-- Something that happened. -/
inductive Event where
  /-- A lookup was prepared. -/
  | prepared (specifier : String) (path : Path) (operator : Operator)
  /-- A last part that resembles an operator was taken as a key. -/
  | slipKept (specifier suffix : String) (resembled : Operator)
  /-- A filter with so many conditions went through so many candidates and found so many. -/
  | filtered (conditions candidates found : Nat)
  deriving DecidableEq, Repr

namespace Event

/-- The level of an event. -/
def level : Event → EventLevel
  | prepared .. => .trace
  | slipKept .. => .debug
  | filtered .. => .debug

/-- The wording of an event. -/
def message : Event → String
  | prepared .. => "compiled lookup"
  | slipKept .. => "unrecognized operator suffix treated as a key"
  | filtered .. => "filter pass complete"

/-- A count in a document. -/
private def count (n : Nat) : Json := .number (.natural (.ofNat n))

/-- What an event tells, by name. -/
def fields : Event → List (String × Json)
  | prepared specifier path operator =>
    [("specifier", .text specifier), ("path", .text path.text), ("op", .text operator.name)]
  | slipKept specifier suffix resembled =>
    [("specifier", .text specifier), ("suffix", .text suffix),
     ("resembles", .text resembled.name)]
  | filtered conditions candidates found =>
    [("expressions", count conditions), ("candidates", count candidates),
     ("matched", count found)]

end Event

/-! ## Logged operations -/

/-- An outcome, with the events on the way to it. -/
structure Logged (α : Type) where
  /-- The events, in order. -/
  events : List Event
  /-- The result, or why there is none. -/
  outcome : Except Fault α

namespace Logged

variable {α β : Type}

/-- The operation that just has a result. -/
def pure (a : α) : Logged α := ⟨[], .ok a⟩

/-- The operation that fails. -/
def fail (f : Fault) : Logged α := ⟨[], .error f⟩

/-- The operation that reports an event. -/
def report (e : Event) : Logged Unit := ⟨[e], .ok ()⟩

/-- One operation after the other, unless the first fails. -/
def bind (m : Logged α) (next : α → Logged β) : Logged β :=
  match m.outcome with
  | .ok a => ⟨m.events ++ (next a).events, (next a).outcome⟩
  | .error f => ⟨m.events, .error f⟩

instance : Monad Logged where
  pure := pure
  bind := bind

/-- An operation without events. -/
def ofExcept (outcome : Except Fault α) : Logged α := ⟨[], outcome⟩

end Logged

end RecordQuery
