import GuardedProxy.Clause

/-!
# The record of a compilation

Each step that a reader of the log may care about is an event. A traced value carries the events
that led to it, oldest first, also when the value is a failure.
-/

namespace GuardedProxy

inductive Level
  | debug
  | info
  | warn
deriving DecidableEq, Repr

inductive Event
  | clauseDropped (member clause : String)
  | clauseMalformed (member clause : String) (form : ClauseForm)
  | clauseCompiled (member : String) (form : ClauseForm) (isPrecondition : Bool) (snapshots : Nat)
  | bodyAssembled (member : String) (snapshots preconditions postconditions : Nat)
  | interfaceRead (verbose : Bool) (interfaceName : String) (members : Nat)
  | classGenerated (verbose : Bool) (bodies bytes : Nat)
  | classWritten (verbose : Bool) (path className : String)
deriving DecidableEq, Repr

namespace Event

/-- Progress is worth more attention when it was asked for. -/
def progressLevel (verbose : Bool) : Level := if verbose then .info else .debug

def level : Event → Level
  | clauseDropped .. => .debug
  | clauseMalformed .. => .warn
  | clauseCompiled .. => .debug
  | bodyAssembled .. => .debug
  | interfaceRead verbose .. => progressLevel verbose
  | classGenerated verbose .. => progressLevel verbose
  | classWritten verbose .. => progressLevel verbose

def message : Event → String
  | clauseDropped .. => "dropping unrecognized clause"
  | clauseMalformed .. => "malformed contract clause, dropping it"
  | clauseCompiled .. => "compiled clause"
  | bodyAssembled .. => "assembled member body"
  | interfaceRead .. => "compiling interface"
  | classGenerated .. => "code generation successful"
  | classWritten .. => "wrote class"

end Event

/-- A value with the events that led to it. -/
structure Traced (α : Type) where
  events : List Event
  value : α

namespace Traced

variable {α β : Type}

protected def pure (value : α) : Traced α := ⟨[], value⟩

protected def bind (x : Traced α) (next : α → Traced β) : Traced β :=
  ⟨x.events ++ (next x.value).events, (next x.value).value⟩

instance : Monad Traced where
  pure := Traced.pure
  bind := Traced.bind

def record (event : Event) : Traced Unit := ⟨[event], ()⟩

/-- The values of a list, with all their events in order. -/
def sequence (xs : List (Traced α)) : Traced (List α) :=
  ⟨xs.flatMap Traced.events, xs.map Traced.value⟩

@[simp] theorem events_pure (value : α) : (pure value : Traced α).events = [] := rfl

@[simp] theorem value_pure (value : α) : (pure value : Traced α).value = value := rfl

@[simp] theorem events_bind (x : Traced α) (next : α → Traced β) :
    (x >>= next).events = x.events ++ (next x.value).events := rfl

@[simp] theorem value_bind (x : Traced α) (next : α → Traced β) :
    (x >>= next).value = (next x.value).value := rfl

@[simp] theorem events_record (event : Event) : (record event).events = [event] := rfl

end Traced

end GuardedProxy
