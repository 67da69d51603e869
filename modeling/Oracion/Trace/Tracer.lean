import Oracion.Trace.Layout

/-!
# Tracers

A tracer receives the events of analyses.  It keeps the last of them in a buffer of
bounded size, and on demand echoes each as a line of text.  A filter leaves out the
kinds of events that nobody wants to see; what is left out still moves the depth, so
that the indentation of the rest does not depend on the filter.

## Main definitions

* `Config` — what a tracer keeps and echoes.
* `Tracer`, `Tracer.record` — tracers, and how one takes up an event.
* `Tracer.drain`, `Tracer.clear`, `Tracer.enable`, `Tracer.disable` — the other operations.
* `Tracer.off`, `Tracer.buffered`, `Tracer.echoing` — the usual tracers.
-/

namespace Oracion

/-- What a tracer does with events. -/
structure Trace.Config where
  /-- Whether events are taken up at all. -/
  enabled : Bool := false
  /-- How many records the buffer holds. -/
  capacity : Nat := 10000
  /-- Whether each kept event is echoed. -/
  echo : Bool := false
  /-- The kinds of events to keep; an empty list keeps all. -/
  filter : List String := []
  deriving DecidableEq, Repr, Inhabited

/-- A receiver of events. -/
structure Tracer where
  /-- What it does with them. -/
  config : Trace.Config
  /-- The kept records, the oldest first. -/
  buffer : List Trace.Record := []
  /-- How many events have been kept so far. -/
  nextId : Nat := 0
  /-- How many rules are being matched. -/
  depth : Nat := 0
  /-- The lines echoed so far. -/
  echoed : Array String := #[]
  deriving DecidableEq, Repr, Inhabited

namespace Trace

/-- Whether the filter lets an event through. -/
def Config.keeps (c : Config) (e : Event) : Bool := c.filter.isEmpty || c.filter.contains e.kind

/-- The depth that an event is recorded at: leaving a rule comes back to where it was
entered. -/
def Event.depthAt (depth : Nat) : Event → Nat
  | .productionExit .. => depth - 1
  | _ => depth

/-- The depth after an event. -/
def Event.depthAfter (depth : Nat) : Event → Nat
  | .productionEnter _ => depth + 1
  | .productionExit .. => depth - 1
  | _ => depth

end Trace

/-- The last `n` items of a list. -/
def lastOf {α : Type} (n : Nat) (xs : List α) : List α := xs.drop (xs.length - n)

namespace Tracer

open Trace

/-- A tracer that has seen nothing. -/
def new (config : Config) : Tracer := ⟨config, [], 0, 0, #[]⟩

/-- The tracer that takes nothing up. -/
def off : Tracer := new ⟨false, 10000, false, []⟩

/-- The tracer that keeps every event in its buffer. -/
def buffered : Tracer := new ⟨true, 10000, false, []⟩

/-- The tracer that echoes every event and keeps none. -/
def echoing : Tracer := new ⟨true, 0, true, []⟩

/-- Whether events are taken up. -/
def isEnabled (t : Tracer) : Bool := t.config.enabled

/-- Keeps a record: it uses up a number, is echoed if the tracer does that, and pushes the
oldest record out of a full buffer. -/
def store (t : Tracer) (r : Record) : Tracer :=
  { t with
    nextId := t.nextId + 1
    echoed := if t.config.echo then t.echoed.push (Layout.plain.line r) else t.echoed
    buffer := lastOf t.config.capacity (t.buffer ++ [r]) }

/-- Takes up an event.  A disabled tracer ignores it; otherwise the depth moves, and the
event is kept if the filter lets it through. -/
def record (t : Tracer) (e : Event) : Tracer :=
  if t.config.enabled then
    let moved := { t with depth := e.depthAfter t.depth }
    if t.config.keeps e then moved.store ⟨t.nextId, e.depthAt t.depth, e, 0⟩ else moved
  else t

/-- Starts taking events up. -/
def enable (t : Tracer) : Tracer := { t with config := { t.config with enabled := true } }

/-- Stops taking events up. -/
def disable (t : Tracer) : Tracer := { t with config := { t.config with enabled := false } }

/-- Empties the buffer; the next event is at depth zero. -/
def clear (t : Tracer) : Tracer := { t with buffer := [], depth := 0 }

/-- Takes the records out of the buffer; the next event is at depth zero. -/
def drain (t : Tracer) : List Record × Tracer := (t.buffer, t.clear)

/-- The events in the buffer. -/
def events (t : Tracer) : List Event := t.buffer.map Record.event

/-- What has been echoed, each line with its end. -/
def echoText (t : Tracer) : String := Text.endLines t.echoed.toList

/-! ### What an event does -/

theorem record_of_disabled {t : Tracer} (h : t.config.enabled = false) (e : Event) :
    t.record e = t := by
  simp [record, h]

/-- An event that is left out moves the depth only. -/
theorem record_of_left_out {t : Tracer} {e : Event} (henabled : t.config.enabled = true)
    (hkeeps : t.config.keeps e = false) :
    t.record e = { t with depth := e.depthAfter t.depth } := by
  simp [record, henabled, hkeeps]

/-- An event that is kept moves the depth and is stored. -/
theorem record_of_kept {t : Tracer} {e : Event} (henabled : t.config.enabled = true)
    (hkeeps : t.config.keeps e = true) :
    t.record e = { t with depth := e.depthAfter t.depth }.store
      ⟨t.nextId, e.depthAt t.depth, e, 0⟩ := by
  simp [record, henabled, hkeeps]

@[simp] theorem config_record (t : Tracer) (e : Event) : (t.record e).config = t.config := by
  unfold record
  split
  · dsimp only
    split <;> rfl
  · rfl

end Tracer
end Oracion
