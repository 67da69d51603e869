import Oracion.Proofs.Trace.Reporting

/-!
# Tracers that show the same

A trace is shown without the numbers of its records, so two tracers that differ only in
how many events they have kept before show the same.  `Tracer.Agrees` is this relation;
every event keeps it up, and with it the text of the trace.

## Main definitions

* `Trace.Record.entry`, `Tracer.entries` — what is shown of a record, and of a buffer.
* `Tracer.Agrees` — two tracers show the same, now and after any events.

## Main results

* `Tracer.Agrees.recordAll` — **tracers that agree do so after any events.**
* `Trace.Layout.text_plain_congr` — the text of a trace shows the entries only.
-/

namespace Oracion

open Trace

/-! ### Entries -/

/-- What is shown of a record: its depth and its event. -/
def Trace.Record.entry (r : Record) : Nat × Event := (r.depth, r.event)

/-- What is shown of the records in the buffer. -/
def Tracer.entries (t : Tracer) : List (Nat × Event) := t.buffer.map Record.entry

theorem map_lastOf {α β : Type} (f : α → β) (n : Nat) (xs : List α) :
    (lastOf n xs).map f = lastOf n (xs.map f) := by
  simp only [lastOf, List.map_drop, List.length_map]

/-- A line without number and time shows the entry of its record. -/
theorem Trace.Layout.line_plain (r : Record) :
    Layout.plain.line r = Text.times r.entry.1 "  " ++ r.entry.2.render := by
  simp [Layout.line, Layout.plain, Record.entry]

/-- **The text of a trace shows the entries only.** -/
theorem Trace.Layout.text_plain_congr {rs rs' : List Record}
    (h : rs.map Record.entry = rs'.map Record.entry) :
    Layout.plain.text rs = Layout.plain.text rs' := by
  have hlines : ∀ rs : List Record, rs.map Layout.plain.line =
      (rs.map Record.entry).map fun p => Text.times p.1 "  " ++ p.2.render := by
    intro rs
    rw [List.map_map]
    exact List.map_congr_left fun r _ => line_plain r
  rw [Layout.text, Layout.text, hlines, hlines, h]

namespace Tracer

/-- An event moves the depth, unless the tracer is disabled. -/
theorem depth_record (t : Tracer) (e : Event) :
    (t.record e).depth = if t.config.enabled then e.depthAfter t.depth else t.depth := by
  unfold record
  split
  · dsimp only
    split <;> rfl
  · rfl

theorem entries_store (t : Tracer) (r : Record) :
    (t.store r).entries = lastOf t.config.capacity (t.entries ++ [r.entry]) := by
  simp only [entries, store, map_lastOf, List.map_append, List.map_cons, List.map_nil]

/-- An event that is kept becomes the last entry, and a full buffer loses its first. -/
theorem entries_record (t : Tracer) (e : Event) :
    (t.record e).entries =
      if t.config.enabled && t.config.keeps e then
        lastOf t.config.capacity (t.entries ++ [(e.depthAt t.depth, e)])
      else t.entries := by
  unfold record
  cases t.config.enabled with
  | false => rfl
  | true =>
    cases t.config.keeps e with
    | false => rfl
    | true => exact entries_store _ _

/-! ### Agreement -/

/-- Two tracers treat events alike, stand at the same depth and show the same. -/
structure Agrees (t t' : Tracer) : Prop where
  /-- They treat events alike. -/
  config : t.config = t'.config
  /-- They stand at the same depth. -/
  depth : t.depth = t'.depth
  /-- They show the same. -/
  entries : t.entries = t'.entries

variable {t t' : Tracer}

/-- One event keeps agreement up. -/
theorem Agrees.record (h : t.Agrees t') (e : Event) : (t.record e).Agrees (t'.record e) where
  config := by rw [config_record, config_record, h.config]
  depth := by rw [depth_record, depth_record, h.config, h.depth]
  entries := by rw [entries_record, entries_record, h.config, h.depth, h.entries]

/-- **Tracers that agree do so after any events.** -/
theorem Agrees.recordAll (h : t.Agrees t') (es : List Event) :
    (t.recordAll es).Agrees (t'.recordAll es) := by
  induction es generalizing t t' with
  | nil => exact h
  | cons e es ih => exact ih (h.record e)

/-- A disabled tracer stays as it is. -/
theorem recordAll_of_disabled (h : t.config.enabled = false) (es : List Event) :
    t.recordAll es = t := by
  induction es with
  | nil => rfl
  | cons e es ih => rw [recordAll_cons, record_of_disabled h, ih]

end Tracer
end Oracion
