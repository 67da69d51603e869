import Mathlib.Data.List.DropRight
import Oracion.Trace.Tracer

/-!
# What a tracer retains

A tracer is a window on a log without bounds: the log has one record for each event that the
tracer has ever kept, numbered from zero, and is only ever appended to.  The buffer is the
end of the log, as far back as its size allows and never past the last time that it was
emptied; what is echoed is the whole log.  This holds after any operations on a new tracer,
whether events come while it is disabled, are left out or find no room.

## Main definitions

* `Trace.Operation`, `Tracer.performAll`, `Tracer.returned` — operations, what a tracer is
  after some, and what the drains among them return.
* `Trace.kept c ops` — the events that are kept, read off the operations.
* `Tracer.Logs t log mark` — the tracer shows the log from `mark` on.

## Main results

* `Tracer.Logs.perform` — every operation appends to the log or leaves it as it is.
* `Tracer.exists_log` — after any operations there is a log.
* `Tracer.buffer_holds_latest_kept` — **the buffer holds the latest events kept, no drain
  returns a record again, and every event kept is echoed once.**
-/

namespace Oracion

/-! ### Operations -/

namespace Trace

/-- What can be done to a tracer. -/
inductive Operation where
  /-- It is told an event. -/
  | record (event : Event)
  /-- It starts taking events up. -/
  | enable
  /-- It stops. -/
  | disable
  /-- Its buffer is emptied. -/
  | clear
  /-- The records are taken out of its buffer. -/
  | drain
  deriving DecidableEq, Repr, Inhabited

/-- Whether an operation leaves the buffer empty. -/
def Operation.empties : Operation → Bool
  | clear => true
  | drain => true
  | _ => false

/-- The events that a tracer keeps in the course of operations: those it is told while it is
enabled, if its filter lets them through. -/
def kept (c : Config) : List Operation → List Event
  | [] => []
  | .record e :: ops => (if c.enabled && c.keeps e then [e] else []) ++ kept c ops
  | .enable :: ops => kept { c with enabled := true } ops
  | .disable :: ops => kept { c with enabled := false } ops
  | .clear :: ops => kept c ops
  | .drain :: ops => kept c ops

/-- The operations up to the last that empties the buffer. -/
def untilEmptied (ops : List Operation) : List Operation := ops.rdropWhile fun o => !o.empties

end Trace

open Trace

namespace Tracer

/-- A tracer after an operation. -/
def perform (t : Tracer) : Operation → Tracer
  | .record e => t.record e
  | .enable => t.enable
  | .disable => t.disable
  | .clear => t.clear
  | .drain => t.drain.2

/-- What an operation returns: a drain some records, any other nothing. -/
def returns (t : Tracer) : Operation → List (List Record)
  | .drain => [t.drain.1]
  | _ => []

/-- A tracer after operations. -/
def performAll (t : Tracer) (ops : List Operation) : Tracer := ops.foldl perform t

/-- What the drains among operations return, one after the other. -/
def returned (t : Tracer) : List Operation → List (List Record)
  | [] => []
  | o :: ops => t.returns o ++ (t.perform o).returned ops

@[simp] theorem performAll_cons (t : Tracer) (o : Operation) (ops : List Operation) :
    t.performAll (o :: ops) = (t.perform o).performAll ops := rfl

theorem performAll_concat (t : Tracer) (ops : List Operation) (o : Operation) :
    t.performAll (ops ++ [o]) = (t.performAll ops).perform o := by
  rw [performAll, List.foldl_append]
  rfl

theorem returned_concat (t : Tracer) (ops : List Operation) (o : Operation) :
    t.returned (ops ++ [o]) = t.returned ops ++ (t.performAll ops).returns o := by
  induction ops generalizing t with
  | nil => exact List.append_nil _
  | cons o' ops ih =>
    rw [List.cons_append, returned, ih, returned, performAll_cons, List.append_assoc]

/-- What an operation has kept depends on the configuration that it finds. -/
theorem kept_concat (t : Tracer) (ops : List Operation) (o : Operation) :
    kept t.config (ops ++ [o]) = kept t.config ops ++ kept (t.performAll ops).config [o] := by
  induction ops generalizing t with
  | nil => rfl
  | cons o' ops ih =>
    have hrest := ih (t.perform o')
    cases o' with
    | record e =>
      have hconfig : (t.perform (.record e)).config = t.config := config_record t e
      rw [hconfig] at hrest
      rw [List.cons_append, kept, kept, hrest, List.append_assoc]
      rfl
    | enable => exact hrest
    | disable => exact hrest
    | clear => exact hrest
    | drain => exact hrest

/-- Operations change nothing of a configuration but whether events are taken up. -/
theorem capacity_echo_performAll (t : Tracer) (ops : List Operation) :
    (t.performAll ops).config.capacity = t.config.capacity ∧
      (t.performAll ops).config.echo = t.config.echo := by
  induction ops generalizing t with
  | nil => exact ⟨rfl, rfl⟩
  | cons o ops ih =>
    have hrest := ih (t.perform o)
    cases o with
    | record e =>
      have hconfig : (t.perform (.record e)).config = t.config := config_record t e
      rwa [hconfig] at hrest
    | enable => exact hrest
    | disable => exact hrest
    | clear => exact hrest
    | drain => exact hrest

end Tracer

/-! ### The end of a list -/

section LastOf

variable {α : Type}

@[simp] theorem lastOf_nil (n : Nat) : lastOf n ([] : List α) = [] := List.drop_nil

theorem lastOf_suffix (n : Nat) (xs : List α) : lastOf n xs <:+ xs := List.drop_suffix _ _

theorem length_lastOf (n : Nat) (xs : List α) : (lastOf n xs).length = min n xs.length := by
  rw [lastOf, List.length_drop]
  omega

/-- To keep the end of a list while it grows, the end is enough. -/
theorem lastOf_lastOf_concat (n : Nat) (xs : List α) (x : α) :
    lastOf n (lastOf n xs ++ [x]) = lastOf n (xs ++ [x]) := by
  have hdrop : lastOf n xs ++ [x] = (xs ++ [x]).drop (xs.length - n) := by
    rw [lastOf, List.drop_append_of_le_length (Nat.sub_le _ _)]
  rw [hdrop, lastOf, lastOf, List.drop_drop, List.length_drop, List.length_append,
    List.length_singleton]
  congr 1
  omega

end LastOf

/-! ### The log -/

namespace Tracer

/-- The tracer shows the log: the buffer what is in it from `mark` on, as far as there is
room, and the echo all of it. -/
structure Logs (t : Tracer) (log : List Record) (mark : Nat) : Prop where
  /-- The records are numbered from zero. -/
  ids : log.map Record.id = List.range log.length
  /-- The next number is the one after the last. -/
  nextId : t.nextId = log.length
  /-- The mark is not past the end. -/
  mark_le : mark ≤ log.length
  /-- The buffer is the end of the log. -/
  buffer : t.buffer = lastOf t.config.capacity (log.drop mark)
  /-- The echo is the whole log. -/
  echoed : t.echoed.toList = if t.config.echo then log.map Layout.plain.line else []

variable {t : Tracer} {log : List Record} {mark : Nat}

theorem logs_new (c : Config) : (new c).Logs [] 0 := by
  refine ⟨rfl, rfl, Nat.le_refl 0, (lastOf_nil _).symm, ?_⟩
  split <;> rfl

/-- An event that is kept is appended to the log, with the next number. -/
theorem Logs.record_of_kept (h : t.Logs log mark) {e : Event}
    (he : (t.config.enabled && t.config.keeps e) = true) :
    ∃ r : Record, r.event = e ∧ (t.record e).Logs (log ++ [r]) mark ∧
      (t.record e).buffer = lastOf t.config.capacity (t.buffer ++ [r]) := by
  obtain ⟨henabled, hkeeps⟩ := Bool.and_eq_true_iff.mp he
  rw [Tracer.record_of_kept henabled hkeeps]
  refine ⟨⟨t.nextId, e.depthAt t.depth, e, 0⟩, rfl, ⟨?_, ?_, ?_, ?_, ?_⟩, rfl⟩
  · rw [List.map_append, h.ids, List.length_append, List.length_singleton, List.range_succ,
      ← h.nextId]
    rfl
  · rw [List.length_append, List.length_singleton, ← h.nextId]
    rfl
  · rw [List.length_append]
    exact Nat.le_add_right_of_le h.mark_le
  · change lastOf t.config.capacity (t.buffer ++ _) = lastOf t.config.capacity _
    rw [h.buffer, lastOf_lastOf_concat, List.drop_append_of_le_length h.mark_le]
  · have hechoed := h.echoed
    simp only [store]
    split
    · next hecho =>
      rw [if_pos hecho] at hechoed
      rw [Array.toList_push, hechoed, List.map_append]
      rfl
    · next hecho =>
      rw [if_neg hecho] at hechoed
      exact hechoed

/-- An event that is not kept leaves the log as it is. -/
theorem Logs.record_of_not_kept (h : t.Logs log mark) {e : Event}
    (he : (t.config.enabled && t.config.keeps e) = false) :
    (t.record e).Logs log mark ∧ (t.record e).buffer = t.buffer := by
  cases henabled : t.config.enabled with
  | false =>
    rw [record_of_disabled henabled]
    exact ⟨h, rfl⟩
  | true =>
    -- the depth moves, which the log does not show
    have hkeeps : t.config.keeps e = false := by simpa [henabled] using he
    rw [record_of_left_out henabled hkeeps]
    exact ⟨⟨h.ids, h.nextId, h.mark_le, h.buffer, h.echoed⟩, rfl⟩

/-- Emptying the buffer moves the mark to the end of the log. -/
theorem Logs.clear (h : t.Logs log mark) : t.clear.Logs log log.length := by
  refine ⟨h.ids, h.nextId, Nat.le_refl _, ?_, h.echoed⟩
  rw [List.drop_length]
  exact (lastOf_nil _).symm

/-- **Every operation appends to the log what it keeps**, which is an event or nothing.  What
it returns and what it leaves in the buffer were in the buffer or have been appended; if it
empties the buffer, the mark moves to the end. -/
theorem Logs.perform (h : t.Logs log mark) (o : Operation) :
    ∃ new : List Record, new.map Record.event = kept t.config [o] ∧
      (t.perform o).Logs (log ++ new) (if o.empties then (log ++ new).length else mark) ∧
      ((t.returns o).flatten ++ (t.perform o).buffer).Sublist (t.buffer ++ new) := by
  -- an operation that keeps nothing and leaves the buffer shows the same log
  have hquiet : ∀ t' : Tracer, t'.Logs log mark → t'.buffer = t.buffer →
      t'.Logs (log ++ []) mark ∧ t'.buffer.Sublist (t.buffer ++ []) := by
    intro t' hlogs hbuffer
    rw [List.append_nil, List.append_nil, hbuffer]
    exact ⟨hlogs, List.Sublist.refl _⟩
  cases o with
  | record e =>
    cases he : t.config.enabled && t.config.keeps e with
    | true =>
      obtain ⟨r, hevent, hlogs, hbuffer⟩ := h.record_of_kept he
      refine ⟨[r], by simp [kept, he, hevent], hlogs, ?_⟩
      change (t.record e).buffer.Sublist _
      rw [hbuffer]
      exact (lastOf_suffix _ _).sublist
    | false =>
      obtain ⟨hlogs, hbuffer⟩ := h.record_of_not_kept he
      exact ⟨[], by simp [kept, he], hquiet (t.record e) hlogs hbuffer⟩
  | enable =>
    have hlogs : t.enable.Logs log mark := ⟨h.ids, h.nextId, h.mark_le, h.buffer, h.echoed⟩
    exact ⟨[], rfl, hquiet t.enable hlogs rfl⟩
  | disable =>
    have hlogs : t.disable.Logs log mark := ⟨h.ids, h.nextId, h.mark_le, h.buffer, h.echoed⟩
    exact ⟨[], rfl, hquiet t.disable hlogs rfl⟩
  | clear =>
    refine ⟨[], rfl, ?_, ?_⟩
    · rw [List.append_nil]
      exact h.clear
    · exact List.nil_sublist _
  | drain =>
    refine ⟨[], rfl, ?_, ?_⟩
    · rw [List.append_nil]
      exact h.clear
    · -- what was in the buffer is returned, and nothing is left
      change ([t.buffer].flatten ++ []).Sublist _
      simp

/-- After any operations there is a log: of the events kept in their course, with its mark
at those kept before the buffer was last emptied.  No record of it is returned twice, or
returned and still in the buffer. -/
theorem exists_log (c : Config) (ops : List Operation) :
    ∃ log : List Record, log.map Record.event = kept c ops ∧
      ((new c).performAll ops).Logs log (kept c (untilEmptied ops)).length ∧
      (((new c).returned ops).flatten ++ ((new c).performAll ops).buffer).Sublist log := by
  induction ops using List.reverseRecOn with
  | nil => exact ⟨[], rfl, logs_new c, List.Sublist.refl _⟩
  | append_singleton ops o ih =>
    obtain ⟨log, hevents, hlogs, hsub⟩ := ih
    obtain ⟨new', hevents', hlogs', hsub'⟩ := hlogs.perform o
    have hkept : (log ++ new').map Record.event = kept c (ops ++ [o]) := by
      rw [List.map_append, hevents, hevents']
      exact (kept_concat (new c) ops o).symm
    refine ⟨log ++ new', hkept, ?_, ?_⟩
    · rw [performAll_concat]
      cases hempties : o.empties with
      | true =>
        rw [hempties, if_pos rfl, ← List.length_map Record.event, hkept] at hlogs'
        rwa [untilEmptied, List.rdropWhile_concat_neg _ _ _ (by simp [hempties])]
      | false =>
        rw [hempties, if_neg Bool.false_ne_true] at hlogs'
        rwa [untilEmptied, List.rdropWhile_concat_pos _ _ _ (by simp [hempties])]
    · rw [returned_concat, performAll_concat, List.flatten_append, List.append_assoc]
      refine (hsub'.append_left _).trans ?_
      rw [← List.append_assoc]
      exact hsub.append_right _

/-- **The buffer holds the latest events kept.**  After any operations on a new tracer there
is a log with a record for each event kept, in order and numbered from zero.  The buffer is
the end of what the log holds since the last drain or clear, as long as that is or as the
size of the buffer; a drain would return just that.  What drains have returned and what is in
the buffer are different records, in the order of the log, and if the tracer echoes it has
echoed each record of the log once. -/
theorem buffer_holds_latest_kept (c : Config) (ops : List Operation) :
    let t := (new c).performAll ops
    let returned := (new c).returned ops
    ∃ log : List Record,
      log.map Record.event = kept c ops ∧ log.map Record.id = List.range log.length ∧
      t.nextId = log.length ∧
      (let since := log.drop (kept c (untilEmptied ops)).length
       t.buffer <:+ since ∧ t.buffer.length = min c.capacity since.length) ∧
      (new c).returned (ops ++ [.drain]) = returned ++ [t.buffer] ∧
      (returned.flatten ++ t.buffer).Sublist log ∧
      ((returned.flatten ++ t.buffer).map Record.id).Pairwise (· < ·) ∧
      t.echoed.toList = if c.echo then log.map Layout.plain.line else [] := by
  intro t returned
  obtain ⟨log, hevents, hlogs, hsub⟩ := exists_log c ops
  obtain ⟨hcapacity, hecho⟩ := capacity_echo_performAll (new c) ops
  have hbuffer : t.buffer = lastOf c.capacity (log.drop (kept c (untilEmptied ops)).length) := by
    rw [hlogs.buffer, hcapacity]
    rfl
  refine ⟨log, hevents, hlogs.ids, hlogs.nextId, ⟨?_, ?_⟩, ?_, hsub, ?_, ?_⟩
  · rw [hbuffer]
    exact lastOf_suffix _ _
  · rw [hbuffer, length_lastOf]
  · exact returned_concat (new c) ops .drain
  · -- the numbers in the log ascend, and so they do in any part of it
    refine List.Pairwise.sublist (hsub.map Record.id) ?_
    rw [hlogs.ids]
    exact List.pairwise_lt_range
  · rw [hlogs.echoed, hecho]
    rfl

end Tracer
end Oracion
