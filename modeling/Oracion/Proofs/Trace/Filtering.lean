import Oracion.Proofs.Analysis.Chronicle
import Oracion.Proofs.Trace.Retention

/-!
# What a filter hides

Two tracers are put to the same uses, one without a filter and one that keeps some kinds of
events only.  As long as no record is pushed out of its buffer, the second shows what the first
shows, less the entries of other kinds: those that are left stand in the same order and at the
same depth.  The reason is that an event moves the depth before the filter is asked, so the two
tracers are always equally deep.

An analysis is told event by event, so it is enough to look at the operations of a tracer.

## Main definitions

* `Trace.Use`, `Tracer.useAll`, `Tracer.handedOut` — operations and analyses, what a tracer is
  after some, and what the drains among them return.
* `Trace.ofKinds kinds` — what is left of entries when other kinds are hidden.
* `Tracer.Hides kinds t t'` — the tracer `t'` hides what is not of these kinds, and `t` nothing.

## Main results

* `Tracer.Hides.perform` — **every operation keeps up the relation, and returns lists in it.**
* `Tracer.filter_hides_other_kinds` — the same at every point of a run of uses.
-/

namespace Oracion

open Trace

/-! ### Uses of a tracer -/

/-- What a tracer is used for. -/
inductive Trace.Use where
  /-- An operation on it. -/
  | operation (o : Operation)
  /-- The analysis of a text that it is told of. -/
  | analysis (text : String)
  deriving DecidableEq, Repr, Inhabited

namespace Tracer

/-- A tracer after a use. -/
def use (t : Tracer) : Use → Tracer
  | .operation o => t.perform o
  | .analysis text => (analyzeWith text t).2

/-- A tracer after uses. -/
def useAll (t : Tracer) (us : List Use) : Tracer := us.foldl use t

/-- What the drains among uses return, one after the other. -/
def handedOut (t : Tracer) : List Use → List (List Record)
  | [] => []
  | .operation o :: us => t.returns o ++ (t.perform o).handedOut us
  | .analysis text :: us => (analyzeWith text t).2.handedOut us

@[simp] theorem useAll_cons (t : Tracer) (u : Use) (us : List Use) :
    t.useAll (u :: us) = (t.use u).useAll us := rfl

theorem useAll_append (t : Tracer) (us vs : List Use) :
    t.useAll (us ++ vs) = (t.useAll us).useAll vs := List.foldl_append

/-- To be told events is to be put to as many operations, none of which returns anything. -/
theorem performAll_records (t : Tracer) (es : List Event) (ops : List Operation) :
    t.performAll (es.map .record ++ ops) = (t.recordAll es).performAll ops ∧
      t.returned (es.map .record ++ ops) = (t.recordAll es).returned ops := by
  induction es generalizing t with
  | nil => exact ⟨rfl, rfl⟩
  | cons e es ih => exact ih (t.record e)

/-- **Uses come down to operations**, the same for all tracers. -/
theorem exists_operations (us : List Use) :
    ∃ ops, ∀ t : Tracer, t.useAll us = t.performAll ops ∧ t.handedOut us = t.returned ops := by
  induction us with
  | nil => exact ⟨[], fun t => ⟨rfl, rfl⟩⟩
  | cons u us ih =>
    obtain ⟨ops, hops⟩ := ih
    cases u with
    | operation o =>
      refine ⟨o :: ops, ?_⟩
      intro t
      obtain ⟨huse, hreturned⟩ := hops (t.perform o)
      exact ⟨huse, congrArg (t.returns o ++ ·) hreturned⟩
    | analysis text =>
      -- whatever the tracer, an analysis tells it the same events
      obtain ⟨es, hes⟩ := analyzeWith_eq_recordAll text
      refine ⟨es.map .record ++ ops, ?_⟩
      intro t
      obtain ⟨huse, hreturned⟩ := hops (t.recordAll es)
      obtain ⟨hperform, hreturns⟩ := performAll_records t es ops
      have hanalysis : (analyzeWith text t).2 = t.recordAll es := by rw [hes]
      constructor
      · rw [useAll_cons, use, hanalysis, huse, hperform]
      · rw [handedOut, hanalysis, hreturned, hreturns]

/-! ### How many events have been kept -/

theorem nextId_le_record (t : Tracer) (e : Event) : t.nextId ≤ (t.record e).nextId := by
  unfold record
  split
  · dsimp only
    split
    · exact Nat.le_succ _
    · exact Nat.le_refl _
  · exact Nat.le_refl _

theorem nextId_le_perform (t : Tracer) (o : Operation) : t.nextId ≤ (t.perform o).nextId := by
  cases o with
  | record e => exact nextId_le_record t e
  | enable => exact Nat.le_refl _
  | disable => exact Nat.le_refl _
  | clear => exact Nat.le_refl _
  | drain => exact Nat.le_refl _

theorem nextId_le_performAll (t : Tracer) (ops : List Operation) :
    t.nextId ≤ (t.performAll ops).nextId := by
  induction ops generalizing t with
  | nil => exact Nat.le_refl _
  | cons o ops ih => exact (nextId_le_perform t o).trans (ih (t.perform o))

end Tracer

/-! ### Hiding -/

/-- What is left of entries when those of other kinds are hidden. -/
def Trace.ofKinds (kinds : List String) (xs : List (Nat × Event)) : List (Nat × Event) :=
  xs.filter fun x => kinds.contains x.2.kind

theorem Trace.ofKinds_concat (kinds : List String) (xs : List (Nat × Event)) (x : Nat × Event) :
    ofKinds kinds (xs ++ [x]) =
      if kinds.contains x.2.kind then ofKinds kinds xs ++ [x] else ofKinds kinds xs := by
  unfold ofKinds
  rw [List.filter_append, List.filter_cons, List.filter_nil]
  split
  · rfl
  · exact List.append_nil _

/-- A list with room for one more item keeps all. -/
theorem lastOf_concat {α : Type} {n : Nat} {xs : List α} (h : xs.length < n) (x : α) :
    lastOf n (xs ++ [x]) = xs ++ [x] := by
  apply lastOf_of_length_le
  rw [List.length_append, List.length_singleton]
  exact h

namespace Tracer

/-- The tracer `t` keeps all events.  The tracer `t'` keeps those of some kinds, does else as
`t` does, stands at the same depth, and shows what `t` shows of those kinds. -/
structure Hides (kinds : List String) (t t' : Tracer) : Prop where
  /-- The first has no filter. -/
  unfiltered : t.config.filter = []
  /-- The second has one, and that is the difference. -/
  config : t'.config = { t.config with filter := kinds }
  /-- They stand at the same depth. -/
  depth : t'.depth = t.depth
  /-- The second shows the entries of the kinds that it keeps. -/
  entries : t'.entries = ofKinds kinds t.entries
  /-- The first has no more records than it has kept events. -/
  counted : t.buffer.length ≤ t.nextId

variable {kinds : List String} {t t' : Tracer}

theorem length_entries (t : Tracer) : t.entries.length = t.buffer.length := List.length_map _

theorem hides_new (kinds : List String) (c : Config) :
    Hides kinds (new { c with filter := [] }) (new { c with filter := kinds }) :=
  ⟨rfl, rfl, rfl, rfl, Nat.le_refl 0⟩

/-- A filter that is not empty keeps the kinds that it names. -/
theorem Hides.keeps (h : Hides kinds t t') (hkinds : kinds ≠ []) (e : Event) :
    t.config.keeps e = true ∧ t'.config.keeps e = kinds.contains e.kind := by
  have hempty : kinds.isEmpty = false := List.isEmpty_eq_false_iff.mpr hkinds
  simp [Config.keeps, h.unfiltered, h.config, hempty]

/-- The first tracer has room for an event if it has kept fewer than its buffer holds; so has
the second, which shows no more. -/
theorem Hides.length_entries_lt (h : Hides kinds t t') (hroom : t.nextId < t.config.capacity) :
    t.entries.length < t.config.capacity ∧ t'.entries.length < t'.config.capacity := by
  have hcapacity : t'.config.capacity = t.config.capacity := by rw [h.config]
  have hless : t'.entries.length ≤ t.entries.length := by
    rw [h.entries]
    exact List.length_filter_le _ _
  have hcounted := h.counted
  rw [length_entries t] at hless ⊢
  omega

/-- **An event keeps up the relation** if the first tracer has room for it: the second keeps
it too, or loses nothing but that entry. -/
theorem Hides.record (h : Hides kinds t t') (hkinds : kinds ≠ []) (e : Event)
    (hroom : (t.record e).nextId ≤ t.config.capacity) :
    Hides kinds (t.record e) (t'.record e) := by
  have henabled' : t'.config.enabled = t.config.enabled := by rw [h.config]
  cases henabled : t.config.enabled with
  | false => rwa [record_of_disabled henabled, record_of_disabled (henabled'.trans henabled)]
  | true =>
    obtain ⟨hkeeps, hkeeps'⟩ := h.keeps hkinds e
    have hcount : (t.record e).nextId = t.nextId + 1 := by
      rw [record_of_kept henabled hkeeps]
      rfl
    obtain ⟨hfits, hfits'⟩ := h.length_entries_lt (by omega)
    have hentries : (t.record e).entries = t.entries ++ [(e.depthAt t.depth, e)] := by
      rw [entries_record, henabled, hkeeps]
      exact lastOf_concat hfits _
    have hentries' : (t'.record e).entries =
        if kinds.contains e.kind then t'.entries ++ [(e.depthAt t.depth, e)] else t'.entries := by
      rw [entries_record, henabled', henabled, hkeeps', h.depth, Bool.true_and,
        lastOf_concat hfits']
    refine ⟨?_, ?_, ?_, ?_, ?_⟩
    · rw [config_record, h.unfiltered]
    · rw [config_record, config_record, h.config]
    · rw [depth_record, depth_record, henabled', h.depth]
    · rw [hentries', hentries, h.entries, ofKinds_concat]
    · have hcounted := h.counted
      rw [← length_entries, hentries, List.length_append, length_entries, hcount]
      exact Nat.succ_le_succ hcounted

theorem Hides.clear (h : Hides kinds t t') : Hides kinds t.clear t'.clear :=
  ⟨h.unfiltered, h.config, rfl, rfl, Nat.zero_le _⟩

/-- **Every operation keeps up the relation**, if the first tracer has room, and what the
operation returns is in the same relation. -/
theorem Hides.perform (h : Hides kinds t t') (hkinds : kinds ≠ []) (o : Operation)
    (hroom : (t.perform o).nextId ≤ t.config.capacity) :
    Hides kinds (t.perform o) (t'.perform o) ∧
      (t'.returns o).map (·.map Record.entry) =
        (t.returns o).map fun rs => ofKinds kinds (rs.map Record.entry) := by
  cases o with
  | record e => exact ⟨h.record hkinds e hroom, rfl⟩
  | enable =>
    refine ⟨⟨h.unfiltered, ?_, h.depth, h.entries, h.counted⟩, rfl⟩
    show { t'.config with enabled := true } = _
    rw [h.config]
    rfl
  | disable =>
    refine ⟨⟨h.unfiltered, ?_, h.depth, h.entries, h.counted⟩, rfl⟩
    show { t'.config with enabled := false } = _
    rw [h.config]
    rfl
  | clear => exact ⟨h.clear, rfl⟩
  | drain => exact ⟨h.clear, congrArg (fun xs => [xs]) h.entries⟩

/-- **So do any operations**, one after the other. -/
theorem Hides.performAll (h : Hides kinds t t') (hkinds : kinds ≠ []) (ops : List Operation)
    (hroom : (t.performAll ops).nextId ≤ t.config.capacity) :
    Hides kinds (t.performAll ops) (t'.performAll ops) ∧
      (t'.returned ops).map (·.map Record.entry) =
        (t.returned ops).map fun rs => ofKinds kinds (rs.map Record.entry) := by
  induction ops generalizing t t' with
  | nil => exact ⟨h, rfl⟩
  | cons o ops ih =>
    have hnow : (t.perform o).nextId ≤ t.config.capacity :=
      (nextId_le_performAll (t.perform o) ops).trans hroom
    have hcapacity : (t.perform o).config.capacity = t.config.capacity :=
      (capacity_echo_performAll t [o]).1
    obtain ⟨hstep, hreturns⟩ := h.perform hkinds o hnow
    obtain ⟨hrest, hreturned⟩ := ih hstep (by rwa [hcapacity])
    refine ⟨hrest, ?_⟩
    rw [returned, returned, List.map_append, List.map_append, hreturns, hreturned]

/-- **A filter hides the entries of other kinds and changes nothing else.**  Let two new
tracers differ in their filters only, one having none and the other some kinds, and be put to
the same uses.  If the buffer has room for all events that the first keeps, then at every point
the second is as deep as the first and shows the entries of its kinds that the first shows, in
order and at their depths; and so it is with what the drains have returned. -/
theorem filter_hides_other_kinds (c : Config) {kinds : List String} (hkinds : kinds ≠ [])
    {us : List Use} (hroom : ((new { c with filter := [] }).useAll us).nextId ≤ c.capacity) :
    ∀ past, past <+: us →
      let whole := new { c with filter := [] }
      let filtered := new { c with filter := kinds }
      (filtered.useAll past).depth = (whole.useAll past).depth ∧
        (filtered.useAll past).entries = ofKinds kinds (whole.useAll past).entries ∧
        (filtered.handedOut past).map (·.map Record.entry) =
          (whole.handedOut past).map fun rs => ofKinds kinds (rs.map Record.entry) := by
  rintro past ⟨later, rfl⟩
  intro whole filtered
  obtain ⟨ops, hops⟩ := exists_operations past
  obtain ⟨ops', hops'⟩ := exists_operations later
  -- fewer events have been kept at this point than at the end
  have hpast : (whole.performAll ops).nextId ≤ c.capacity := by
    rw [useAll_append, (hops' _).1, (hops _).1] at hroom
    exact (nextId_le_performAll _ ops').trans hroom
  obtain ⟨hhides, hreturned⟩ := (hides_new kinds c).performAll hkinds ops hpast
  rw [(hops whole).1, (hops filtered).1, (hops whole).2, (hops filtered).2]
  exact ⟨hhides.depth, hhides.entries, hreturned⟩

/-- The ends of rules are kept and their starts are not, over an analysis that fails inside a
rule, a drain, and a rule that is left without having been entered. -/
theorem filter_hides_starts_of_rules :
    let c : Config := { enabled := true, capacity := 20 }
    let kinds := ["production-exit", "mismatch"]
    let us : List Use := [.analysis "el perro", .operation .drain,
      .operation (.record (.productionEnter .subject)),
      .operation (.record (.productionExit .subject true)),
      .operation (.record (.productionExit .sentence true))]
    let whole := new { c with filter := [] }
    let filtered := new { c with filter := kinds }
    kinds ≠ [] ∧ (whole.useAll us).nextId ≤ c.capacity ∧
      (filtered.useAll us).entries = ofKinds kinds (whole.useAll us).entries ∧
      (filtered.handedOut us).map (·.map Record.entry) =
        (whole.handedOut us).map fun rs => ofKinds kinds (rs.map Record.entry) := by
  intro c kinds us whole filtered
  have hkinds : kinds ≠ [] := List.cons_ne_nil _ _
  have hroom : (whole.useAll us).nextId ≤ c.capacity := by decide +kernel
  exact ⟨hkinds, hroom, (filter_hides_other_kinds c hkinds hroom us (List.prefix_refl us)).2⟩

end Tracer
end Oracion
