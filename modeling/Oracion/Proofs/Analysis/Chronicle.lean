import Oracion.Proofs.Trace.Agreement

/-!
# What a trace holds

A tracer that takes up every event and has room for them holds afterwards what it held
before and one record for each event.  So its trace can be read: the trace of a recognition
tells the outcome, and the trace of an analysis is nested, with its depths counted from the
depth at which the tracer stood.

## Main definitions

* `Tracer.HasRoom t n` — the tracer keeps the next `n` events, whatever they are.
* `recognitionEvents ts` — the events of the recognition of `ts`.
* `Outcome.ToldBy o ts k es` — the events `es` tell the outcome `o`.

## Main results

* `recognition_events_tell_outcome` — **the trace of a recognition tells its outcome.**
* `analysis_trace_nested` — **the trace of an analysis is nested.**
-/

namespace Oracion

open Trace Grammar NounPhrase

/-! ### Room for events -/

theorem lastOf_of_length_le {α : Type} {n : Nat} {xs : List α} (h : xs.length ≤ n) :
    lastOf n xs = xs := by
  rw [lastOf, Nat.sub_eq_zero_of_le h, List.drop_zero]

theorem Trace.Record.map_event (rs : List Record) :
    rs.map Record.event = (rs.map Record.entry).map Prod.snd := by
  rw [List.map_map]
  rfl

namespace Tracer

/-- The tracer takes up every event, and its buffer has room for `n` more of them. -/
structure HasRoom (t : Tracer) (n : Nat) : Prop where
  /-- It takes events up. -/
  enabled : t.config.enabled = true
  /-- It leaves none out. -/
  unfiltered : t.config.filter = []
  /-- The buffer is not full before `n` more. -/
  room : t.buffer.length + n ≤ t.config.capacity

variable {t : Tracer} {m n : Nat} {es : List Event}

theorem HasRoom.mono (h : t.HasRoom n) (hmn : m ≤ n) : t.HasRoom m := by
  refine ⟨h.enabled, h.unfiltered, ?_⟩
  have hroom := h.room
  omega

/-- With room for it, an event becomes the last record. -/
theorem HasRoom.record (h : t.HasRoom (n + 1)) (e : Event) :
    ∃ r : Record, (t.record e).buffer = t.buffer ++ [r] ∧
      r.entry = (e.depthAt t.depth, e) ∧ (t.record e).HasRoom n := by
  have hkeeps : t.config.keeps e = true := by simp [Config.keeps, h.unfiltered]
  have hlength : (t.buffer ++ [Record.mk t.nextId (e.depthAt t.depth) e 0]).length ≤
      t.config.capacity := by
    have hroom := h.room
    rw [List.length_append, List.length_singleton]
    omega
  have hbuffer : (t.record e).buffer =
      t.buffer ++ [Record.mk t.nextId (e.depthAt t.depth) e 0] := by
    rw [record_of_kept h.enabled hkeeps]
    exact lastOf_of_length_le hlength
  refine ⟨_, hbuffer, rfl, ?_, ?_, ?_⟩
  · rw [config_record, h.enabled]
  · rw [config_record, h.unfiltered]
  · have hroom := h.room
    rw [config_record, hbuffer, List.length_append, List.length_singleton]
    omega

/-- With room for them, events become the last records. -/
theorem HasRoom.recordAll (h : t.HasRoom es.length) :
    ∃ rs : List Record, (t.recordAll es).buffer = t.buffer ++ rs ∧
      rs.map Record.entry = entriesFrom t.depth es := by
  induction es generalizing t with
  | nil => exact ⟨[], (List.append_nil _).symm, rfl⟩
  | cons e es ih =>
    obtain ⟨r, hbuffer, hentry, hroom⟩ := h.record e
    obtain ⟨rs, hbuffers, hentries⟩ := ih hroom
    refine ⟨r :: rs, ?_, ?_⟩
    · rw [recordAll_cons, hbuffers, hbuffer, List.append_assoc]
      rfl
    · -- the rest starts at the depth that the event leads to
      rw [depth_record, h.enabled, if_pos rfl] at hentries
      rw [List.map_cons, hentry, hentries, entriesFrom_cons]

theorem HasRoom.events_recordAll (h : t.HasRoom es.length) :
    (t.recordAll es).events = t.events ++ es := by
  obtain ⟨rs, hbuffer, hentries⟩ := h.recordAll
  rw [events, hbuffer, List.map_append, Record.map_event rs, hentries, map_snd_entriesFrom]
  rfl

theorem depth_recordAll (t : Tracer) (es : List Event) :
    (t.recordAll es).depth = if t.config.enabled then depthFrom t.depth es else t.depth := by
  induction es generalizing t with
  | nil => rw [recordAll_nil, depthFrom_nil, ite_self]
  | cons e es ih =>
    rw [recordAll_cons, ih, config_record, depth_record]
    split <;> rfl

/-- Balanced events leave the depth of every tracer as it is. -/
theorem depth_recordAll_of_balanced (h : Balanced es) (t : Tracer) :
    (t.recordAll es).depth = t.depth := by
  rw [depth_recordAll, h.depthFrom, ite_self]

end Tracer

/-! ### The trace of a recognition -/

/-- The events of a recognition: those that a new tracer holds after it. -/
def recognitionEvents (ts : List Token) : List Event := (recognizeWith ts .buffered).2.events

theorem Chronicle.recognitionEvents_eq {ts : List Token} {k : Nat} {es : List Event}
    (h : Chronicle ts k es) : recognitionEvents ts = es := by
  have hroom : Tracer.buffered.HasRoom es.length := by
    refine ⟨rfl, rfl, ?_⟩
    have hlength := h.length_le
    change 0 + es.length ≤ 10000
    omega
  rw [recognitionEvents, h.tells]
  exact hroom.events_recordAll

theorem exists_chronicle_recognitionEvents (ts : List Token) :
    ∃ k, Chronicle ts k (recognitionEvents ts) := by
  obtain ⟨k, es, h⟩ := exists_chronicle ts
  exact ⟨k, h.recognitionEvents_eq ▸ h⟩

theorem length_recognitionEvents_le (ts : List Token) : (recognitionEvents ts).length ≤ 16 := by
  obtain ⟨k, h⟩ := exists_chronicle_recognitionEvents ts
  exact h.length_le

theorem Trace.Event.mismatch?_eq_some_iff {e : Event} {c found : Category} {p : Nat} :
    e.mismatch? = some (c, found, p) ↔ e = .mismatch c found p := by
  cases e <;> simp [Event.mismatch?]

theorem Trace.Event.trailing?_eq_some_iff {e : Event} {p : Nat} :
    e.trailing? = some p ↔ e = .trailingTokens p := by
  cases e <;> simp [Event.trailing?]

theorem mem_mismatches {es : List Event} {c found : Category} {p : Nat} :
    (c, found, p) ∈ es.filterMap Event.mismatch? ↔ .mismatch c found p ∈ es := by
  simp only [List.mem_filterMap, Event.mismatch?_eq_some_iff, exists_eq_right]

theorem mem_trailings {es : List Event} {p : Nat} :
    p ∈ es.filterMap Event.trailing? ↔ .trailingTokens p ∈ es := by
  simp only [List.mem_filterMap, Event.trailing?_eq_some_iff, exists_eq_right]

namespace Conclusion

variable {ts : List Token} {k : Nat} {es : List Event} {o : Outcome}

/-- At most one fault is reported, of one kind or the other. -/
theorem faults_le_one (h : Conclusion ts k es o) :
    (es.filterMap Event.mismatch?).length + (es.filterMap Event.trailing?).length ≤ 1 := by
  cases h with
  | accepted smooth untrailed => simp [smooth, untrailed]
  | rejected mismatch untrailed => simp [mismatch, untrailed]
  | trailing smooth trailed => simp [smooth, trailed]

/-- A fault is reported exactly when the tokens are rejected. -/
theorem success_eq_false_iff (h : Conclusion ts k es o) : o.success = false ↔
    (∃ c found p, .mismatch c found p ∈ es) ∨ ∃ p, .trailingTokens p ∈ es := by
  simp only [← mem_mismatches, ← mem_trailings]
  cases h with
  | accepted smooth untrailed => simp [smooth, untrailed]
  | rejected mismatch untrailed => simp [mismatch, untrailed]
  | trailing smooth trailed => simp [smooth, trailed]

/-- A mismatch is reported exactly when it is the diagnostic. -/
theorem mismatch_mem_iff (h : Conclusion ts k es o) {c found : Category} {p : Nat} :
    .mismatch c found p ∈ es ↔ ∃ text, o.diagnostics = [.unexpected p c found text] := by
  rw [← mem_mismatches]
  cases h with
  | accepted smooth untrailed => simp [smooth]
  | rejected mismatch untrailed =>
    simp only [mismatch, List.mem_singleton, Prod.mk.injEq, List.cons.injEq, and_true,
      Diagnostic.unexpected.injEq]
    constructor
    · rintro ⟨rfl, rfl, rfl⟩
      exact ⟨_, rfl, rfl, rfl, rfl⟩
    · rintro ⟨_, rfl, rfl, rfl, -⟩
      exact ⟨rfl, rfl, rfl⟩
  | trailing smooth trailed => simp [smooth]

/-- That something follows a sentence is reported exactly when it is the diagnostic. -/
theorem trailing_mem_iff (h : Conclusion ts k es o) {p : Nat} :
    .trailingTokens p ∈ es ↔ ∃ text, o.diagnostics = [.trailing p text] := by
  rw [← mem_trailings]
  cases h with
  | accepted smooth untrailed => simp [untrailed]
  | rejected mismatch untrailed => simp [untrailed]
  | trailing smooth trailed =>
    simp only [trailed, List.mem_singleton, List.cons.injEq, and_true, Diagnostic.trailing.injEq]
    constructor
    · rintro rfl
      exact ⟨_, rfl, rfl⟩
    · rintro ⟨_, rfl, -⟩
      rfl

/-- A mismatch is about what is found at `k`. -/
theorem at_of_mismatch_mem (h : Conclusion ts k es o) {c found : Category} {p : Nat}
    (hmem : .mismatch c found p ∈ es) :
    found = Token.categoryAt ts k ∧ p = Token.positionAt ts k := by
  rw [← mem_mismatches] at hmem
  cases h with
  | accepted smooth untrailed => simp [smooth] at hmem
  | rejected mismatch untrailed =>
    obtain ⟨-, hfound, hp⟩ : _ ∧ _ ∧ _ := by simpa [mismatch] using hmem
    exact ⟨hfound, hp⟩
  | trailing smooth trailed => simp [smooth] at hmem

/-- What follows a sentence is what is found at `k`. -/
theorem at_of_trailing_mem (h : Conclusion ts k es o) {p : Nat}
    (hmem : .trailingTokens p ∈ es) : p = Token.positionAt ts k := by
  rw [← mem_trailings] at hmem
  cases h with
  | accepted smooth untrailed => simp [untrailed] at hmem
  | rejected mismatch untrailed => simp [untrailed] at hmem
  | trailing smooth trailed => simpa [trailed] using hmem

end Conclusion

/-- The events `es` tell the outcome `o` of the recognition of `ts`, where the first `k`
tokens are matched. -/
structure Outcome.ToldBy (o : Outcome) (ts : List Token) (k : Nat) (es : List Event) : Prop where
  /-- At most seven tokens are matched. -/
  le_seven : k ≤ 7
  /-- There are so many. -/
  le_length : k ≤ ts.length
  /-- The matches reported are theirs, in order. -/
  matched : es.filterMap Event.matched? = (ts.take k).map fun t => (t.category, t.position)
  /-- None of them marks the end. -/
  proper : .endOfInput ∉ Token.categories (ts.take k)
  /-- At most one fault is reported, of one kind or the other. -/
  once : (es.filterMap Event.mismatch?).length + (es.filterMap Event.trailing?).length ≤ 1
  /-- A fault is reported exactly when the tokens are rejected. -/
  fails : o.success = false ↔
    (∃ c found p, .mismatch c found p ∈ es) ∨ ∃ p, .trailingTokens p ∈ es
  /-- A mismatch is reported exactly when it is the diagnostic. -/
  mismatch : ∀ c found p, .mismatch c found p ∈ es ↔
    ∃ text, o.diagnostics = [.unexpected p c found text]
  /-- It is about what is found at `k`. -/
  mismatch_at : ∀ c found p, .mismatch c found p ∈ es →
    found = Token.categoryAt ts k ∧ p = Token.positionAt ts k
  /-- That something follows is reported exactly when it is the diagnostic. -/
  trailing : ∀ p, .trailingTokens p ∈ es ↔ ∃ text, o.diagnostics = [.trailing p text]
  /-- It is about what is found at `k`. -/
  trailing_at : ∀ p, .trailingTokens p ∈ es → p = Token.positionAt ts k

/-- The events of a chronicle tell the outcome. -/
theorem Chronicle.toldBy {ts : List Token} {k : Nat} {es : List Event} (h : Chronicle ts k es) :
    (recognize ts).ToldBy ts k es where
  le_seven := by
    have hlength := length_le_of_viable h.viable
    rwa [Token.categories, List.length_map, List.length_take_of_le h.le_length] at hlength
  le_length := h.le_length
  matched := h.matched
  proper := endOfInput_notMem_of_viable h.viable
  once := h.conclusion.faults_le_one
  fails := h.conclusion.success_eq_false_iff
  mismatch := fun _ _ _ => h.conclusion.mismatch_mem_iff
  mismatch_at := fun _ _ _ => h.conclusion.at_of_mismatch_mem
  trailing := fun _ => h.conclusion.trailing_mem_iff
  trailing_at := fun _ => h.conclusion.at_of_trailing_mem

/-- **The trace of a recognition tells its outcome.**  A tracer that keeps every event of the
recognition holds afterwards, behind what it held, events that say which tokens were matched
and, if the outcome is a failure, where and why. -/
theorem recognition_events_tell_outcome (ts : List Token) (t : Tracer)
    (h : t.HasRoom (recognitionEvents ts).length) :
    ∃ es k, (recognizeWith ts t).2.events = t.events ++ es ∧
      (recognizeWith ts t).1.ToldBy ts k es := by
  obtain ⟨k, hchronicle⟩ := exists_chronicle_recognitionEvents ts
  refine ⟨recognitionEvents ts, k, ?_, ?_⟩
  · rw [hchronicle.tells]
    exact h.events_recordAll
  · rw [hchronicle.tells]
    exact hchronicle.toldBy

/-- A tracer inside a rule that has kept an event before, and tokens with an early marker of
the end and positions of their own. -/
theorem recognition_events_of_early_end :
    let t := Tracer.buffered.record (.productionEnter .sentence)
    let ts : List Token := [⟨.article, "el", 7⟩, ⟨.endOfInput, "", 3⟩, ⟨.noun, "perro", 3⟩]
    t.HasRoom (recognitionEvents ts).length ∧
      ∃ es k, (recognizeWith ts t).2.events = t.events ++ es ∧
        (recognizeWith ts t).1.ToldBy ts k es := by
  intro t ts
  have hroom : t.HasRoom (recognitionEvents ts).length := by
    refine Tracer.HasRoom.mono ⟨rfl, rfl, ?_⟩ (length_recognitionEvents_le ts)
    decide
  exact ⟨hroom, recognition_events_tell_outcome ts t hroom⟩

/-! ### The trace of an analysis -/

theorem balanced_openingEvents (text : String) : Balanced (openingEvents text) :=
  (Balanced.note rfl rfl).append ((Balanced.note rfl rfl).append (.note rfl rfl))

/-- The events of an analysis are balanced if those of the recognition are. -/
theorem balanced_analysisEvents (text : String) {es : List Event} (h : Balanced es) :
    Balanced (analysisEvents text es) := by
  refine ((balanced_openingEvents text).append ?_).append (.note rfl rfl)
  split
  · exact h
  · exact .nil

/-- An analysis has four events beside those of the recognition. -/
theorem length_analysisEvents_le (text : String) (es : List Event) :
    (analysisEvents text es).length ≤ es.length + 4 := by
  have hmiddle : (if lexicalDiagnostics (tokenize text) = [] then es else []).length ≤
      es.length := by
    split
    · exact Nat.le_refl _
    · exact Nat.zero_le _
  simp only [analysisEvents, openingEvents, List.length_append, List.length_cons, List.length_nil]
  omega

/-- **The trace of an analysis is nested.**  The depth of a tracer is the same after the
analysis of a text as before, whatever the tracer does with events.  A tracer that keeps all
events and has room for twenty holds at most twenty records more: three for the opening, those
of the recognition if no word is unknown, and one for the verdict.  The rules among them are
nested at the depth where the tracer stood, each failing just when there is a mismatch in it,
and each record stands as deep as there are rules open. -/
theorem analysis_trace_nested (text : String) (t : Tracer) :
    (analyzeWith text t).2.depth = t.depth ∧
      (t.HasRoom 20 →
        ∃ rs : List Record, (analyzeWith text t).2.buffer = t.buffer ++ rs ∧ rs.length ≤ 20 ∧
          rs.map Record.event =
            [.analysisStart text, .tokenized (tokenize text).length,
              .lexicalGate (Token.unknowns (tokenize text)).length] ++
            (if Token.unknowns (tokenize text) = [] then recognitionEvents (tokenize text)
              else []) ++
            [.analysisEnd (analyze text).isValid] ∧
          Nested t.depth (rs.map Record.entry) ∧
          ∀ i x, (rs.map Record.entry)[i]? = some x →
            x.1 + closed ((rs.map Record.entry).take (i + 1)) =
              t.depth + opened ((rs.map Record.entry).take i)) := by
  obtain ⟨k, h⟩ := exists_chronicle_recognitionEvents (tokenize text)
  have htells := analyzeWith_of_recognition h.tells t
  have hbalanced := balanced_analysisEvents text h.balanced
  rw [htells]
  refine ⟨Tracer.depth_recordAll_of_balanced hbalanced t, fun hroom => ?_⟩
  have hlength : (analysisEvents text (recognitionEvents (tokenize text))).length ≤ 20 :=
    (length_analysisEvents_le _ _).trans (Nat.add_le_add_right h.length_le 4)
  obtain ⟨rs, hbuffer, hentries⟩ := (hroom.mono hlength).recordAll
  have hevents : rs.map Record.event = analysisEvents text (recognitionEvents (tokenize text)) := by
    rw [Record.map_event, hentries, map_snd_entriesFrom]
  have hnested : Nested t.depth (rs.map Record.entry) := hentries ▸ hbalanced t.depth
  refine ⟨rs, hbuffer, ?_, ?_, hnested, fun i x hx => hnested.depth_add_closed hx⟩
  · rw [← List.length_map Record.event, hevents]
    exact hlength
  · rw [hevents, analysisEvents, openingEvents, lexicalDiagnostics, List.length_map]
    simp only [List.map_eq_nil_iff]

/-- A tracer two rules deep, and a text that ends before its verb. -/
theorem analysis_trace_of_missing_verb :
    let t := (Tracer.buffered.record (.productionEnter .sentence)).record
      (.productionEnter .subject)
    t.HasRoom 20 ∧ t.depth = 2 ∧ (analyzeWith "el perro" t).2.depth = 2 ∧
      ∃ rs : List Record, (analyzeWith "el perro" t).2.buffer = t.buffer ++ rs ∧
        rs.length ≤ 20 ∧ Nested 2 (rs.map Record.entry) := by
  intro t
  have hroom : t.HasRoom 20 := ⟨rfl, rfl, by decide⟩
  obtain ⟨hdepth, htrace⟩ := analysis_trace_nested "el perro" t
  obtain ⟨rs, hbuffer, hlength, -, hnested, -⟩ := htrace hroom
  exact ⟨hroom, rfl, hdepth, rs, hbuffer, hlength, hnested⟩

end Oracion
