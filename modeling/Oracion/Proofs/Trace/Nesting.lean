import Oracion.Trace.Tracer

/-!
# Nested events

The events that a rule is entered and left are brackets.  A tracer writes each event at the
depth at which it stands, so a trace is a list of entries, each a depth and an event.
`Nested d` says of such a list that its brackets close in the right order and under the name
they were opened with, that the depth is `d` and one more for each open bracket, and that a
bracket is closed as failed exactly when there is a mismatch inside it.

## Main definitions

* `entriesFrom d es`, `depthFrom d es` — the entries of events that start at depth `d`, and
  the depth that they lead to.
* `Nested d xs` — the entries `xs` are nested at depth `d`.
* `Balanced es` — the events `es` are nested at whatever depth they start.

## Main results

* `Nested.depthFrom` — **nested events come back to the depth that they start at.**
* `Nested.depth_add_closed` — **the depth of an entry counts the rules that are open there.**
* `Balanced.append`, `Balanced.rule` — how balanced events are put together.
-/

namespace Oracion
namespace Trace

namespace Event

/-- Whether an event opens a bracket. -/
def isEnter : Event → Bool
  | productionEnter _ => true
  | _ => false

/-- Whether an event closes a bracket. -/
def isExit : Event → Bool
  | productionExit .. => true
  | _ => false

/-- What a mismatch reports: the category asked for, the one found and its position. -/
def mismatch? : Event → Option (Category × Category × Nat)
  | mismatch expected found position => some (expected, found, position)
  | _ => none

/-- An event that is no bracket is recorded at the depth where it stands and leaves it. -/
theorem depth_of_note {e : Event} (henter : e.isEnter = false) (hexit : e.isExit = false)
    (d : Nat) : e.depthAt d = d ∧ e.depthAfter d = d := by
  cases e with
  | productionEnter p => exact absurd henter Bool.noConfusion
  | productionExit p success => exact absurd hexit Bool.noConfusion
  | _ => exact ⟨rfl, rfl⟩

end Event

/-! ### Entries and depths -/

/-- The entries of events that start at depth `d`. -/
def entriesFrom (d : Nat) : List Event → List (Nat × Event)
  | [] => []
  | e :: es => (e.depthAt d, e) :: entriesFrom (e.depthAfter d) es

/-- The depth that events lead to from depth `d`. -/
def depthFrom (d : Nat) (es : List Event) : Nat := es.foldl Event.depthAfter d

@[simp] theorem entriesFrom_nil (d : Nat) : entriesFrom d [] = [] := rfl

@[simp] theorem entriesFrom_cons (d : Nat) (e : Event) (es : List Event) :
    entriesFrom d (e :: es) = (e.depthAt d, e) :: entriesFrom (e.depthAfter d) es := rfl

@[simp] theorem depthFrom_nil (d : Nat) : depthFrom d [] = d := rfl

@[simp] theorem depthFrom_cons (d : Nat) (e : Event) (es : List Event) :
    depthFrom d (e :: es) = depthFrom (e.depthAfter d) es := rfl

@[simp] theorem depthFrom_append (d : Nat) (es fs : List Event) :
    depthFrom d (es ++ fs) = depthFrom (depthFrom d es) fs := List.foldl_append

theorem entriesFrom_append (d : Nat) (es fs : List Event) :
    entriesFrom d (es ++ fs) = entriesFrom d es ++ entriesFrom (depthFrom d es) fs := by
  induction es generalizing d with
  | nil => rfl
  | cons e es ih => rw [List.cons_append, entriesFrom_cons, ih]; rfl

@[simp] theorem map_snd_entriesFrom (d : Nat) (es : List Event) :
    (entriesFrom d es).map Prod.snd = es := by
  induction es generalizing d with
  | nil => rfl
  | cons e es ih => rw [entriesFrom_cons, List.map_cons, ih]

/-! ### Nesting -/

/-- The entries are nested at depth `d`. -/
inductive Nested : Nat → List (Nat × Event) → Prop
  /-- Nothing is. -/
  | nil {d : Nat} : Nested d []
  /-- An event that is no bracket is, at this depth. -/
  | note {d : Nat} {e : Event} (enter : e.isEnter = false) (exit : e.isExit = false) :
      Nested d [(d, e)]
  /-- A rule is, whose events are nested one deeper, if it fails just when one of them is a
  mismatch. -/
  | rule {d : Nat} {p : Production} {success : Bool} {xs : List (Nat × Event)}
      (inner : Nested (d + 1) xs)
      (fails : success = false ↔ ∃ x ∈ xs, x.2.mismatch?.isSome) :
      Nested d ((d, .productionEnter p) :: (xs ++ [(d, .productionExit p success)]))
  /-- Nested entries one after the other are. -/
  | append {d : Nat} {xs ys : List (Nat × Event)} (first : Nested d xs) (second : Nested d ys) :
      Nested d (xs ++ ys)

/-- How many rules are entered among entries. -/
def opened (xs : List (Nat × Event)) : Nat := xs.countP fun x => x.2.isEnter

/-- How many rules are left among entries. -/
def closed (xs : List (Nat × Event)) : Nat := xs.countP fun x => x.2.isExit

@[simp] theorem opened_append (xs ys : List (Nat × Event)) :
    opened (xs ++ ys) = opened xs + opened ys := List.countP_append

@[simp] theorem closed_append (xs ys : List (Nat × Event)) :
    closed (xs ++ ys) = closed xs + closed ys := List.countP_append

@[simp] theorem opened_cons (x : Nat × Event) (xs : List (Nat × Event)) :
    opened (x :: xs) = opened xs + if x.2.isEnter then 1 else 0 := List.countP_cons

@[simp] theorem closed_cons (x : Nat × Event) (xs : List (Nat × Event)) :
    closed (x :: xs) = closed xs + if x.2.isExit then 1 else 0 := List.countP_cons

@[simp] theorem opened_nil : opened [] = 0 := rfl

@[simp] theorem closed_nil : closed [] = 0 := rfl

namespace Nested

variable {d : Nat} {xs : List (Nat × Event)}

/-- **Nested events come back to the depth that they start at.** -/
theorem depthFrom (h : Nested d xs) : Trace.depthFrom d (xs.map Prod.snd) = d := by
  induction h with
  | nil => rfl
  | note enter exit => exact (Event.depth_of_note enter exit _).2
  | @rule d p success xs _ _ ih =>
    calc Trace.depthFrom d
          (((d, .productionEnter p) :: (xs ++ [(d, .productionExit p success)])).map Prod.snd)
        = Trace.depthFrom (d + 1) (xs.map Prod.snd) - 1 := by simp; rfl
      _ = d := by rw [ih, Nat.add_sub_cancel]
  | append _ _ ih₁ ih₂ => rw [List.map_append, depthFrom_append, ih₁, ih₂]

/-- As many rules are left as are entered. -/
theorem closed_eq_opened (h : Nested d xs) : closed xs = opened xs := by
  induction h with
  | nil => rfl
  | note enter exit => simp [enter, exit]
  | rule _ _ ih => simp [Event.isEnter, Event.isExit, ih]
  | append _ _ ih₁ ih₂ => rw [opened_append, closed_append, ih₁, ih₂]

/-- **The depth of an entry counts the rules that are open there**: those entered before it,
less those left by then.  A rule is left at the depth at which it was entered. -/
theorem depth_add_closed (h : Nested d xs) {i : Nat} {x : Nat × Event} (hx : xs[i]? = some x) :
    x.1 + closed (xs.take (i + 1)) = d + opened (xs.take i) := by
  induction h generalizing i with
  | nil => exact absurd hx (by simp)
  | note enter exit =>
    obtain ⟨rfl, rfl⟩ : i = 0 ∧ _ = x := by simpa [List.getElem?_singleton] using hx
    simp [exit]
  | @rule d p success xs inner _ ih =>
    cases i with
    | zero =>
      obtain rfl : _ = x := by simpa using hx
      simp [Event.isExit]
    | succ i =>
      rw [List.getElem?_cons_succ] at hx
      rw [List.take_succ_cons, List.take_succ_cons, opened_cons, closed_cons]
      rcases Nat.lt_or_ge i xs.length with hi | hi
      · -- inside the rule, which is entered and not yet left
        have hi' : i + 1 ≤ xs.length := hi
        rw [List.getElem?_append_left hi] at hx
        have hdepth := ih hx
        rw [List.take_append_of_le_length (Nat.le_of_lt hi), List.take_append_of_le_length hi']
        simp only [Event.isEnter, Event.isExit, if_true, Bool.false_eq_true, if_false]
        omega
      · -- at its end, where as many rules have been left as entered
        rw [List.getElem?_append_right hi, List.getElem?_singleton] at hx
        obtain ⟨hlast, rfl⟩ : i - xs.length = 0 ∧ _ = x := by simpa using hx
        obtain rfl : i = xs.length := by omega
        rw [List.take_left, List.take_of_length_le (by simp), closed_append,
          inner.closed_eq_opened]
        simp [Event.isEnter, Event.isExit]
  | @append d xs ys first _ ih₁ ih₂ =>
    rcases Nat.lt_or_ge i xs.length with hi | hi
    · rw [List.getElem?_append_left hi] at hx
      rw [List.take_append_of_le_length (Nat.le_of_lt hi),
        List.take_append_of_le_length (Nat.succ_le_of_lt hi)]
      exact ih₁ hx
    · rw [List.getElem?_append_right hi] at hx
      have hdepth := ih₂ hx
      have hlater : i + 1 - xs.length = i - xs.length + 1 := by omega
      rw [List.take_append, List.take_append, List.take_of_length_le hi,
        List.take_of_length_le (by omega : xs.length ≤ i + 1), hlater, opened_append, closed_append,
        first.closed_eq_opened]
      omega

end Nested

/-! ### Balanced events -/

/-- The events are nested at whatever depth they start. -/
def Balanced (es : List Event) : Prop := ∀ d, Nested d (entriesFrom d es)

namespace Balanced

variable {es fs : List Event}

/-- Balanced events leave the depth as it is. -/
theorem depthFrom (h : Balanced es) (d : Nat) : Trace.depthFrom d es = d := by
  have hd := (h d).depthFrom
  rwa [map_snd_entriesFrom] at hd

theorem nil : Balanced [] := fun _ => .nil

theorem note {e : Event} (henter : e.isEnter = false) (hexit : e.isExit = false) :
    Balanced [e] := by
  intro d
  rw [entriesFrom_cons, (Event.depth_of_note henter hexit d).1]
  exact .note henter hexit

theorem append (h : Balanced es) (h' : Balanced fs) : Balanced (es ++ fs) := by
  intro d
  rw [entriesFrom_append, h.depthFrom]
  exact (h d).append (h' d)

/-- A rule whose body is balanced is, if it fails just when there is a mismatch in it. -/
theorem rule (h : Balanced es) {p : Production} {success : Bool}
    (hsuccess : success = (es.filterMap Event.mismatch?).isEmpty) :
    Balanced (.productionEnter p :: (es ++ [.productionExit p success])) := by
  intro d
  have hentries : entriesFrom d (.productionEnter p :: (es ++ [.productionExit p success])) =
      (d, .productionEnter p) :: (entriesFrom (d + 1) es ++ [(d, .productionExit p success)]) := by
    rw [entriesFrom_cons, entriesFrom_append]
    change _ :: (_ ++ [(Trace.depthFrom (d + 1) es - 1, _)]) = _
    rw [h.depthFrom]
    rfl
  rw [hentries]
  refine .rule (h (d + 1)) ?_
  -- the events of the entries are the events of the body
  have hmem : (∃ x ∈ entriesFrom (d + 1) es, x.2.mismatch?.isSome) ↔
      ∃ e ∈ (entriesFrom (d + 1) es).map Prod.snd, e.mismatch?.isSome := by
    constructor
    · rintro ⟨x, hx, hmismatch⟩
      exact ⟨x.2, List.mem_map_of_mem hx, hmismatch⟩
    · rintro ⟨_, he, hmismatch⟩
      obtain ⟨x, hx, rfl⟩ := List.mem_map.mp he
      exact ⟨x, hx, hmismatch⟩
  rw [hmem, map_snd_entriesFrom, hsuccess, List.isEmpty_eq_false_iff, Ne,
    List.filterMap_eq_nil_iff]
  simp [Option.isSome_iff_ne_none]

end Balanced
end Trace
end Oracion
