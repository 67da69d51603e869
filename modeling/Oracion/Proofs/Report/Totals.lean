import Mathlib.Algebra.BigOperators.Group.List.Basic
import Mathlib.Tactic.Ring
import Oracion.Report

/-!
# What a summary adds up

Summaries of two batches can be merged: counts and times add up, and the longer of the longest
times is the longest.  Merging is associative and commutative, with the summary of nothing as its
neutral element, and the summary of a report is the sum of those of its entries.  So neither the
order of the entries matters nor how a batch is cut into smaller ones.

A duration is given in whole seconds and the nanoseconds beyond them.  To share it out, the seconds
are divided first, and what is left of them is divided again together with the nanoseconds that are
left.  This is the division of all nanoseconds.

## Main definitions

* `Summary.merge` — the summary of two batches together.
* `Summary.single` — the summary of one entry.
* `Summary.Consistent` — how the fields of a summary bound each other.

## Main results

* `Duration.parts_share` — seconds and nanoseconds can be shared out apart.
* `Report.summary_eq_sum` — a summary is the sum over the entries.
* `Summary.Consistent.merge`, `Report.consistent_summary` — the fields bound each other.
* `Report.summary_adds_up` — **what a summary says of a report.**
-/

namespace Oracion

/-! ### Durations by parts -/

namespace Duration

theorem seconds_add_subNanos (d : Duration) : perSecond * d.seconds + d.subNanos = d.nanos :=
  Nat.div_add_mod d.nanos perSecond

theorem subNanos_lt (d : Duration) : d.subNanos < perSecond := Nat.mod_lt d.nanos (by decide)

@[simp] theorem nanos_add (d e : Duration) : (d.add e).nanos = d.nanos + e.nanos := rfl

@[simp] theorem nanos_max (d e : Duration) : (d.max e).nanos = Max.max d.nanos e.nanos := rfl

@[simp] theorem nanos_share (d : Duration) (n : Nat) : (d.share n).nanos = d.nanos / n := rfl

/-- **Seconds and nanoseconds can be shared out apart**: the seconds, the nanoseconds, and what is
left of both. -/
theorem parts_share (d : Duration) {n : Nat} (hn : 0 < n) :
    (d.share n).seconds = d.seconds / n ∧
      (d.share n).subNanos =
        d.subNanos / n + (d.seconds % n * perSecond + d.subNanos % n) / n := by
  have hseconds : n * (d.seconds / n) + d.seconds % n = d.seconds := Nat.div_add_mod _ _
  have hnanos : n * (d.subNanos / n) + d.subNanos % n = d.subNanos := Nat.div_add_mod _ _
  have hleft : d.seconds % n < n := Nat.mod_lt _ hn
  generalize d.seconds / n = q at *
  generalize d.seconds % n = a at *
  generalize d.subNanos / n = q' at *
  generalize d.subNanos % n = b at *
  have hall : d.nanos = n * (perSecond * q + q') + (a * perSecond + b) := by
    rw [← seconds_add_subNanos, ← hseconds, ← hnanos]
    ring
  have hshare : (d.share n).nanos = perSecond * q + (q' + (a * perSecond + b) / n) := by
    rw [nanos_share, hall, Nat.mul_add_div hn, Nat.add_assoc]
  -- fewer than `n` seconds are left over, so the nanoseconds do not make another one
  have hlt : q' + (a * perSecond + b) / n < perSecond := by
    have hbound : n * q' + (a * perSecond + b) < n * perSecond := by
      have hsub := d.subNanos_lt
      have hmul : (a + 1) * perSecond ≤ n * perSecond := Nat.mul_le_mul_right _ hleft
      rw [Nat.add_mul, Nat.one_mul] at hmul
      omega
    rw [← Nat.mul_add_div hn]
    exact Nat.div_lt_of_lt_mul hbound
  constructor
  · rw [seconds, hshare, Nat.mul_add_div (by decide), Nat.div_eq_of_lt hlt, Nat.add_zero]
  · rw [subNanos, hshare, Nat.mul_add_mod, Nat.mod_eq_of_lt hlt]

end Duration

/-! ### Merging summaries -/

namespace Summary

/-- The summary of two batches together. -/
def merge (s t : Summary) : Summary where
  total := s.total + t.total
  valid := s.valid + t.valid
  lexical := s.lexical + t.lexical
  syntactic := s.syntactic + t.syntactic
  totalTime := s.totalTime.add t.totalTime
  maxTime := s.maxTime.max t.maxTime

/-- The summary of one entry. -/
def single (e : Report.Entry) : Summary := empty.add e

theorem add_eq_merge (s : Summary) (e : Report.Entry) : s.add e = s.merge (single e) := by
  simp [add, merge, single, empty, Duration.add, Duration.max, Duration.zero]

theorem empty_merge (s : Summary) : empty.merge s = s := by
  simp [merge, empty, Duration.add, Duration.max, Duration.zero]

theorem merge_comm (s t : Summary) : s.merge t = t.merge s := by
  simp [merge, Duration.add, Duration.max, Nat.add_comm, Nat.max_comm]

theorem merge_assoc (s t u : Summary) : (s.merge t).merge u = s.merge (t.merge u) := by
  simp [merge, Duration.add, Duration.max, Nat.add_assoc, Nat.max_assoc]

instance : Add Summary := ⟨merge⟩

instance : Zero Summary := ⟨empty⟩

instance : AddCommMonoid Summary where
  add_assoc := merge_assoc
  zero_add := empty_merge
  add_zero s := (merge_comm s empty).trans (empty_merge s)
  add_comm := merge_comm
  nsmul := nsmulRec

end Summary

/-! ### Consistent summaries -/

/-- How the fields of a summary bound each other: every text has one verdict, and the longest time
is part of the total and as long as any other. -/
structure Summary.Consistent (s : Summary) : Prop where
  /-- Every text has one verdict. -/
  total_eq : s.total = s.valid + s.lexical + s.syntactic
  /-- The longest time is part of the total. -/
  max_le : s.maxTime.nanos ≤ s.totalTime.nanos
  /-- No time is longer. -/
  le_max : s.totalTime.nanos ≤ s.total * s.maxTime.nanos

namespace Summary.Consistent

variable {s t : Summary}

theorem empty : Summary.empty.Consistent := ⟨rfl, Nat.le_refl 0, Nat.le_refl 0⟩

theorem single (e : Report.Entry) : (Summary.single e).Consistent := by
  constructor
  · cases h : e.analysis.phase with
    | none => simp [Summary.single, add, Summary.empty, h]
    | some p => cases p <;> simp [Summary.single, add, Summary.empty, h]
  · simp [Summary.single, add, Summary.empty, Duration.zero]
  · simp [Summary.single, add, Summary.empty, Duration.zero]

theorem merge (hs : s.Consistent) (ht : t.Consistent) : (s.merge t).Consistent where
  total_eq := by
    have h := hs.total_eq
    have h' := ht.total_eq
    simp only [Summary.merge]
    omega
  max_le := by
    have h := hs.max_le
    have h' := ht.max_le
    simp only [Summary.merge, Duration.nanos_max, Duration.nanos_add]
    omega
  le_max := by
    simp only [Summary.merge, Duration.nanos_max, Duration.nanos_add]
    calc s.totalTime.nanos + t.totalTime.nanos
        ≤ s.total * s.maxTime.nanos + t.total * t.maxTime.nanos :=
          Nat.add_le_add hs.le_max ht.le_max
      _ ≤ s.total * Max.max s.maxTime.nanos t.maxTime.nanos +
            t.total * Max.max s.maxTime.nanos t.maxTime.nanos :=
          Nat.add_le_add (Nat.mul_le_mul_left _ (Nat.le_max_left _ _))
            (Nat.mul_le_mul_left _ (Nat.le_max_right _ _))
      _ = (s.total + t.total) * Max.max s.maxTime.nanos t.maxTime.nanos := (Nat.add_mul ..).symm

/-- The mean is no longer than the longest time. -/
theorem mean_le_max (h : s.Consistent) : s.meanTime.nanos ≤ s.maxTime.nanos := by
  unfold meanTime
  split
  · exact Nat.div_le_of_le_mul h.le_max
  · exact Nat.zero_le _

end Summary.Consistent

/-! ### The summary of a report -/

namespace Report

theorem foldl_add_eq (r : Report) (s : Summary) :
    r.foldl Summary.add s = s + (r.map Summary.single).sum := by
  induction r generalizing s with
  | nil => exact (add_zero s).symm
  | cons e r ih =>
    rw [List.foldl_cons, ih, List.map_cons, List.sum_cons, ← add_assoc, Summary.add_eq_merge]
    rfl

/-- **A summary is the sum over the entries.** -/
theorem summary_eq_sum (r : Report) : r.summary = (r.map Summary.single).sum := by
  rw [summary, foldl_add_eq]
  exact zero_add _

theorem summary_append (r s : Report) : (r ++ s).summary = r.summary.merge s.summary := by
  rw [summary_eq_sum, summary_eq_sum, summary_eq_sum, List.map_append, List.sum_append]
  rfl

theorem summary_cons (e : Entry) (r : Report) :
    summary (e :: r) = (Summary.single e).merge r.summary := summary_append [e] r

theorem summary_eq_of_perm {r s : Report} (h : r.Perm s) : s.summary = r.summary := by
  rw [summary_eq_sum, summary_eq_sum, (h.map Summary.single).sum_eq]

theorem consistent_summary (r : Report) : r.summary.Consistent := by
  induction r with
  | nil => exact .empty
  | cons e r ih =>
    rw [summary_cons]
    exact (Summary.Consistent.single e).merge ih

/-- The phases in which the texts of a report fail. -/
def phases (r : Report) : List (Option Phase) := r.map fun e => e.analysis.phase

/-- What the fields of a summary count and add up. -/
theorem fields_summary (r : Report) :
    r.summary.total = r.length ∧ r.summary.valid = r.phases.count none ∧
      r.summary.lexical = r.phases.count (some .lexical) ∧
        r.summary.syntactic = r.phases.count (some .syntactic) ∧
          r.summary.totalTime.nanos = (r.map fun e => e.elapsed.nanos).sum := by
  induction r with
  | nil => exact ⟨rfl, rfl, rfl, rfl, rfl⟩
  | cons e r ih =>
    obtain ⟨htotal, hvalid, hlexical, hsyntactic, htime⟩ := ih
    rw [summary_cons]
    simp only [phases] at hvalid hlexical hsyntactic
    simp [phases, Summary.merge, Summary.single, Summary.add, Summary.empty, Duration.zero,
      List.count_cons, htotal, hvalid, hlexical, hsyntactic, htime, Nat.add_comm]

/-- **What a summary says of a report.**  It counts the entries, as many as there are verdicts of
the three kinds together, and the entries of each kind.  The total time is the sum of all, on the
way to which no sum is larger; it lies between the longest time and so many times the longest as
there are entries.  Entries can be reordered, and the summaries of two reports merge into that of
both.  If there are entries, but no more than a mean is taken of, the mean is the total in
nanoseconds by their number, rounded down, as it is found for seconds and nanoseconds apart; and it
is no longer than the longest time. -/
theorem summary_adds_up (r : Report) :
    (r.summary.total = r.length ∧
      r.summary.total = r.summary.valid + r.summary.lexical + r.summary.syntactic ∧
      r.summary.valid = r.phases.count none ∧
      r.summary.lexical = r.phases.count (some .lexical) ∧
      r.summary.syntactic = r.phases.count (some .syntactic)) ∧
    (r.summary.totalTime.nanos = (r.map fun e => e.elapsed.nanos).sum ∧
      (∀ p : Report, p <+: r → p.summary.totalTime.nanos ≤ r.summary.totalTime.nanos) ∧
      r.summary.maxTime.nanos ≤ r.summary.totalTime.nanos ∧
      r.summary.totalTime.nanos ≤ r.summary.total * r.summary.maxTime.nanos) ∧
    (∀ s : Report, r.Perm s → s.summary = r.summary) ∧
    (∀ s : Report, (r ++ s).summary = r.summary.merge s.summary) ∧
    (1 ≤ r.summary.total → r.summary.total ≤ 4294967295 →
      r.summary.meanTime.nanos = r.summary.totalTime.nanos / r.summary.total ∧
      r.summary.meanTime.seconds = r.summary.totalTime.seconds / r.summary.total ∧
      r.summary.meanTime.subNanos =
        r.summary.totalTime.subNanos / r.summary.total +
          (r.summary.totalTime.seconds % r.summary.total * Duration.perSecond +
            r.summary.totalTime.subNanos % r.summary.total) / r.summary.total ∧
      r.summary.meanTime.nanos ≤ r.summary.maxTime.nanos) := by
  obtain ⟨htotal, hvalid, hlexical, hsyntactic, htime⟩ := fields_summary r
  have hconsistent := consistent_summary r
  refine ⟨⟨htotal, hconsistent.total_eq, hvalid, hlexical, hsyntactic⟩,
    ⟨htime, ?_, hconsistent.max_le, hconsistent.le_max⟩, fun s => summary_eq_of_perm,
    summary_append r, ?_⟩
  · rintro p ⟨s, rfl⟩
    rw [summary_append]
    exact Nat.le_add_right _ _
  · intro hpos hfew
    have hmean : r.summary.meanTime = r.summary.totalTime.share r.summary.total :=
      if_pos ⟨hpos, hfew⟩
    obtain ⟨hseconds, hnanos⟩ := r.summary.totalTime.parts_share hpos
    exact ⟨by rw [hmean, Duration.nanos_share], by rw [hmean, hseconds], by rw [hmean, hnanos],
      hconsistent.mean_le_max⟩

/-- Three verdicts, with times that fill up a second and a mean that is no whole number of
nanoseconds. -/
theorem summary_adds_up_of_three_verdicts :
    let r : Report :=
      [⟨⟨"el perro come un hueso", [], .valid⟩, .ofParts 1 999999999⟩,
       ⟨⟨"el dragón", [], .invalid .lexical []⟩, .ofParts 2 1⟩,
       ⟨⟨"el", [], .invalid .syntactic []⟩, .ofParts 1 500000000⟩]
    1 ≤ r.summary.total ∧ r.summary.total ≤ 4294967295 ∧
      r.summary.totalTime = .ofParts 5 500000000 ∧ r.summary.meanTime = .ofParts 1 833333333 ∧
        r.summary.meanTime.nanos ≤ r.summary.maxTime.nanos := by
  intro r
  have hpos : 1 ≤ r.summary.total := by decide
  have hfew : r.summary.total ≤ 4294967295 := by decide
  obtain ⟨-, -, -, -, hmean⟩ := summary_adds_up r
  exact ⟨hpos, hfew, rfl, by decide, (hmean hpos hfew).2.2.2⟩

end Report
end Oracion
