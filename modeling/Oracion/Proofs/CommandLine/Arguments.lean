import Oracion.CommandLine.Options

/-!
# What arguments ask for

Arguments are read one after another, but what they ask for does not depend on their order, nor on
how often one of them is given: an option is in effect if one of its spellings is among the
arguments, and the files are the arguments that do not start with a hyphen, in order.  The first
argument that starts with one and spells no option is a fault, whatever stands before and after it.

## Main definitions

* `Flag`, `Flag.spellings` — what options can ask for, and how.
* `IsUnknownOption`, `Given`, `fileNames` — what there is to say of arguments without reading them.
* `Options.Reflects` — options that ask for what is given.

## Main results

* `Options.takeAll_cases` — arguments up to an unknown option, or all of them.
* `Options.read_cases` — **the three ways in which reading arguments can end.**
-/

namespace Oracion

/-! ### Options -/

/-- Something that can be asked for with an option. -/
inductive Flag where
  /-- An explanation of the options. -/
  | help
  /-- The version. -/
  | version
  /-- No dialogue. -/
  | batch
  /-- A trace. -/
  | trace
  /-- JSON. -/
  | json
  /-- A summary. -/
  | summary
  /-- An explanation of each sentence. -/
  | tree
  deriving DecidableEq, Repr, Inhabited

namespace Flag

/-- The options that ask for it. -/
def spellings : Flag → List String
  | help => ["-h", "--help"]
  | version => ["-V", "--version"]
  | batch => ["-b", "--batch"]
  | trace => ["--trace"]
  | json => ["--json"]
  | summary => ["--summary"]
  | tree => ["--tree"]

/-- All that can be asked for. -/
def all : List Flag := [help, version, batch, trace, json, summary, tree]

theorem mem_all (f : Flag) : f ∈ all := by cases f <;> decide

/-- Options start with a hyphen. -/
theorem startsWith_of_mem_spellings {f : Flag} {a : String} (h : a ∈ f.spellings) :
    Text.startsWith a "-" = true := by
  have hall : ∀ b ∈ f.spellings, Text.startsWith b "-" = true := by cases f <;> decide
  exact hall a h

/-- No option asks for two things. -/
theorem eq_of_mem_spellings {f g : Flag} {a : String} (hf : a ∈ f.spellings)
    (hg : a ∈ g.spellings) : f = g := by
  have hall : ∀ f ∈ all, ∀ g ∈ all, ∀ a ∈ f.spellings, a ∈ g.spellings → f = g := by decide
  exact hall f f.mem_all g g.mem_all a hf hg

end Flag

/-! ### Arguments -/

/-- The first member of a list that has a property. -/
def IsFirst {α : Type} (p : α → Prop) (as : List α) (a : α) : Prop :=
  ∃ before after, as = before ++ a :: after ∧ (∀ b ∈ before, ¬p b) ∧ p a

section IsFirst

variable {α : Type} {p : α → Prop} {a b : α} {as : List α}

theorem IsFirst.here (h : p a) (as : List α) : IsFirst p (a :: as) a := ⟨[], as, rfl, nofun, h⟩

theorem IsFirst.later (h : IsFirst p as a) (hb : ¬p b) : IsFirst p (b :: as) a := by
  obtain ⟨before, after, rfl, hbefore, ha⟩ := h
  exact ⟨b :: before, after, rfl, List.forall_mem_cons.mpr ⟨hb, hbefore⟩, ha⟩

theorem IsFirst.unique (ha : IsFirst p as a) (hb : IsFirst p as b) : a = b := by
  obtain ⟨before, after, heq, hbefore, hpa⟩ := ha
  obtain ⟨before', after', heq', hbefore', hpb⟩ := hb
  -- if one came earlier, it would be among those that do not have the property
  rcases List.append_eq_append_iff.mp (heq.symm.trans heq') with ⟨gap, hgap, hrest⟩ |
    ⟨gap, hgap, hrest⟩
  · cases gap with
    | nil => exact (List.cons.inj hrest).1
    | cons c gap =>
      obtain ⟨rfl, -⟩ := List.cons.inj hrest
      exact absurd hpa (hbefore' a (by simp [hgap]))
  · cases gap with
    | nil => exact (List.cons.inj hrest).1.symm
    | cons c gap =>
      obtain ⟨rfl, -⟩ := List.cons.inj hrest
      exact absurd hpb (hbefore b (by simp [hgap]))

theorem IsFirst.exists_mem (h : IsFirst p as a) : ∃ b ∈ as, p b := by
  obtain ⟨before, after, rfl, -, ha⟩ := h
  exact ⟨a, by simp, ha⟩

end IsFirst

/-- An argument that starts with a hyphen and is none of the options. -/
def IsUnknownOption (a : String) : Prop :=
  Text.startsWith a "-" = true ∧ a ∉ Flag.all.flatMap Flag.spellings

instance (a : String) : Decidable (IsUnknownOption a) :=
  inferInstanceAs (Decidable (_ ∧ _))

/-- Something is asked for by one of the arguments. -/
def Given (arguments : List String) (f : Flag) : Prop := ∃ a ∈ arguments, a ∈ f.spellings

instance (arguments : List String) (f : Flag) : Decidable (Given arguments f) :=
  inferInstanceAs (Decidable (∃ a ∈ arguments, a ∈ f.spellings))

/-- The arguments that name files. -/
def fileNames (arguments : List String) : List String :=
  arguments.filter fun a => !Text.startsWith a "-"

theorem given_cons {a : String} {as : List String} {f : Flag} :
    Given (a :: as) f ↔ a ∈ f.spellings ∨ Given as f := by
  simp only [Given, List.mem_cons, exists_eq_or_imp]

theorem given_singleton {a : String} {f : Flag} : Given [a] f ↔ a ∈ f.spellings := by
  simp [Given]

/-- An argument asks for something, is an unknown option, or names a file. -/
theorem argument_cases (a : String) :
    (∃ f : Flag, a ∈ f.spellings) ∨ IsUnknownOption a ∨
      (Text.startsWith a "-" = false ∧ ∀ f : Flag, a ∉ f.spellings) := by
  by_cases hknown : a ∈ Flag.all.flatMap Flag.spellings
  · obtain ⟨f, -, hf⟩ := List.mem_flatMap.mp hknown
    exact .inl ⟨f, hf⟩
  · have hnone : ∀ f : Flag, a ∉ f.spellings := fun f hf =>
      hknown (List.mem_flatMap.mpr ⟨f, f.mem_all, hf⟩)
    cases hstart : Text.startsWith a "-" with
    | true => exact .inr (.inl ⟨hstart, hknown⟩)
    | false => exact .inr (.inr ⟨rfl, hnone⟩)

namespace Options

/-! ### One argument -/

/-- Whether something is asked for. -/
def has (o : Options) : Flag → Bool
  | .help => o.help
  | .version => o.version
  | .batch => o.batch
  | .trace => o.trace
  | .json => o.json
  | .summary => o.summary
  | .tree => o.tree

/-- Options that ask for one thing more. -/
def ask (o : Options) : Flag → Options
  | .help => { o with help := true }
  | .version => { o with version := true }
  | .batch => { o with batch := true }
  | .trace => { o with trace := true }
  | .json => { o with json := true }
  | .summary => { o with summary := true }
  | .tree => { o with tree := true }

theorem has_ask {o : Options} {f g : Flag} :
    (o.ask f).has g = true ↔ o.has g = true ∨ f = g := by
  cases f <;> cases g <;> simp [ask, has]

theorem files_ask (o : Options) (f : Flag) : (o.ask f).files = o.files := by cases f <;> rfl

theorem take?_of_mem_spellings {f : Flag} {a : String} (h : a ∈ f.spellings) (o : Options) :
    o.take? a = some (o.ask f) := by
  cases f <;> simp only [Flag.spellings, List.mem_cons, List.not_mem_nil, or_false] at h <;>
    rcases h with rfl | rfl <;> rfl

theorem take?_of_unknown {a : String} (h : IsUnknownOption a) (o : Options) :
    o.take? a = none := by
  unfold take?
  split
  case h_11 => exact if_pos h.1
  all_goals exact absurd h (by decide)

theorem take?_of_file {a : String} (h : Text.startsWith a "-" = false) (o : Options) :
    o.take? a = some { o with files := o.files ++ [a] } := by
  unfold take?
  split
  case h_11 => exact if_neg (by simp [h])
  all_goals exact absurd h (by decide)

/-! ### All arguments -/

/-- Options that ask for what others ask for and for what arguments ask for. -/
structure Adds (o : Options) (arguments : List String) (o' : Options) : Prop where
  /-- What is asked for. -/
  has : ∀ f, o'.has f = true ↔ o.has f = true ∨ Given arguments f
  /-- The files. -/
  files : o'.files = o.files ++ fileNames arguments

theorem Adds.nil (o : Options) : Adds o [] o := ⟨fun f => by simp [Given], by simp [fileNames]⟩

/-- What one argument adds, and then those after it. -/
theorem Adds.cons {o o₁ o₂ : Options} {a : String} {as : List String} (h₁ : Adds o [a] o₁)
    (h₂ : Adds o₁ as o₂) : Adds o (a :: as) o₂ := by
  constructor
  · intro f
    rw [h₂.has, h₁.has, given_singleton, given_cons, or_assoc]
  · rw [h₂.files, h₁.files, List.append_assoc, fileNames, fileNames, ← List.filter_append]
    rfl

/-- An argument that is no unknown option is taken, and adds what it asks for. -/
theorem exists_take?_of_known {a : String} (h : ¬IsUnknownOption a) (o : Options) :
    ∃ o', o.take? a = some o' ∧ Adds o [a] o' := by
  rcases argument_cases a with ⟨f, hf⟩ | hunknown | ⟨hfile, hnone⟩
  · refine ⟨o.ask f, take?_of_mem_spellings hf o, fun g => ?_, ?_⟩
    · have hsame : a ∈ g.spellings ↔ f = g :=
        ⟨fun hg => Flag.eq_of_mem_spellings hf hg, fun h => h ▸ hf⟩
      rw [has_ask, given_singleton, hsame]
    · simp [files_ask, fileNames, Flag.startsWith_of_mem_spellings hf]
  · exact absurd hunknown h
  · refine ⟨_, take?_of_file hfile o, fun g => ?_, ?_⟩
    · have hsame : has { o with files := o.files ++ [a] } g = o.has g := by cases g <;> rfl
      simp [hsame, given_singleton, hnone g]
    · simp [fileNames, hfile]

/-- Arguments are taken up to an unknown option, which is a fault, or all of them, and then they
add what they ask for. -/
theorem takeAll_cases (o : Options) (arguments : List String) :
    (∃ a, IsFirst IsUnknownOption arguments a ∧
        o.takeAll arguments = .error (.unknownOption a)) ∨
      ((∀ a ∈ arguments, ¬IsUnknownOption a) ∧
        ∃ o', o.takeAll arguments = .ok o' ∧ Adds o arguments o') := by
  induction arguments generalizing o with
  | nil => exact .inr ⟨nofun, o, rfl, .nil o⟩
  | cons a as ih =>
    by_cases ha : IsUnknownOption a
    · exact .inl ⟨a, .here ha as, by rw [takeAll, take?_of_unknown ha]⟩
    · obtain ⟨o₁, htake, hone⟩ := exists_take?_of_known ha o
      have hstep : o.takeAll (a :: as) = o₁.takeAll as := by rw [takeAll, htake]
      rw [hstep]
      rcases ih o₁ with ⟨b, hfirst, herror⟩ | ⟨hknown, o₂, hok, hrest⟩
      · exact .inl ⟨b, hfirst.later ha, herror⟩
      · exact .inr ⟨List.forall_mem_cons.mpr ⟨ha, hknown⟩, o₂, hok, hone.cons hrest⟩

/-- Options that ask for what arguments ask for, and for nothing else. -/
structure Reflects (o : Options) (arguments : List String) : Prop where
  /-- What is asked for is what is given. -/
  has : ∀ f, o.has f = true ↔ Given arguments f
  /-- The files are those that are named, in order. -/
  files : o.files = fileNames arguments

/-- Nothing is asked for before the first argument. -/
theorem Adds.reflects {o : Options} {arguments : List String} (h : Adds {} arguments o) :
    o.Reflects arguments := by
  have hnothing : ∀ f, ({} : Options).has f = false := by intro f; cases f <;> rfl
  exact ⟨fun f => by simp [h.has, hnothing], h.files⟩

/-- **The three ways in which reading arguments can end.**  The first unknown option is a fault,
whatever else there is; then it is one to ask for both JSON and explanations; else the options ask
for what is given and for nothing else. -/
theorem read_cases (arguments : List String) :
    (∃ a, IsFirst IsUnknownOption arguments a ∧ read arguments = .error (.unknownOption a)) ∨
      (∀ a ∈ arguments, ¬IsUnknownOption a) ∧
        ((Given arguments .json ∧ Given arguments .tree ∧ read arguments = .error .jsonWithTree) ∨
          (¬(Given arguments .json ∧ Given arguments .tree) ∧
            ∃ o, read arguments = .ok o ∧ o.Reflects arguments)) := by
  rcases takeAll_cases {} arguments with ⟨a, hfirst, herror⟩ | ⟨hknown, o, hok, hadds⟩
  · exact .inl ⟨a, hfirst, by rw [read, herror]⟩
  · refine .inr ⟨hknown, ?_⟩
    have hreflects := hadds.reflects
    have hread : read arguments = if o.json && o.tree then .error .jsonWithTree else .ok o := by
      rw [read, hok]
    have hboth : (o.json && o.tree) = true ↔ Given arguments .json ∧ Given arguments .tree := by
      rw [Bool.and_eq_true, ← hreflects.has .json, ← hreflects.has .tree]
      rfl
    by_cases hconflict : (o.json && o.tree) = true
    · have hgiven := hboth.mp hconflict
      exact .inl ⟨hgiven.1, hgiven.2, hread.trans (if_pos hconflict)⟩
    · exact .inr ⟨mt hboth.mpr hconflict, o, hread.trans (if_neg hconflict), hreflects⟩

theorem reflects_of_read {o : Options} {arguments : List String} (h : read arguments = .ok o) :
    o.Reflects arguments := by
  rcases read_cases arguments with ⟨a, -, herror⟩ | ⟨-, ⟨-, -, herror⟩ | ⟨-, o', hok, hreflects⟩⟩
  · cases herror.symm.trans h
  · cases herror.symm.trans h
  · obtain rfl := Except.ok.inj (hok.symm.trans h)
    exact hreflects

end Options
end Oracion
