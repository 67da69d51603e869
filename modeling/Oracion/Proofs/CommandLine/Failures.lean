import Oracion.Proofs.CommandLine.Arguments
import Oracion.Proofs.CommandLine.Batch

/-!
# How a run in batch mode can fail

A run in batch mode fails for one of four reasons: an unknown option, a request for both JSON and
explanations, a file that is no text, or without files a standard input that is none.  They are
looked for in this order, and of several unknown options or files the first one counts.  A run that
is asked about itself reads no file.  Since all files are read before the report is printed, a run
that fails has printed nothing, however many files it could read.

## Main definitions

* `HoldsText` — something read that is a text.
* `Inputs.Unreadable`, `Inputs.CorpusFault` — files that make up no corpus, and the fault of it.
* `CommandLine.Faulty` — arguments and inputs on which a run fails.
* `CommandLine.BatchFault` — the fault that it fails with.

## Main results

* `Inputs.fileTexts_cases` — files up to the first that is no text, or all of them.
* `CommandLine.begin_batch_cases` — the two ways in which the first stage can end.
* `CommandLine.run_batch_outcome` — **when it fails, of what, and what it leaves behind.**
-/

namespace Oracion

/-! ### Texts -/

/-- What was read are the bytes of a text. -/
def HoldsText (read : Except ReadFault ByteArray) : Prop :=
  ∃ text : String, read = .ok text.toUTF8

theorem exists_decodeText_eq_error {bytes : ByteArray}
    (h : ∀ text : String, bytes ≠ text.toUTF8) : ∃ fault, decodeText bytes = .error fault := by
  unfold decodeText
  split
  · next text htext =>
    -- bytes that are decoded are those of the text that they are decoded to
    obtain ⟨hvalid, rfl⟩ : ∃ hvalid, String.fromUTF8 bytes hvalid = text := by
      simpa [String.fromUTF8?] using htext
    exact absurd rfl (h (String.fromUTF8 bytes hvalid))
  · exact ⟨.notText, rfl⟩

/-- What was read can be decoded if it is a text, and only then. -/
theorem bind_decodeText_cases (read : Except ReadFault ByteArray) :
    (HoldsText read ∧ ∃ text, read.bind decodeText = .ok text) ∨
      (¬HoldsText read ∧ ∃ fault, read.bind decodeText = .error fault) := by
  cases read with
  | error fault => exact .inr ⟨by simp [HoldsText], fault, rfl⟩
  | ok bytes =>
    by_cases h : ∃ text : String, bytes = text.toUTF8
    · obtain ⟨text, rfl⟩ := h
      exact .inl ⟨⟨text, rfl⟩, text, decodeText_toUTF8 text⟩
    · refine .inr ⟨?_, exists_decodeText_eq_error (not_exists.mp h)⟩
      rintro ⟨text, htext⟩
      exact h ⟨text, Except.ok.inj htext⟩

theorem not_holdsText_of_error {read : Except ReadFault ByteArray} {fault : ReadFault}
    (h : read.bind decodeText = .error fault) : ¬HoldsText read := by
  rcases bind_decodeText_cases read with ⟨-, text, htext⟩ | ⟨hnone, -⟩
  · cases htext.symm.trans h
  · exact hnone

/-! ### Corpora -/

namespace Inputs

theorem fileText_eq (inputs : Inputs) (name : String) :
    inputs.fileText name = (inputs.file name).bind decodeText := by
  unfold fileText
  cases inputs.file name <;> rfl

theorem stdinText_eq (inputs : Inputs) : inputs.stdinText = inputs.stdin.bind decodeText := by
  unfold stdinText
  cases inputs.stdin <;> rfl

/-- A file that is no text, be it that it cannot be read at all. -/
def NoText (inputs : Inputs) (name : String) : Prop := ¬HoldsText (inputs.file name)

/-- Files are read up to the first that is no text, which is a fault, or all of them. -/
theorem fileTexts_cases (inputs : Inputs) (names : List String) :
    (∃ name fault, IsFirst inputs.NoText names name ∧
        inputs.fileText name = .error fault ∧ inputs.fileTexts names = .error fault) ∨
      ((∀ name ∈ names, ¬inputs.NoText name) ∧
        ∃ corpus, inputs.fileTexts names = .ok corpus) := by
  induction names with
  | nil => exact .inr ⟨nofun, "", rfl⟩
  | cons name names ih =>
    rcases bind_decodeText_cases (inputs.file name) with ⟨htext, text, hok⟩ | ⟨hnone, fault, herror⟩
    · have hname : ¬inputs.NoText name := not_not.mpr htext
      rw [← fileText_eq] at hok
      rcases ih with ⟨later, fault, hfirst, hlater, hrest⟩ | ⟨hall, corpus, hrest⟩
      · have hfault : inputs.fileTexts (name :: names) = .error fault := by
          rw [fileTexts, hok, hrest]
          rfl
        exact .inl ⟨later, fault, hfirst.later hname, hlater, hfault⟩
      · have hcorpus : inputs.fileTexts (name :: names) = .ok (text ++ "\n" ++ corpus) := by
          rw [fileTexts, hok, hrest]
          rfl
        exact .inr ⟨List.forall_mem_cons.mpr ⟨hname, hall⟩, _, hcorpus⟩
    · have hname : inputs.NoText name := hnone
      rw [← fileText_eq] at herror
      have hfault : inputs.fileTexts (name :: names) = .error fault := by rw [fileTexts, herror]
      exact .inl ⟨name, fault, .here hname names, herror, hfault⟩

/-- Files of which one is no text, or no files and a standard input that is none. -/
def Unreadable (inputs : Inputs) (names : List String) : Prop :=
  (∃ name ∈ names, inputs.NoText name) ∨ (names = [] ∧ ¬HoldsText inputs.stdin)

/-- The fault of such files. -/
inductive CorpusFault (inputs : Inputs) : List String → ReadFault → Prop
  /-- The first file that is no text. -/
  | file {names : List String} {name : String} {fault : ReadFault} :
      IsFirst inputs.NoText names name →
      inputs.fileText name = .error fault → CorpusFault inputs names fault
  /-- The standard input, where there are no files. -/
  | stdin {fault : ReadFault} : inputs.stdinText = .error fault → CorpusFault inputs [] fault

theorem CorpusFault.unreadable {inputs : Inputs} {names : List String} {fault : ReadFault}
    (h : inputs.CorpusFault names fault) : inputs.Unreadable names := by
  cases h with
  | file hfirst _ => exact .inl hfirst.exists_mem
  | stdin herror =>
    rw [stdinText_eq] at herror
    exact .inr ⟨rfl, not_holdsText_of_error herror⟩

theorem CorpusFault.unique {inputs : Inputs} {names : List String} {fault fault' : ReadFault}
    (h : inputs.CorpusFault names fault) (h' : inputs.CorpusFault names fault') :
    fault = fault' := by
  cases h with
  | file hfirst herror =>
    cases h' with
    | file hfirst' herror' =>
      obtain rfl := hfirst.unique hfirst'
      exact Except.error.inj (herror.symm.trans herror')
    | stdin _ =>
      obtain ⟨name, hmem, -⟩ := hfirst.exists_mem
      exact absurd hmem List.not_mem_nil
  | stdin herror =>
    cases h' with
    | file hfirst' _ =>
      obtain ⟨name, hmem, -⟩ := hfirst'.exists_mem
      exact absurd hmem List.not_mem_nil
    | stdin herror' => exact Except.error.inj (herror.symm.trans herror')

end Inputs

/-- In batch mode there is a fault, or else a corpus. -/
theorem Options.corpus_cases {o : Options} (hbatch : o.batch = true) (inputs : Inputs) :
    (∃ fault, inputs.CorpusFault o.files fault ∧ o.corpus inputs = .error fault) ∨
      (¬inputs.Unreadable o.files ∧ ∃ corpus, o.corpus inputs = .ok corpus) := by
  cases hfiles : o.files with
  | nil =>
    have hcorpus : o.corpus inputs = inputs.stdinText := by
      rw [corpus, takesStdin, hbatch, hfiles]
      rfl
    rw [hcorpus]
    rcases bind_decodeText_cases inputs.stdin with ⟨htext, hok⟩ | ⟨-, fault, herror⟩
    · rw [← inputs.stdinText_eq] at hok
      exact .inr ⟨by simp [Inputs.Unreadable, htext], hok⟩
    · rw [← inputs.stdinText_eq] at herror
      exact .inl ⟨fault, .stdin herror, herror⟩
  | cons name names =>
    have hcorpus : o.corpus inputs = inputs.fileTexts (name :: names) := by
      rw [corpus, takesStdin, hfiles, List.isEmpty_cons, Bool.and_false]
      rfl
    rw [hcorpus]
    rcases inputs.fileTexts_cases (name :: names) with
      ⟨first, fault, hfirst, herror, hfault⟩ | ⟨hall, hok⟩
    · exact .inl ⟨fault, .file hfirst herror, hfault⟩
    · refine .inr ⟨?_, hok⟩
      rintro (⟨other, hmem, hnone⟩ | ⟨hnil, -⟩)
      · exact hall other hmem hnone
      · exact List.cons_ne_nil name names hnil

/-! ### Runs -/

namespace CommandLine

variable {arguments : List String} {inputs : Inputs} {o : Options}

/-- An unknown option, a request for JSON and explanations, or, where neither help nor the version
is asked for, nothing that can be read. -/
def Faulty (arguments : List String) (inputs : Inputs) : Prop :=
  (∃ a ∈ arguments, IsUnknownOption a) ∨
    (Given arguments .json ∧ Given arguments .tree) ∨
    (¬Given arguments .help ∧ ¬Given arguments .version ∧ inputs.Unreadable (fileNames arguments))

/-- What is printed beside the output before files are read. -/
def noticeOf (arguments : List String) : String :=
  if Given arguments .trace then traceNotice else ""

/-- What a run in batch mode fails with, after what is printed beside its output: of several
reasons, the one that comes first here. -/
inductive BatchFault (arguments : List String) (inputs : Inputs) : String → Fault → Prop
  /-- The first unknown option. -/
  | unknown {a : String} :
      IsFirst IsUnknownOption arguments a → BatchFault arguments inputs "" (.unknownOption a)
  /-- A request for JSON and explanations. -/
  | conflict :
      (∀ a ∈ arguments, ¬IsUnknownOption a) → Given arguments .json → Given arguments .tree →
      BatchFault arguments inputs "" .jsonWithTree
  /-- The first file that is no text, or without files the standard input. -/
  | corpus {fault : ReadFault} :
      (∀ a ∈ arguments, ¬IsUnknownOption a) → ¬(Given arguments .json ∧ Given arguments .tree) →
      ¬Given arguments .help → ¬Given arguments .version →
      inputs.CorpusFault (fileNames arguments) fault →
      BatchFault arguments inputs (noticeOf arguments) (.io fault.message)

theorem BatchFault.faulty {notice : String} {fault : Fault}
    (h : BatchFault arguments inputs notice fault) : Faulty arguments inputs := by
  cases h with
  | unknown hfirst => exact .inl hfirst.exists_mem
  | conflict _ hjson htree => exact .inr (.inl ⟨hjson, htree⟩)
  | corpus _ _ hhelp hversion hcorpus => exact .inr (.inr ⟨hhelp, hversion, hcorpus.unreadable⟩)

/-- There is one fault at most, since each reason rules out those before it. -/
theorem BatchFault.unique {notice notice' : String} {fault fault' : Fault}
    (h : BatchFault arguments inputs notice fault)
    (h' : BatchFault arguments inputs notice' fault') : notice = notice' ∧ fault = fault' := by
  cases h with
  | unknown hfirst =>
    obtain ⟨b, hmem, hb⟩ := hfirst.exists_mem
    cases h' with
    | unknown hfirst' => exact ⟨rfl, congrArg Fault.unknownOption (hfirst.unique hfirst')⟩
    | conflict hknown _ _ => exact absurd hb (hknown b hmem)
    | corpus hknown _ _ _ _ => exact absurd hb (hknown b hmem)
  | conflict hknown hjson htree =>
    cases h' with
    | unknown hfirst' =>
      obtain ⟨b, hmem, hb⟩ := hfirst'.exists_mem
      exact absurd hb (hknown b hmem)
    | conflict _ _ _ => exact ⟨rfl, rfl⟩
    | corpus _ hsingle _ _ _ => exact absurd ⟨hjson, htree⟩ hsingle
  | corpus hknown hsingle _ _ hcorpus =>
    cases h' with
    | unknown hfirst' =>
      obtain ⟨b, hmem, hb⟩ := hfirst'.exists_mem
      exact absurd hb (hknown b hmem)
    | conflict _ hjson htree => exact absurd ⟨hjson, htree⟩ hsingle
    | corpus _ _ _ _ hcorpus' => exact ⟨rfl, by rw [hcorpus.unique hcorpus']⟩

theorem not_faulty (hknown : ∀ a ∈ arguments, ¬IsUnknownOption a)
    (hsingle : ¬(Given arguments .json ∧ Given arguments .tree))
    (hcorpus : Given arguments .help ∨ Given arguments .version ∨
      ¬inputs.Unreadable (fileNames arguments)) : ¬Faulty arguments inputs := by
  rintro (⟨a, hmem, ha⟩ | hboth | ⟨hhelp, hversion, hunreadable⟩)
  · exact hknown a hmem ha
  · exact hsingle hboth
  · rcases hcorpus with h | h | h
    · exact hhelp h
    · exact hversion h
    · exact h hunreadable

/-! #### What follows the first stage -/

theorem begin_of_read_error {fault : Fault} (h : Options.read arguments = .error fault)
    (inputs : Inputs) (elapsed : Nat → Duration) :
    begin arguments inputs elapsed = ⟨"", "", .failed fault⟩ := by
  rw [begin, h]

theorem begin_of_read_ok (h : Options.read arguments = .ok o) (inputs : Inputs)
    (elapsed : Nat → Duration) : begin arguments inputs elapsed = beginWith o inputs elapsed := by
  rw [begin, h]

theorem beginWith_of_corpus_error {fault : ReadFault} (hhelp : ¬o.help = true)
    (hversion : ¬o.version = true) (hcorpus : o.corpus inputs = .error fault)
    (elapsed : Nat → Duration) :
    beginWith o inputs elapsed =
      ⟨"", if o.trace then traceNotice else "", .failed (.io fault.message)⟩ := by
  simp [beginWith, hhelp, hversion, hcorpus]

theorem next_of_asked (h : o.help = true ∨ o.version = true) (inputs : Inputs)
    (elapsed : Nat → Duration) : (beginWith o inputs elapsed).next = .done := by
  unfold beginWith
  by_cases hhelp : o.help = true
  · rw [if_pos hhelp]
  · rw [if_neg hhelp, if_pos (h.resolve_left hhelp)]

theorem next_of_corpus {corpus : String} (hbatch : o.batch = true)
    (hhelp : ¬o.help = true) (hversion : ¬o.version = true)
    (hcorpus : o.corpus inputs = .ok corpus) (elapsed : Nat → Duration) :
    (beginWith o inputs elapsed).next = .done := by
  simp [beginWith, hbatch, hhelp, hversion, hcorpus]

theorem run_of_failed {notice : String} {fault : Fault} {elapsed : Nat → Duration}
    (h : begin arguments inputs elapsed = ⟨"", notice, .failed fault⟩) :
    run arguments inputs elapsed = failure "" notice fault := by
  simp only [run, h]

theorem run_of_done {elapsed : Nat → Duration}
    (h : (begin arguments inputs elapsed).next = .done) :
    run arguments inputs elapsed =
      ⟨0, (begin arguments inputs elapsed).stdout, (begin arguments inputs elapsed).stderr⟩ := by
  simp only [run, h]

/-! #### How a run ends -/

/-- In batch mode the first stage fails with a fault, or nothing follows it and it was that of
the options that are given. -/
theorem begin_batch_cases (hbatch : Given arguments .batch) (inputs : Inputs)
    (elapsed : Nat → Duration) :
    (∃ notice fault, BatchFault arguments inputs notice fault ∧
        begin arguments inputs elapsed = ⟨"", notice, .failed fault⟩) ∨
      (¬Faulty arguments inputs ∧ (begin arguments inputs elapsed).next = .done ∧
        ∃ o, Options.read arguments = .ok o ∧ o.Reflects arguments ∧
          begin arguments inputs elapsed = beginWith o inputs elapsed) := by
  rcases Options.read_cases arguments with
    ⟨a, hfirst, herror⟩ | ⟨hknown, ⟨hjson, htree, herror⟩ | ⟨hsingle, o, hread, hreflects⟩⟩
  · exact .inl ⟨_, _, .unknown hfirst, begin_of_read_error herror inputs elapsed⟩
  · exact .inl ⟨_, _, .conflict hknown hjson htree, begin_of_read_error herror inputs elapsed⟩
  have hbegin := begin_of_read_ok hread inputs elapsed
  have hhelp : o.help = true ↔ Given arguments .help := hreflects.has .help
  have hversion : o.version = true ↔ Given arguments .version := hreflects.has .version
  have hmode : o.batch = true := (hreflects.has .batch).mpr hbatch
  by_cases hasked : o.help = true ∨ o.version = true
  · -- nothing is read
    have hfine : ¬Faulty arguments inputs := by
      apply not_faulty hknown hsingle
      rcases hasked with h | h
      · exact .inl (hhelp.mp h)
      · exact .inr (.inl (hversion.mp h))
    exact .inr ⟨hfine, hbegin ▸ next_of_asked hasked inputs elapsed, o, hread, hreflects, hbegin⟩
  obtain ⟨hnohelp, hnoversion⟩ := not_or.mp hasked
  rcases o.corpus_cases hmode inputs with ⟨fault, hfault, herror⟩ | ⟨hreadable, corpus, hok⟩
  · have hnotice : (if o.trace then traceNotice else "") = noticeOf arguments :=
      if_congr (hreflects.has .trace) rfl rfl
    rw [hreflects.files] at hfault
    refine .inl ⟨_, _, .corpus hknown hsingle (mt hhelp.mpr hnohelp)
      (mt hversion.mpr hnoversion) hfault, ?_⟩
    rw [hbegin, beginWith_of_corpus_error hnohelp hnoversion herror, hnotice]
  · rw [hreflects.files] at hreadable
    have hfine : ¬Faulty arguments inputs := not_faulty hknown hsingle (.inr (.inr hreadable))
    have hnext := next_of_corpus hmode hnohelp hnoversion hok elapsed
    exact .inr ⟨hfine, hbegin ▸ hnext, o, hread, hreflects, hbegin⟩

/-- **When a run in batch mode fails, of what, and what it leaves behind.**  It fails if there is
an unknown option, or JSON and explanations are both asked for, or neither help nor the version is
asked for and one of the named files, or without files the standard input, is no text; and in no
other case.  The fault is the first of these, and of unknown options and files the first among the
arguments.  A run that fails has printed nothing.  One that does not is that of the options that
are given, wherever and however often, and of the files that are named, in order. -/
theorem run_batch_outcome (arguments : List String) (inputs : Inputs) (elapsed : Nat → Duration)
    (hbatch : Given arguments .batch) :
    let exit := run arguments inputs elapsed
    (exit.status ≠ 0 ↔ Faulty arguments inputs) ∧
      (exit.status ≠ 0 → exit.stdout = "" ∧
        ∃ notice fault, BatchFault arguments inputs notice fault) ∧
      (∀ notice fault, BatchFault arguments inputs notice fault →
        exit = failure "" notice fault) ∧
      (exit.status = 0 →
        ∃ o, Options.read arguments = .ok o ∧ (∀ f, o.has f = true ↔ Given arguments f) ∧
          o.files = fileNames arguments ∧
          exit.stdout = (beginWith o inputs elapsed).stdout ∧
          exit.stderr = (beginWith o inputs elapsed).stderr) := by
  intro exit
  rcases begin_batch_cases hbatch inputs elapsed with
    ⟨notice, fault, hfault, hbegin⟩ | ⟨hfine, hnext, o, hread, hreflects, hbegin⟩
  · have hexit : exit = failure "" notice fault := run_of_failed hbegin
    have hstatus : exit.status ≠ 0 := by simp [hexit, failure]
    refine ⟨iff_of_true hstatus hfault.faulty, fun _ => ⟨?_, notice, fault, hfault⟩, ?_,
      fun hzero => absurd hzero hstatus⟩
    · rw [hexit, failure]
    · intro notice' fault' hfault'
      obtain ⟨rfl, rfl⟩ := hfault.unique hfault'
      exact hexit
  · have hexit : exit = _ := run_of_done hnext
    have hstatus : exit.status = 0 := by rw [hexit]
    refine ⟨iff_of_false (not_not.mpr hstatus) hfine, fun hne => absurd hstatus hne,
      fun _ _ hfault => absurd hfault.faulty hfine, fun _ => ?_⟩
    rw [hexit, hbegin]
    exact ⟨o, hread, hreflects.has, hreflects.files, rfl, rfl⟩

/-- A file that does not exist, first behind a text and then with three other reasons to fail; and
the standard input. -/
theorem run_batch_outcome_of_missing_file :
    let text := "el perro come un hueso"
    let inputs := Inputs.inFolder [("a", text.toUTF8)] text.toUTF8
    let missing := ["a", "--json", "-b", "b", "--json"]
    let unknown := ["b", "--json", "-x", "--tree", "-y", "-b"]
    let piped := ["--batch", "--summary", "-b"]
    (Given missing .batch ∧ (run missing inputs fun _ => .zero).stdout = "" ∧
        run missing inputs (fun _ => .zero) =
          failure "" "" (.io (ReadFault.message .notFound))) ∧
      (Given unknown .batch ∧
        run unknown inputs (fun _ => .zero) = failure "" "" (.unknownOption "-x")) ∧
      Given piped .batch ∧ (run piped inputs fun _ => .zero).status = 0 ∧
      ∃ o, Options.read piped = .ok o ∧ (o.has .summary = true ∧ ¬o.has .json = true) ∧
        o.files = [] := by
  intro text inputs missing unknown piped
  have hmissing : Given missing .batch := by decide
  have hunknown : Given unknown .batch := by decide
  have hpiped : Given piped .batch := by decide
  have ha : ¬inputs.NoText "a" := by
    refine not_not.mpr ⟨text, ?_⟩
    show (Disk.holding [("a", text.toUTF8)] text.toUTF8).read "a" = _
    exact Disk.read_name (by decide) (by decide) (by decide) (by decide) (by decide) rfl
  have hb : inputs.file "b" = .error .notFound := rfl
  have hfirst : IsFirst inputs.NoText (fileNames missing) "b" :=
    ⟨["a"], [], by decide, by simpa using ha, by simp [Inputs.NoText, HoldsText, hb]⟩
  have hfault : BatchFault missing inputs (noticeOf missing) (.io (ReadFault.message .notFound)) :=
    .corpus (by decide) (by decide) (by decide) (by decide) (.file hfirst rfl)
  obtain ⟨hfails, hfailed, hcause, -⟩ := run_batch_outcome missing inputs (fun _ => .zero) hmissing
  have hcauses := (run_batch_outcome unknown inputs (fun _ => .zero) hunknown).2.2.1
  obtain ⟨hends, -, -, hended⟩ := run_batch_outcome piped inputs (fun _ => .zero) hpiped
  have hnofiles : fileNames piped = [] := by decide
  have hreadable : ¬inputs.Unreadable (fileNames piped) := by
    rw [hnofiles]
    rintro (⟨name, hmem, -⟩ | ⟨-, hnone⟩)
    · exact List.not_mem_nil hmem
    · exact hnone ⟨text, rfl⟩
  have hfine := not_faulty (by decide) (by decide) (.inr (.inr hreadable))
  have hzero : (run piped inputs fun _ => .zero).status = 0 := not_not.mp (mt hends.mp hfine)
  obtain ⟨o, hoptions, hhas, hfiles, -⟩ := hended hzero
  refine ⟨⟨hmissing, (hfailed (hfails.mpr hfault.faulty)).1, hcause _ _ hfault⟩,
    ⟨hunknown, hcauses _ _ (.unknown ⟨["b", "--json"], ["--tree", "-y", "-b"], rfl, by decide,
      by decide⟩)⟩, hpiped, hzero, o, hoptions,
    ⟨(hhas .summary).mpr (by decide), mt (hhas .json).mp (by decide)⟩, hfiles.trans hnofiles⟩

end CommandLine
end Oracion
