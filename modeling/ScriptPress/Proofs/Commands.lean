/-
What an invocation tells its user.

An invocation that finds the journal not set up sets it up so that none of its own
notes is shown.  All that is left to see is its exit status and what it prints, and
both are decided by how many arguments there are and how the run between the two
files ends.
-/
import Mathlib.Data.List.Basic
import ScriptPress.CommandLine
import ScriptPress.Proofs.Jobs
import ScriptPress.Proofs.Reduction

namespace ScriptPress

/-! ## A journal that shows nothing -/

theorem Journal.debug_of_lt {j : Journal} (high : Level.debug < j.level) (channel message : String) :
    j.debug channel message = j := by
  have dropped : (!Level.passes j.level Level.debug) = true := by
    rw [Level.not_passes_of_lt high]
    rfl
  unfold debug log
  cases channel.isEmpty with
  | true => exact if_pos dropped
  | false => exact if_pos dropped

namespace CommandLine

variable {j : Journal}

theorem prepare_eq (unconfigured : j.configured = false) (unheard : j.listener = none) :
    prepare j = ({ j with level := Journal.Level.warning } : Journal).detach.install
      ⟨Journal.Level.warning, ({} : Journal.Settings).layout⟩ := by
  have level_eq : Journal.Level.ofSetting ({} : Journal.Settings).level = Journal.Level.warning := by
    decide +kernel
  have usable : Journal.Layout.isUsable ({} : Journal.Settings).layout = true := by
    decide +kernel
  obtain ⟨level, handlers, listener, queue, configured, shown, received⟩ := j
  subst unconfigured unheard
  simp only [prepare, Journal.configure, level_eq, usable]
  rfl

theorem debug_lt_level_prepare (unconfigured : j.configured = false)
    (unheard : j.listener = none) : Journal.Level.debug < (prepare j).level := by
  rw [prepare_eq unconfigured unheard]
  show Journal.Level.debug < Journal.Level.warning
  decide

/-- Setting up and shutting down shows nothing. -/
theorem shown_prepare (unconfigured : j.configured = false) (unheard : j.listener = none) :
    (prepare j).shutdown.shown = j.shown := by
  rw [prepare_eq unconfigured unheard]
  rfl

theorem foldl_debug (high : Journal.Level.debug < j.level) (notes : List Job.Note) :
    notes.foldl (fun j note => j.debug note.channel note.message) j = j := by
  induction notes with
  | nil => rfl
  | cons note rest ih => rw [List.foldl_cons, Journal.debug_of_lt high, ih]

/-! ## Invocations -/

theorem parse_of_length_ne {arguments : List String} (count : arguments.length ≠ 2) :
    ∃ detail, parse arguments = .error (usage detail) := by
  unfold parse
  split
  · exact absurd rfl count
  · exact ⟨_, rfl⟩
  · exact ⟨_, rfl⟩

/-- What an invocation reports of a run between two files, whose notes are not shown. -/
def answer (j : Journal) (job : Job.Report) : Report :=
  match job.result with
  | .ok _ => { exit := .ok 0, store := job.store, journal := j }
  | .error (.reported failure) =>
    { exit := .ok failure.kind.exitCode, lines := [(.error, complaint failure)]
      store := job.store, journal := j }
  | .error e => { exit := .error e, store := job.store, journal := j }

theorem run_of_two {input output : String} {faults : Faults} {s : Store}
    (unconfigured : j.configured = false) (unheard : j.listener = none) :
    run [input, output] faults s j = answer (prepare j) (Request.run ⟨input, output⟩ s faults) := by
  have high := debug_lt_level_prepare unconfigured unheard
  unfold run answer
  rw [show parse [input, output] = .ok ⟨input, output⟩ from rfl]
  simp only [Journal.debug_of_lt high, foldl_debug high]
  cases (Request.run ⟨input, output⟩ s faults).result with
  | ok tally => rfl
  | error e =>
    cases e with
    | reported failure =>
      simp only [fail, Journal.debug_of_lt high]
    | nullInPath => rfl
    | notByte => rfl
    | noPath => rfl

theorem Request.run_of_path {output : String} (path : output ≠ "--") (input : String) (s : Store)
    (faults : Faults) : Request.run ⟨input, output⟩ s faults = Job.run s input output faults := by
  simp only [Request.run, Request.output?, if_neg path]

theorem Request.kind_ne_usage (r : Request) (s : Store) (faults : Faults) (failure : Failure)
    (failed : (r.run s faults).result = .error (.reported failure)) : failure.kind ≠ .usage := by
  by_cases mark : r.output = "--"
  · simp only [Request.run, Request.output?, if_pos mark] at failed
    exact (Job.runNowhere_cases s r.input).2.2 failure failed
  · rw [Request.run_of_path mark] at failed
    exact Job.kind_ne_usage failed

theorem run_of_other {arguments : List String} {faults : Faults} {s : Store}
    (count : arguments.length ≠ 2) (unconfigured : j.configured = false)
    (unheard : j.listener = none) :
    run arguments faults s j =
      { exit := .ok 2, lines := [(.error, Failure.Kind.usage.summary)], store := s
        journal := prepare j } := by
  have high := debug_lt_level_prepare unconfigured unheard
  obtain ⟨detail, rejected⟩ := parse_of_length_ne count
  simp only [run, rejected, fail, Journal.debug_of_lt high]
  rfl

theorem stderr_of_line {exit : Except Job.Error Nat} {line : String} {s : Store} :
    Report.stderr { exit, lines := [(.error, line)], store := s, journal := j } = line ++ "\n" := by
  simp [Report.stderr, Report.printed, Report.linesOn, String.join]

theorem complaint_of_ne {failure : Failure} (other : failure.kind ≠ .usage) :
    complaint failure = "jsmin: " ++ failure.text := by
  unfold complaint
  split
  next usage => exact absurd usage other
  · rfl

theorem exitCode_of_ne {kind : Failure.Kind} (other : kind ≠ .usage) : kind.exitCode = 1 := by
  cases kind with
  | usage => exact absurd rfl other
  | _ => rfl

section Answer

variable {job : Job.Report}

theorem stdout_answer : (answer j job).stdout = "" := by
  unfold answer
  split <;> rfl

theorem store_answer : (answer j job).store = job.store := by
  unfold answer
  split <;> rfl

theorem journal_answer : (answer j job).journal = j := by
  unfold answer
  split <;> rfl

/-- The exit status tells the three kinds of results apart, as long as the run does not
report a failure of usage. -/
theorem exit_answer
    (files : ∀ failure, job.result = .error (.reported failure) → failure.kind ≠ .usage) :
    ((answer j job).exit = .ok 0 ↔ ∃ tally, job.result = .ok tally) ∧
      ((answer j job).exit = .ok 1 ↔ ∃ failure, job.result = .error (.reported failure)) ∧
      (answer j job).exit ≠ .ok 2 ∧
      ∀ e, (answer j job).exit = .error e →
        job.result = .error e ∧ ∀ failure, e ≠ .reported failure := by
  unfold answer
  cases result : job.result with
  | ok tally => simp
  | error e =>
    cases e with
    | reported failure => simp [exitCode_of_ne (files failure result)]
    | nullInPath => simp
    | notByte => simp
    | noPath => simp

theorem stderr_answer_of_ok {tally : Tally} (done : job.result = .ok tally) :
    (answer j job).stderr = "" := by
  simp only [answer, done]
  rfl

theorem stderr_answer_of_reported {failure : Failure}
    (failed : job.result = .error (.reported failure)) (other : failure.kind ≠ .usage) :
    (answer j job).stderr = "jsmin: " ++ failure.text ++ "\n" := by
  simp only [answer, failed, stderr_of_line, complaint_of_ne other]

end Answer

/-- A run that succeeds, between two different files, leaves all of the minified input
in the output. -/
theorem output_of_success {s : Store} {input output : String} {faults : Faults} {tally : Tally}
    (done : (Job.run s input output faults).result = .ok tally)
    (plain : s.leadsToDevice output = false) (apart : s.leads? input ≠ s.leads? output) :
    ∃ source target out, s.leads? input = some source ∧ s.leads? output = some target ∧
      Script.minify (s.content source) = .ok out ∧
      (Job.run s input output faults).store.get? target = some (.file out) := by
  obtain ⟨source, target, out, reads, writes, minified, _, saved⟩ := Job.run_succeeded done
  obtain ⟨leadsInput, _⟩ := Store.openInput_eq_ok reads
  obtain ⟨leadsOutput, _⟩ := Store.openOutput_eq_ok writes
  have different : source ≠ target := fun same => apart (by rw [leadsInput, leadsOutput, same])
  have unchanged : (s.save target []).content source = s.content source := by
    rw [Store.content, Store.content, Store.get?_save_of_ne s target [] different]
  refine ⟨source, target, out, leadsInput, leadsOutput, unchanged ▸ minified, ?_⟩
  rw [saved]
  exact Store.get?_save_save s target [] (Store.ne_device leadsOutput plain) out

theorem reduction_of_success {s : Store} {input output : String} {faults : Faults} {tally : Tally}
    (done : (Job.run s input output faults).result = .ok tally) : tally.reduction?.isSome := by
  obtain ⟨_, _, out, _, _, minified, rfl, _⟩ := Job.run_succeeded done
  have shrunk := Script.length_minify_le minified
  exact Tally.reduction?_isSome (Int.natCast_nonneg _) (Int.ofNat_le.mpr shrunk)

/-- An invocation that finds the journal not set up shows nothing of it and answers
nothing.  It complains of its usage, with the store as it was, exactly if the number of
arguments is not two.  If the second of two is `--`, it neither succeeds nor changes
anything.  Otherwise its status and its complaint are those of the run between the two
files: none if the run succeeds, and the text of the failure that it reports.  Only a
path with a NUL that is opened leads to an error that is not reported, as every tally
has a reduction.  So a status of zero means that a file other than the input, and no
device, holds all of the minified input. -/
theorem run_reports {arguments : List String} {faults : Faults} {s : Store} {report : Report}
    (unconfigured : j.configured = false) (unheard : j.listener = none)
    (ran : run arguments faults s j = report) :
    report.stdout = "" ∧ report.journal.shutdown.shown = j.shown ∧
      (report.exit = .ok 2 ↔ arguments.length ≠ 2) ∧
      (arguments.length ≠ 2 →
        report.stderr = "usage: jsmin <input.js> <output.js>\n" ∧ report.store = s) ∧
      (∀ input, arguments = [input, "--"] → report.exit ≠ .ok 0 ∧ report.store = s) ∧
      ∀ input output job, arguments = [input, output] → output ≠ "--" →
        Job.run s input output faults = job →
        report.store = job.store ∧
        (report.exit = .ok 0 ↔ ∃ tally, job.result = .ok tally) ∧
        (report.exit = .ok 0 → report.stderr = "") ∧
        (report.exit = .ok 1 ↔ ∃ failure, job.result = .error (.reported failure)) ∧
        (∀ failure, job.result = .error (.reported failure) →
          report.stderr = "jsmin: " ++ failure.text ++ "\n") ∧
        (∀ e, report.exit = .error e → e = .nullInPath ∧ ('\x00' ∈ input.toList ∨
          (∃ source, s.openInput input = .ok source) ∧ '\x00' ∈ output.toList)) ∧
        (∀ tally, job.result = .ok tally → tally.reduction?.isSome) ∧
        (report.exit = .ok 0 → s.leadsToDevice output = false →
          s.leads? input ≠ s.leads? output →
          ∃ source target out, s.leads? input = some source ∧ s.leads? output = some target ∧
            Script.minify (s.content source) = .ok out ∧
            report.store.get? target = some (.file out)) := by
  subst ran
  by_cases count : arguments.length = 2
  · obtain ⟨input, output, rfl⟩ := List.length_eq_two.mp count
    rw [run_of_two unconfigured unheard]
    obtain ⟨zero, one, two, escapes⟩ :=
      @exit_answer (prepare j) _ (Request.kind_ne_usage ⟨input, output⟩ s faults)
    refine ⟨stdout_answer, ?_, ?_, ?_, ?_, ?_⟩
    · rw [journal_answer, shown_prepare unconfigured unheard]
    · exact iff_of_false two (absurd rfl)
    · exact absurd rfl
    · rintro _ ⟨⟩
      obtain ⟨same, ⟨e, failed⟩, _⟩ := Job.runNowhere_cases s input
      refine ⟨fun exited => ?_, store_answer.trans same⟩
      obtain ⟨tally, done⟩ := zero.mp exited
      cases failed.symm.trans done
    · rintro _ _ _ ⟨⟩ path rfl
      rw [Request.run_of_path path] at zero one escapes ⊢
      refine ⟨store_answer, zero, ?_, one, ?_, ?_, ?_, ?_⟩
      · intro exited
        obtain ⟨tally, done⟩ := zero.mp exited
        exact stderr_answer_of_ok done
      · exact fun failure failed => stderr_answer_of_reported failed (Job.kind_ne_usage failed)
      · intro e escaped
        obtain ⟨failed, unreported⟩ := escapes e escaped
        exact Job.run_unreported failed unreported
      · exact fun tally => reduction_of_success
      · intro exited plain apart
        obtain ⟨tally, done⟩ := zero.mp exited
        rw [store_answer]
        exact output_of_success done plain apart
  · rw [run_of_other count unconfigured unheard]
    refine ⟨rfl, shown_prepare unconfigured unheard, iff_of_true rfl count, ?_, ?_, ?_⟩
    · exact fun _ => ⟨stderr_of_line, rfl⟩
    · rintro input rfl
      exact absurd rfl count
    · rintro input output _ rfl
      exact absurd rfl count

/-- Where there are no files, the input is said to be missing.  Where there is a script,
its minified form is left in the other file, and nothing is said. -/
theorem run_reports_saved :
    (run ["in.js", "out.js"] {} Store.empty {}).exit = .ok 1 ∧
      (run ["in.js", "out.js"] {} Store.empty {}).stderr =
        "jsmin: unable to open input: in.js\n" ∧
      let s := Store.empty.addFile "in.js" [97, 32, 61, 32, 98]
      let report := run ["in.js", "out.js"] {} s {}
      report.exit = .ok 0 ∧ report.stderr = "" ∧
        report.store.get? ["tmp", "home", "out.js"] = some (.file [97, 61, 98]) := by
  have missing : (Job.run Store.empty "in.js" "out.js" {}).result =
      .error (.reported { kind := .inputOpen, detail := some "in.js" }) := rfl
  obtain ⟨_, _, _, _, _, two⟩ :=
    @run_reports {} ["in.js", "out.js"] {} Store.empty _ rfl rfl rfl
  obtain ⟨_, _, _, one, complains, _⟩ := two "in.js" "out.js" _ rfl (by decide) rfl
  refine ⟨one.mpr ⟨_, missing⟩, (complains _ missing).trans (by decide +kernel), ?_⟩
  intro s report
  have done : (Job.run s "in.js" "out.js" {}).result = .ok ⟨5, 3⟩ :=
    eq_ok_of_toOption (by decide +kernel)
  have leads : s.leads? "in.js" = some ["tmp", "home", "in.js"] ∧
      s.leads? "out.js" = some ["tmp", "home", "out.js"] := by decide +kernel
  obtain ⟨_, _, _, _, _, two⟩ := @run_reports {} ["in.js", "out.js"] {} s report rfl rfl rfl
  obtain ⟨_, zero, silent, _, _, _, _, saved⟩ := two "in.js" "out.js" _ rfl (by decide) rfl
  have exited := zero.mpr ⟨_, done⟩
  obtain ⟨source, target, out, leadsInput, leadsOutput, minified, held⟩ :=
    saved exited (by decide +kernel) (by rw [leads.1, leads.2]; decide)
  obtain rfl := Option.some.inj (leads.1.symm.trans leadsInput)
  obtain rfl := Option.some.inj (leads.2.symm.trans leadsOutput)
  have known : Script.minify (s.content ["tmp", "home", "in.js"]) = .ok [97, 61, 98] :=
    Script.minify_eq_ok (by decide +kernel) (by decide +kernel)
  refine ⟨exited, silent exited, ?_⟩
  rw [held, Except.ok.inj (known.symm.trans minified)]

end CommandLine
end ScriptPress
