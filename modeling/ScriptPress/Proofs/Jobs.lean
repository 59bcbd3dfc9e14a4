/-
What a run between files does to a store, and how it ends.

A run is refused when a file does not open, and then it has changed nothing.
Otherwise it empties the output, minifies what the input holds after that, and
leaves in the output what its stream has stored.  `Job.Course` lists the ways a run
can go, and all that is said of runs follows from it.  What a run changes, and what
its result says about the output, is `Job.run_changes_output`.  Which failures are
reported for which calls is `Job.run_failure_iff`: any fault of a stream is put down
to the output, also one of reading the input.
-/
import ScriptPress.Job
import ScriptPress.Proofs.Files
import ScriptPress.Proofs.Outputs

namespace ScriptPress
namespace Job

open Script

/-! ## The ways of a run -/

/-- What is reported of an output that cannot be written or closed. -/
def closeFailure (output : String) : Error :=
  .reported { kind := .outputClose, detail := some output }

/-- The run on the streams of two files that have been opened. -/
def streamed (opened : Store) (source target : Location) (faults : Faults) :
    Outcome Transfer Tally :=
  minifyStream { supply := .bytes (opened.content source), failingRead := faults.read }
    (outputStream opened target faults)

/-- How a run on open files ends: `r` is the run on their streams, after which the
output is closed. -/
inductive Ending (output : String) (script : Bytes) (r : Outcome Transfer Tally) :
    Except Error Tally → Prop
  | done {out : Bytes} (closed : (split {} (characters script)).2 = none)
      (minified : minify script = .ok out) (sound : ¬ r.state.Broken)
      (stored : r.state.sink.output.stored.toList = out)
      (closes : r.state.sink.output.close = .ok ()) :
      Ending output script r (.ok ⟨script.length, out.length⟩)
  | lost {fault : Stream.Fault} (closed : (split {} (characters script)).2 = none)
      (sound : ¬ r.state.Broken) (fails : r.state.sink.output.close = .error fault) :
      Ending output script r (.error (closeFailure output))
  | unclosed {what : Construct} (unclosed : (split {} (characters script)).2 = some what)
      (sound : ¬ r.state.Broken) :
      Ending output script r (.error (.reported (.unterminated what script.length)))
  | broken (broken : r.state.Broken) : Ending output script r (.error (closeFailure output))

/-- The ways a run can go, with its result and the store it leaves. -/
inductive Course (s : Store) (input output : String) (faults : Faults) :
    Except Error Tally → Store → Prop
  | noInput {e : OpenError} (refused : s.openInput input = .error e) :
      Course s input output faults (.error (openFailure .inputOpen input e)) s
  | noOutput {source : Location} {e : OpenError} (reads : s.openInput input = .ok source)
      (refused : s.openOutput output = .error e) :
      Course s input output faults (.error (openFailure .outputOpen output e)) s
  | opened {source target : Location} {opened : Store} {result : Except Error Tally}
      (reads : s.openInput input = .ok source) (writes : s.openOutput output = .ok (target, opened))
      (ended : Ending output (opened.content source) (streamed opened source target faults) result) :
      Course s input output faults result (opened.save target
        (streamed opened source target faults).state.sink.output.stored.toList)

/-- The result of a run on open files, from the run on their streams. -/
def conclude (output : String) (r : Outcome Transfer Tally) : Except Error Tally :=
  match r.result with
  | .error halt => .error (haltError output halt)
  | .ok tally =>
    match r.state.sink.output.close with
    | .error _ => .error (closeFailure output)
    | .ok _ => .ok tally

theorem run_of_opened {s opened : Store} {input output : String} {source target : Location}
    (faults : Faults) (reads : s.openInput input = .ok source)
    (writes : s.openOutput output = .ok (target, opened)) :
    (run s input output faults).result = conclude output (streamed opened source target faults) ∧
      (run s input output faults).store = opened.save target
        (streamed opened source target faults).state.sink.output.stored.toList := by
  simp only [run, reads, writes]
  rw [← streamed]
  generalize streamed opened source target faults = r
  cases r with
  | error halt t => exact ⟨rfl, rfl⟩
  | ok tally t =>
    simp only [conclude, Outcome.result, Outcome.state]
    cases t.sink.output.close with
    | error fault => exact ⟨rfl, rfl⟩
    | ok _ => exact ⟨rfl, rfl⟩

theorem conclude_ending (output : String) {script : Bytes} {r : Outcome Transfer Tally}
    (ends : Ends script r) : Ending output script r (conclude output r) := by
  unfold conclude
  cases ends with
  | done closed minified sound result_eq stored =>
    rw [result_eq]
    cases closes : r.state.sink.output.close with
    | ok _ => exact .done closed minified sound stored closes
    | error fault => exact .lost closed sound closes
  | unclosed unclosed sound result_eq =>
    rw [result_eq]
    exact .unclosed unclosed sound
  | broken broken result_eq =>
    rw [result_eq]
    exact .broken broken

theorem streamed_ending (output : String) (opened : Store) (source target : Location)
    (faults : Faults) :
    Ending output (opened.content source) (streamed opened source target faults)
      (conclude output (streamed opened source target faults)) :=
  conclude_ending output (minifyStream_ends (opened.content source) faults.read rfl)

theorem run_course (s : Store) (input output : String) (faults : Faults) :
    Course s input output faults (run s input output faults).result
      (run s input output faults).store := by
  cases reads : s.openInput input with
  | error e =>
    simp only [run, reads]
    exact .noInput reads
  | ok source =>
    cases writes : s.openOutput output with
    | error e =>
      simp only [run, reads, writes]
      exact .noOutput reads writes
    | ok pair =>
      obtain ⟨target, opened⟩ := pair
      obtain ⟨result_eq, store_eq⟩ := run_of_opened faults reads writes
      rw [result_eq, store_eq]
      exact .opened reads writes (streamed_ending output opened source target faults)

/-! ## Results of a run -/

section Results

variable {s : Store} {input output : String} {faults : Faults}

theorem openFailure_eq_reported {kind : Failure.Kind} {path : String} {e : OpenError}
    {failure : Failure} (h : openFailure kind path e = .reported failure) : failure.kind = kind := by
  cases e with
  | nullInPath => cases h
  | _ =>
    cases h
    rfl

/-- A run reports failures of files and of the script, and never one of usage. -/
theorem kind_ne_usage {failure : Failure}
    (h : (run s input output faults).result = .error (.reported failure)) :
    failure.kind ≠ .usage := by
  have course := run_course s input output faults
  rw [h] at course
  generalize reported : (.error (.reported failure) : Except Error Tally) = result at course
  generalize (run s input output faults).store = store at course
  cases course with
  | noInput refused =>
    rw [openFailure_eq_reported (Except.error.inj reported).symm]
    nofun
  | noOutput reads refused =>
    rw [openFailure_eq_reported (Except.error.inj reported).symm]
    nofun
  | opened reads writes ended =>
    cases ended with
    | done => cases reported
    | lost | unclosed | broken =>
      cases reported
      nofun

/-- A run without an output never succeeds and changes nothing. -/
theorem runNowhere_cases (s : Store) (input : String) :
    (runNowhere s input).store = s ∧ (∃ e, (runNowhere s input).result = .error e) ∧
      ∀ failure, (runNowhere s input).result = .error (.reported failure) →
        failure.kind ≠ .usage := by
  unfold runNowhere
  cases s.openInput input with
  | error e =>
    refine ⟨rfl, ⟨_, rfl⟩, fun failure reported => ?_⟩
    rw [openFailure_eq_reported (Except.error.inj reported)]
    nofun
  | ok source => exact ⟨rfl, ⟨_, rfl⟩, nofun⟩

/-- The one error that is not reported is that of a path with a NUL that is opened. -/
theorem run_unreported {e : Error} (h : (run s input output faults).result = .error e)
    (unreported : ∀ failure, e ≠ .reported failure) :
    e = .nullInPath ∧ ('\x00' ∈ input.toList ∨
      (∃ source, s.openInput input = .ok source) ∧ '\x00' ∈ output.toList) := by
  have course := run_course s input output faults
  rw [h] at course
  generalize failed : (.error e : Except Error Tally) = result at course
  generalize (run s input output faults).store = store at course
  cases course with
  | @noInput cause refused =>
    cases failed
    cases cause with
    | nullInPath => exact ⟨rfl, .inl (Store.openInput_eq_nullInPath.mp refused)⟩
    | _ => exact absurd rfl (unreported _)
  | @noOutput source cause reads refused =>
    cases failed
    cases cause with
    | nullInPath => exact ⟨rfl, .inr ⟨⟨source, reads⟩, Store.openOutput_eq_nullInPath.mp refused⟩⟩
    | _ => exact absurd rfl (unreported _)
  | opened reads writes ended =>
    cases ended with
    | done => cases failed
    | lost | unclosed | broken =>
      cases failed
      exact absurd rfl (unreported _)

/-- A run that succeeds has saved the minified script, and its tally counts both. -/
theorem run_succeeded {tally : Tally} (h : (run s input output faults).result = .ok tally) :
    ∃ source target out, s.openInput input = .ok source ∧
      s.openOutput output = .ok (target, s.save target []) ∧
      minify ((s.save target []).content source) = .ok out ∧
      tally = ⟨((s.save target []).content source).length, out.length⟩ ∧
      (run s input output faults).store = (s.save target []).save target out := by
  have course := run_course s input output faults
  rw [h] at course
  generalize succeeded : (.ok tally : Except Error Tally) = result at course
  generalize (run s input output faults).store = store at course ⊢
  cases course with
  | noInput refused => cases succeeded
  | noOutput reads refused => cases succeeded
  | @opened source target opened _ reads writes ended =>
    obtain ⟨_, _, rfl⟩ := Store.openOutput_eq_ok writes
    cases ended with
    | done closed minified sound stored closes =>
      cases succeeded
      exact ⟨source, target, _, reads, writes, minified, rfl, by rw [stored]⟩
    | lost | unclosed | broken => cases succeeded

end Results

/-! ## What a run changes -/

/-- The errors of a file that does not open. -/
def Error.isOpening : Error → Bool
  | .reported failure => failure.kind = .inputOpen || failure.kind = .outputOpen
  | .nullInPath => true
  | .notByte => false
  | .noPath => false

theorem isOpening_openFailure (kind : Failure.Kind) (path : String) (e : OpenError)
    (opening : kind = .inputOpen ∨ kind = .outputOpen) :
    (openFailure kind path e).isOpening = true := by
  cases e with
  | nullInPath => rfl
  | _ => simpa [openFailure, Error.isOpening] using opening

theorem Ending.not_isOpening {output : String} {script : Bytes} {r : Outcome Transfer Tally}
    {result : Except Error Tally} (h : Ending output script r result) {e : Error}
    (failed : result = .error e) : e.isOpening = false := by
  cases h with
  | done => cases failed
  | lost | unclosed | broken =>
    cases failed
    rfl

theorem stored_streamed (opened : Store) (source target : Location) (faults : Faults) :
    (streamed opened source target faults).state.sink.output.stored.toList <+:
      (minifyStream { supply := .bytes (opened.content source) } {}).state.sink.output.stored.toList :=
  stored_prefix_ideal (.bytes (opened.content source)) faults.read rfl

theorem content_of_file {s : Store} {location : Location} {content : Bytes}
    (held : s.get? location = some (.file content)) : s.content location = content := by
  simp only [Store.content, held]

/-- The file that a run reads is there when the output has been emptied: with nothing
in it if it is the output itself, and as it was if not. -/
theorem input_after_opening {s : Store} {input : String} {source target : Location}
    (reads : s.openInput input = .ok source) (plainInput : s.leadsToDevice input = false)
    (plainTarget : ∀ device, s.get? target ≠ some (.device device)) :
    ∃ script, (s.save target []).get? source = some (.file script) ∧
      (source = target → script = []) ∧
      (source ≠ target → s.get? source = some (.file script)) := by
  obtain ⟨leads, node, there, solid, _⟩ := Store.openInput_eq_ok reads
  by_cases same : source = target
  · subst same
    exact ⟨[], s.get?_save source [] plainTarget, fun _ => rfl, absurd rfl⟩
  · cases node with
    | directory => exact absurd rfl solid
    | device device => exact absurd there (Store.ne_device leads plainInput device)
    | file content =>
      refine ⟨content, ?_, fun absurd => (same absurd).elim, fun _ => there⟩
      rw [Store.get?_save_of_ne s target [] same, there]

/-- A run between paths that lead to no device changes nothing but the file at the
output.  If a file does not open, nothing is changed at all.  Otherwise the output
holds a beginning of what minifying without faults gives for the script that the
input holds once the output has been emptied; and all of it, if the run succeeds. -/
theorem run_changes_output {s : Store} {input output : String} {faults : Faults} {report : Report}
    (ran : run s input output faults = report) (plainInput : s.leadsToDevice input = false)
    (plainOutput : s.leadsToDevice output = false) :
    report.store.home = s.home ∧
      (∀ location, s.leads? output ≠ some location →
        report.store.get? location = s.get? location) ∧
      ((∃ e, report.result = .error e ∧ e.isOpening = true ∧ report.store = s) ∨
        (∀ e, report.result = .error e → e.isOpening = false) ∧
          ∃ source target script out,
            s.leads? input = some source ∧ s.leads? output = some target ∧
            (s.save target []).get? source = some (.file script) ∧
            (source = target → script = []) ∧
            (source ≠ target → s.get? source = some (.file script)) ∧
            report.store.get? target = some (.file out) ∧
            out <+: (minifyStream { supply := .bytes script } {}).state.sink.output.stored.toList ∧
            ∀ tally, report.result = .ok tally →
              minify script = .ok out ∧ tally = ⟨script.length, out.length⟩) := by
  subst ran
  have course := run_course s input output faults
  generalize (run s input output faults).result = result at course ⊢
  generalize (run s input output faults).store = store at course ⊢
  cases course with
  | noInput refused =>
    refine ⟨rfl, fun _ _ => rfl, .inl ⟨_, rfl, ?_, rfl⟩⟩
    exact isOpening_openFailure .inputOpen input _ (.inl rfl)
  | noOutput reads refused =>
    refine ⟨rfl, fun _ _ => rfl, .inl ⟨_, rfl, ?_, rfl⟩⟩
    exact isOpening_openFailure .outputOpen output _ (.inr rfl)
  | @opened source target opened _ reads writes ended =>
    obtain ⟨leads, _, rfl⟩ := Store.openOutput_eq_ok writes
    have plainTarget := Store.ne_device leads plainOutput
    obtain ⟨script, held, itself, other⟩ := input_after_opening reads plainInput plainTarget
    have begins := stored_streamed (s.save target []) source target faults
    rw [content_of_file held] at begins ended
    refine ⟨?_, ?_, .inr ⟨fun e => ended.not_isOpening, source, target, script,
      (streamed (s.save target []) source target faults).state.sink.output.stored.toList,
      (Store.openInput_eq_ok reads).1, leads, held, itself, other, ?_, begins, ?_⟩⟩
    · rw [Store.home_save, Store.home_save]
    · intro location elsewhere
      have apart : location ≠ target := fun same => elsewhere (same ▸ leads)
      rw [Store.get?_save_of_ne _ _ _ apart, Store.get?_save_of_ne _ _ _ apart]
    · exact Store.get?_save_save s target [] plainTarget _
    · rintro tally rfl
      cases ended with
      | done closed minified sound stored closes =>
        rw [stored]
        exact ⟨minified, rfl⟩

/-- The script `a = b` is minified into another file, and stays as it is also when the
write of its minified form fails. -/
theorem run_changes_output_saved :
    let s := Store.empty.addFile "in.js" [97, 32, 61, 32, 98]
    s.leadsToDevice "in.js" = false ∧ s.leadsToDevice "out.js" = false ∧
      (run s "in.js" "out.js" {}).result = .ok ⟨5, 3⟩ ∧
      (run s "in.js" "out.js" {}).store.get? ["tmp", "home", "out.js"] =
        some (.file [97, 61, 98]) ∧
      (run s "in.js" "out.js" { writes := [1] }).store.get? ["tmp", "home", "in.js"] =
        some (.file [97, 32, 61, 32, 98]) := by
  intro s
  have plainInput : s.leadsToDevice "in.js" = false := by decide +kernel
  have plainOutput : s.leadsToDevice "out.js" = false := by decide +kernel
  have done : (run s "in.js" "out.js" {}).result = .ok ⟨5, 3⟩ :=
    eq_ok_of_toOption (by decide +kernel)
  refine ⟨plainInput, plainOutput, done, ?_, ?_⟩
  · obtain ⟨_, _, ⟨e, failed, _⟩ | ⟨_, source, target, script, out, leadsInput, leadsOutput, _, _,
        other, held, _, all⟩⟩ := @run_changes_output s "in.js" "out.js" {} _ rfl plainInput plainOutput
    · cases failed.symm.trans done
    · have leads : s.leads? "in.js" = some ["tmp", "home", "in.js"] ∧
          s.leads? "out.js" = some ["tmp", "home", "out.js"] := by decide +kernel
      have there : s.get? ["tmp", "home", "in.js"] = some (.file [97, 32, 61, 32, 98]) := by
        decide +kernel
      obtain rfl := Option.some.inj (leads.1.symm.trans leadsInput)
      obtain rfl := Option.some.inj (leads.2.symm.trans leadsOutput)
      obtain ⟨⟩ := there.symm.trans (other (by decide))
      have minified : minify [97, 32, 61, 32, 98] = .ok [97, 61, 98] :=
        minify_eq_ok (by decide +kernel) (by decide +kernel)
      rw [held, Except.ok.inj (minified.symm.trans (all _ done).1)]
  · obtain ⟨_, others, _⟩ :=
      @run_changes_output s "in.js" "out.js" { writes := [1] } _ rfl plainInput plainOutput
    refine (others ["tmp", "home", "in.js"] ?_).trans ?_
    · decide +kernel
    · decide +kernel

/-! ## Which failure is reported -/

theorem unterminated_inj {what what' : Construct} {position position' : Nat} :
    Failure.unterminated what position = .unterminated what' position' ↔
      what = what' ∧ position = position' := by
  unfold Failure.unterminated
  constructor
  · intro same
    cases same
    exact ⟨rfl, rfl⟩
  · rintro ⟨rfl, rfl⟩
    rfl

/-- Once both files are open, the output is blamed exactly if a read or a write has
failed, or the script is closed and the output is not closed.  A script that ends
inside a comment or a literal is reported exactly if no read and no write has failed,
whatever closing the output does.  In all other cases the run succeeds. -/
theorem run_failure_iff {s opened : Store} {input output : String} {faults : Faults}
    {source target : Location} {script : Bytes} {streams : Transfer} {report : Report}
    (reads : s.openInput input = .ok source) (writes : s.openOutput output = .ok (target, opened))
    (script_eq : opened.content source = script)
    (streams_eq : (streamed opened source target faults).state = streams)
    (ran : run s input output faults = report) :
    (report.result = .error (closeFailure output) ↔
        streams.source.input.Failed ∨ streams.sink.output.Refused ∨
          (split {} (characters script)).2 = none ∧
            ∃ fault, streams.sink.output.close = .error fault) ∧
      (∀ what position, report.result = .error (.reported (.unterminated what position)) ↔
        (split {} (characters script)).2 = some what ∧ position = script.length ∧
          ¬ streams.source.input.Failed ∧ ¬ streams.sink.output.Refused) ∧
      ((∃ tally, report.result = .ok tally) ↔
        (split {} (characters script)).2 = none ∧ streams.sink.output.close = .ok () ∧
          ¬ streams.source.input.Failed ∧ ¬ streams.sink.output.Refused) := by
  subst ran script_eq streams_eq
  have ended := streamed_ending output opened source target faults
  rw [(run_of_opened faults reads writes).1]
  generalize conclude output (streamed opened source target faults) = result at ended ⊢
  generalize streamed opened source target faults = r at ended ⊢
  cases ended with
  | done closed minified sound stored closes =>
    obtain ⟨unread, unwritten⟩ := not_or.mp sound
    simp [closed, closes, unread, unwritten]
  | lost closed sound fails =>
    obtain ⟨unread, unwritten⟩ := not_or.mp sound
    simp [closeFailure, Failure.unterminated, closed, fails, unread, unwritten]
  | @unclosed what unclosed sound =>
    obtain ⟨unread, unwritten⟩ := not_or.mp sound
    refine ⟨?_, fun what position => ?_, ?_⟩
    · simp [closeFailure, Failure.unterminated, unclosed, unread, unwritten]
    · simp only [Except.error.injEq, Error.reported.injEq, unterminated_inj, unclosed,
        Option.some.injEq, unread, unwritten, not_false_eq_true, and_true]
      exact and_congr_right fun _ => eq_comm
    · simp [unclosed]
  | broken broken =>
    rcases broken with unread | unwritten
    · simp [closeFailure, Failure.unterminated, unread]
    · simp [closeFailure, Failure.unterminated, unwritten]

/-- An open string is reported although closing the output fails. -/
theorem run_failure_iff_open_string :
    (run (Store.empty.addFile "in.js" [34, 97]) "in.js" "out.js" { close := true }).result =
      .error (.reported (.unterminated .quoted 2)) := by
  have reads : (Store.empty.addFile "in.js" [34, 97]).openInput "in.js" =
      .ok ["tmp", "home", "in.js"] := rfl
  have writes : (Store.empty.addFile "in.js" [34, 97]).openOutput "out.js" =
      .ok (["tmp", "home", "out.js"],
        (Store.empty.addFile "in.js" [34, 97]).save ["tmp", "home", "out.js"] []) := rfl
  obtain ⟨_, lexical, _⟩ :=
    @run_failure_iff _ _ "in.js" "out.js" { close := true } _ _ [34, 97] _ _ reads writes rfl rfl rfl
  refine (lexical .quoted 2).mpr ⟨?_, rfl, ?_, ?_⟩
  · decide +kernel
  · decide +kernel
  · decide +kernel

/-- The output is blamed for a read that fails, although nothing was written to it and
it would have been closed. -/
theorem run_blames_output_for_read :
    let s := Store.empty.addFile "in.js" [97, 32, 61, 32, 98]
    let opened := s.save ["tmp", "home", "out.js"] []
    let output := (streamed opened ["tmp", "home", "in.js"] ["tmp", "home", "out.js"]
      { read := 1 }).state.sink.output
    (run s "in.js" "out.js" { read := 1 }).result = .error (closeFailure "out.js") ∧
      output.writes = #[] ∧ output.close.isOk := by
  intro s opened output
  have reads : s.openInput "in.js" = .ok ["tmp", "home", "in.js"] := rfl
  have writes : s.openOutput "out.js" = .ok (["tmp", "home", "out.js"], opened) := rfl
  have halted : (streamed opened ["tmp", "home", "in.js"] ["tmp", "home", "out.js"]
      { read := 1 }).halt? = some (.device .read) := by
    decide +kernel
  refine ⟨?_, by decide +kernel, by decide +kernel⟩
  rw [(run_of_opened { read := 1 } reads writes).1, conclude, Outcome.result_of_halt? halted]
  rfl

end Job
end ScriptPress
