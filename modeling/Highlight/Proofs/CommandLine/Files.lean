import Highlight.CommandLine.Report
import Mathlib.Data.List.Basic

/-! Reports on files. What is written about a file depends on that file alone, and on whether it is
the only one: the loop over the files comes to the reports on each of them, one after the other. -/
namespace Highlight

namespace SourceFile

def Classifies (file : SourceFile) (ts : List Token) : Prop :=
  ∃ source, file.text = .ok source ∧ Highlight.tokens source = .ok ts

/-- The file has no tokens, for the reason that the message gives. -/
inductive Fails (file : SourceFile) : String → Prop
  | unreadable (failed : file.text = .error e) : Fails file e.message
  | malformed (read : file.text = .ok source) (failed : Highlight.tokens source = .error e) :
      Fails file e.message

theorem tokens_eq_ok {file : SourceFile} : file.tokens = .ok ts ↔ file.Classifies ts := by
  unfold tokens Classifies
  cases file.text with
  | error e => simp
  | ok source => cases found : Highlight.tokens source <;> simp [found]

theorem tokens_eq_error {file : SourceFile} :
    file.tokens = .error message ↔ file.Fails message := by
  unfold tokens
  constructor
  · intro failed
    split at failed
    · next unreadable =>
      obtain rfl := Except.error.inj failed
      exact .unreadable unreadable
    · next read =>
      split at failed
      · next malformed =>
        obtain rfl := Except.error.inj failed
        exact .malformed read malformed
      · contradiction
  · intro fails
    cases fails with
    | unreadable failed => rw [failed]
    | malformed read failed => rw [read]; simp only [failed]

end SourceFile

namespace Task

/-- What is written to standard output about a file that is one of `count`. -/
def block? (task : Task) (count : Nat) (file : SourceFile) : Option String :=
  match task, file.tokens with
  | .listing, .ok ts =>
    let title := "==> " ++ file.name ++ " <==\n"
    some (if count > 1 then title ++ Highlight.listing ts else Highlight.listing ts)
  | .json, .ok ts => some (jsonText ts ++ "\n")
  | .check, .ok _ | _, .error _ => none

/-- What is written to standard error about a file. -/
def line? (task : Task) (file : SourceFile) : Option String :=
  match task, file.tokens with
  | _, .error message => some (file.name ++ ": " ++ message ++ "\n")
  | .check, .ok ts => some (file.name ++ ": ok (" ++ toString ts.length ++ " token(s))\n")
  | .listing, .ok _ | .json, .ok _ => none

end Task

namespace Report

def append (a b : Report) : Report :=
  ⟨a.stdout ++ b.stdout, a.stderr ++ b.stderr, a.failed || b.failed⟩

def join (reports : List Report) : Report :=
  reports.foldr append {}

theorem append_empty (r : Report) : r.append {} = r := by
  simp [append]

theorem append_assoc (a b c : Report) : (a.append b).append c = a.append (b.append c) := by
  simp [append, String.append_assoc, Bool.or_assoc]

/-- A part of reports that are joined is the join of the parts. -/
theorem text_join {text : Report → String} (empty : text {} = "")
    (append : ∀ a b, text (a.append b) = text a ++ text b) (reports : List Report) :
    text (join reports) = String.join (reports.map text) := by
  induction reports with
  | nil => exact empty
  | cons r reports ih =>
    rw [List.map_cons, String.join_cons, ← ih]
    exact append r (join reports)

theorem stdout_join (reports : List Report) :
    (join reports).stdout = String.join (reports.map stdout) :=
  text_join rfl (fun _ _ => rfl) reports

theorem stderr_join (reports : List Report) :
    (join reports).stderr = String.join (reports.map stderr) :=
  text_join rfl (fun _ _ => rfl) reports

theorem failed_join (reports : List Report) : (join reports).failed = reports.any failed := by
  induction reports with
  | nil => rfl
  | cons r reports ih =>
    rw [List.any_cons, ← ih]
    rfl

end Report

namespace Task

/-- The report on a file alone. -/
def reportFile (task : Task) (alone : Bool) (file : SourceFile) : Report :=
  task.reportNext alone {} file

/-- A file adds to a report what it is reported on by itself. -/
theorem reportNext_eq (task : Task) (alone : Bool) (r : Report) (file : SourceFile) :
    task.reportNext alone r file = r.append (task.reportFile alone file) := by
  unfold reportFile reportNext
  cases file.tokens with
  | error message => simp [Report.append, Report.note]
  | ok ts =>
    cases task with
    | json | check => simp [reportTokens, Report.append, Report.print, Report.note]
    | listing =>
      cases alone <;> simp [reportTokens, Report.append, Report.print, String.append_assoc]

/-- The outputs and the flag that the loop carries from file to file are those of the files, put
together. -/
theorem foldl_reportNext (task : Task) (alone : Bool) (r : Report) (files : List SourceFile) :
    files.foldl (task.reportNext alone) r =
      r.append (Report.join (files.map (task.reportFile alone))) := by
  induction files generalizing r with
  | nil => exact r.append_empty.symm
  | cons file files ih =>
    rw [List.foldl_cons, ih, reportNext_eq, Report.append_assoc]
    rfl

/-- The loop over the files comes to the reports that each of them has alone. -/
theorem reportFiles_eq (task : Task) (files : List SourceFile) :
    task.reportFiles files = Report.join (files.map (task.reportFile (files.length ≤ 1))) := by
  rw [reportFiles, foldl_reportNext]
  simp [Report.append]

end Task

/-- A text that is left out is as good as an empty one. -/
theorem join_filterMap (text? : α → Option String) (xs : List α) :
    String.join (xs.filterMap text?) = String.join (xs.map fun x => (text? x).getD "") := by
  induction xs with
  | nil => rfl
  | cons x xs ih =>
    rw [List.map_cons, String.join_cons, ← ih]
    cases found : text? x with
    | none => rw [List.filterMap_cons_none found, Option.getD_none, String.empty_append]
    | some text => rw [List.filterMap_cons_some found, String.join_cons, Option.getD_some]

namespace Task

variable {task : Task} {files : List SourceFile}

theorem stdout_reportFile (task : Task) (count : Nat) (file : SourceFile) :
    (task.reportFile (count ≤ 1) file).stdout = (task.block? count file).getD "" := by
  unfold reportFile reportNext block?
  cases file.tokens with
  | error message => cases task <;> rfl
  | ok ts =>
    cases task with
    | check => rfl
    | json => simp [reportTokens, Report.print]
    | listing =>
      rcases Nat.lt_or_ge 1 count with several | alone
      · simp [reportTokens, Report.print, several, Nat.not_le.mpr several]
      · simp [reportTokens, Report.print, alone, Nat.not_lt.mpr alone]

theorem stderr_reportFile (task : Task) (alone : Bool) (file : SourceFile) :
    (task.reportFile alone file).stderr = (task.line? file).getD "" := by
  unfold reportFile reportNext line?
  cases file.tokens with
  | error message => cases task <;> simp [Report.note]
  | ok ts =>
    cases task with
    | json => rfl
    | listing => cases alone <;> rfl
    | check =>
      have opened : ": ok (" = ": " ++ "ok (" := rfl
      have ended : " token(s))\n" = " token(s))" ++ "\n" := rfl
      simp only [reportTokens, Report.note, Option.getD_some, opened, ended, String.append_assoc,
        String.empty_append]

theorem failed_reportFile (task : Task) (alone : Bool) (file : SourceFile) :
    (task.reportFile alone file).failed = true ↔ ∃ message, file.Fails message := by
  simp only [← SourceFile.tokens_eq_error]
  unfold reportFile reportNext
  cases file.tokens with
  | error message => simp
  | ok ts => cases task <;> cases alone <;> simp [reportTokens, Report.print, Report.note]

theorem stdout_reportFiles (task : Task) (files : List SourceFile) :
    (task.reportFiles files).stdout = String.join (files.filterMap (task.block? files.length)) := by
  rw [reportFiles_eq, Report.stdout_join, List.map_map, join_filterMap]
  exact congrArg String.join
    (List.map_congr_left fun file _ => task.stdout_reportFile files.length file)

theorem stderr_reportFiles (task : Task) (files : List SourceFile) :
    (task.reportFiles files).stderr = String.join (files.filterMap task.line?) := by
  rw [reportFiles_eq, Report.stderr_join, List.map_map, join_filterMap]
  exact congrArg String.join (List.map_congr_left fun file _ => task.stderr_reportFile _ file)

theorem failed_reportFiles (task : Task) (files : List SourceFile) :
    (task.reportFiles files).failed = true ↔ ∃ file ∈ files, ∃ message, file.Fails message := by
  simp only [reportFiles_eq, Report.failed_join, List.any_map, List.any_eq_true,
    Function.comp_apply, failed_reportFile]

end Task

/-- What the program does about the files, which it is given under their names. -/
def Command.reportOn (task : Task) (files : List SourceFile) : Report :=
  (Command.report task (files.map SourceFile.name)).run files

def Task.blocks (task : Task) (files : List SourceFile) : List String :=
  files.filterMap (task.block? files.length)

/-- Each file has its own part in the report. -/
structure FilesApart (task : Task) (files : List SourceFile) : Prop where
  stdout : (Command.reportOn task files).stdout = String.join (task.blocks files)
  stderr : (Command.reportOn task files).stderr = String.join (files.filterMap task.line?)
  quiet : (Command.reportOn .check files).stdout = ""
  exitCode : (Command.reportOn task files).exitCode = 0 ∧
      (∀ file ∈ files, ∃ ts, file.Classifies ts) ∨
    (Command.reportOn task files).exitCode = 1 ∧ ∃ file ∈ files, ∃ message, file.Fails message
  agree : ∀ other, (Command.reportOn other files).exitCode = (Command.reportOn task files).exitCode
  permuted : ∀ others, others.Perm files →
    (task.blocks others).Perm (task.blocks files) ∧
      (others.filterMap task.line?).Perm (files.filterMap task.line?) ∧
      (Command.reportOn task others).exitCode = (Command.reportOn task files).exitCode
  failing : ∀ front file back message, files = front ++ file :: back → file.Fails message →
    task.blocks files =
      front.filterMap (task.block? files.length) ++ back.filterMap (task.block? files.length)

theorem Report.exitCode_eq (r : Report) :
    r.exitCode = 0 ∧ r.failed = false ∨ r.exitCode = 1 ∧ r.failed = true := by
  unfold exitCode
  cases r.failed <;> simp

theorem Report.exitCode_congr {r s : Report} (same : r.failed = true ↔ s.failed = true) :
    r.exitCode = s.exitCode := by
  rw [exitCode, exitCode, Bool.eq_iff_iff.mpr same]

theorem SourceFile.exists_fails {file : SourceFile} (unclassified : ¬∃ ts, file.Classifies ts) :
    ∃ message, file.Fails message := by
  cases found : file.tokens with
  | ok ts => exact absurd ⟨ts, tokens_eq_ok.mp found⟩ unclassified
  | error message => exact ⟨message, tokens_eq_error.mp found⟩

namespace Task

variable {task : Task} {files others : List SourceFile}

/-- The exit code is 0 if all files classify, and 1 if one fails. -/
theorem exitCode_reportFiles (task : Task) (files : List SourceFile) :
    (task.reportFiles files).exitCode = 0 ∧ (∀ file ∈ files, ∃ ts, file.Classifies ts) ∨
      (task.reportFiles files).exitCode = 1 ∧ ∃ file ∈ files, ∃ message, file.Fails message := by
  rcases (task.reportFiles files).exitCode_eq with ⟨code, succeeded⟩ | ⟨code, failed⟩
  · refine .inl ⟨code, fun file member => ?_⟩
    by_contra unclassified
    have failed := (failed_reportFiles task files).mpr
      ⟨file, member, SourceFile.exists_fails unclassified⟩
    rw [succeeded] at failed
    contradiction
  · exact .inr ⟨code, (failed_reportFiles task files).mp failed⟩

theorem exitCode_congr (task other : Task) (same : ∀ file, file ∈ others ↔ file ∈ files) :
    (other.reportFiles others).exitCode = (task.reportFiles files).exitCode := by
  refine Report.exitCode_congr ?_
  simp only [failed_reportFiles, same]

theorem block?_of_fails (count : Nat) {file : SourceFile} (fails : file.Fails message) :
    task.block? count file = none := by
  unfold block?
  rw [SourceFile.tokens_eq_error.mpr fails]
  cases task <;> rfl

theorem block?_check (count : Nat) (file : SourceFile) : Task.check.block? count file = none := by
  unfold block?
  cases file.tokens <;> rfl

theorem blocks_perm (permuted : others.Perm files) :
    (task.blocks others).Perm (task.blocks files) := by
  unfold blocks
  rw [permuted.length_eq]
  exact permuted.filterMap _

end Task

/-- What is reported on files is put together from what is reported on each of them alone. -/
theorem filesApart (task : Task) (files : List SourceFile) : FilesApart task files where
  stdout := task.stdout_reportFiles files
  stderr := task.stderr_reportFiles files
  quiet := by
    have noBlock : files.filterMap (Task.check.block? files.length) = [] :=
      List.filterMap_eq_nil_iff.mpr fun file _ => Task.block?_check files.length file
    exact (Task.stdout_reportFiles .check files).trans (congrArg String.join noBlock)
  exitCode := task.exitCode_reportFiles files
  agree := fun other => Task.exitCode_congr task other fun _ => Iff.rfl
  permuted := by
    intro others permuted
    refine ⟨Task.blocks_perm permuted, permuted.filterMap _, ?_⟩
    exact Task.exitCode_congr task task fun _ => permuted.mem_iff
  failing := by
    intro front file back message split fails
    have none_ : ∀ count, task.block? count file = none := fun count =>
      Task.block?_of_fails count fails
    unfold Task.blocks
    generalize files.length = count
    rw [split, List.filterMap_append, List.filterMap_cons_none (none_ count)]

end Highlight
