import Dashboards.CommandLine.Run
import Mathlib.Data.List.Forall2

/-!
# Reports on documents

What `lint` does is a visit to each document in order: it is read, and a line is written about it.
Whatever becomes of the lines, nothing but visits takes place, and all of them up to the first line
that cannot be written (`Desk.inspect_visits`). If all lines are written, all documents are visited,
and the result tells how many of them are not accepted (`Desk.lint_reports`); so it does not depend
on their order.
-/

namespace Dashboards.CommandLine

variable {σ : Type} {desk : Desk σ} {files : Files}

/-! ## Documents -/

/-- A document is accepted if it is loaded. -/
def Accepted (files : Files) (path : String) : Prop :=
  ∃ compiled, (Compiled.load files path).result = .ok compiled

/-- A document is accepted exactly if loading it succeeds. -/
theorem isOk_eq_true_iff {path : String} :
    (Compiled.load files path).result.isOk = true ↔ Accepted files path := by
  rw [Accepted]
  cases (Compiled.load files path).result <;> simp [Except.isOk, Except.toBool]

instance (path : String) : Decidable (Accepted files path) :=
  decidable_of_iff _ isOk_eq_true_iff

/-- How many documents are not accepted, each counted as often as it is there. -/
def rejected (files : Files) (paths : List String) : Nat :=
  paths.countP fun path => ¬ Accepted files path

/-- All documents are accepted exactly if none is counted. -/
theorem rejected_eq_zero_iff {paths : List String} :
    rejected files paths = 0 ↔ ∀ path ∈ paths, Accepted files path := by
  simp [rejected, List.countP_eq_zero]

/-- A document that is not accepted is counted, whatever is counted before. -/
theorem add_rejected_cons (failed : Nat) (path : String) (rest : List String) :
    (if Accepted files path then failed else failed + 1) + rejected files rest =
      failed + rejected files (path :: rest) := by
  rw [rejected, rejected, List.countP_cons]
  by_cases h : Accepted files path
  · simp [h]
  · rw [if_neg h, if_pos (decide_eq_true h)]
    omega

/-- What is said of a document, as one line. -/
inductive ReportLine (files : Files) (path : String) : String → Prop
  | ok {compiled : Compiled} : (Compiled.load files path).result = .ok compiled →
      ReportLine files path (path ++ ": ok" ++ "\n")
  | error {error : Error} : (Compiled.load files path).result = .error error →
      ReportLine files path (path ++ ": error: " ++ error.message ++ "\n")

/-- The line that is written about a document. -/
def reportLine (files : Files) (path : String) : String :=
  verdict path (Compiled.load files path).result

/-- The line that is written is what is to be said. -/
theorem reportLine_spec (files : Files) (path : String) :
    ReportLine files path (reportLine files path) := by
  rw [reportLine]
  cases h : (Compiled.load files path).result with
  | ok compiled =>
    have hline : path ++ ": ok" ++ "\n" = verdict path (.ok compiled) := by
      rw [String.append_assoc]
      rfl
    exact hline ▸ .ok h
  | error error => exact .error h

namespace Desk

/-! ## Visits -/

/-- What is done at a desk. -/
inductive Act where
  | read (path : String)
  | write (line : String)

/-- The state after something is done. -/
def after (desk : Desk σ) (state : σ) : Act → σ
  | .read path => (desk.read path state).2
  | .write line => (desk.write line state).2

/-- The visit to a document about which a line is written. -/
def visit (path line : String) : List Act :=
  [.read path, .write line]

/-- These files are read at the desk, whatever has been done there. -/
def Reads (desk : Desk σ) (files : Files) : Prop :=
  ∀ path state, (desk.read path state).1 = files path

/-- All lines are written at the desk. -/
def Writes (desk : Desk σ) : Prop :=
  ∀ line state, (desk.write line state).1 = .ok ()

/-- Loading a document reads its file. -/
theorem load_of_reads (h : desk.Reads files) (path : String) (state : σ) :
    desk.load path state = ((Compiled.load files path).result, desk.after state (.read path)) := by
  have hload : (Compiled.load (fun _ => (desk.read path state).1) path).result =
      (Compiled.load files path).result := by
    rw [h path state]
    rfl
  exact congrArg (·, desk.after state (.read path)) hload

section
variable {path : String} {rest : List String} {failed : Nat} {state : σ}

/-- A visit whose line is written is followed by the next one. -/
theorem inspect_cons_of_ok (h : desk.Reads files)
    (hwrite : (desk.write (reportLine files path) (desk.after state (.read path))).1 = .ok ()) :
    desk.inspect (path :: rest) failed state =
      desk.inspect rest (if Accepted files path then failed else failed + 1)
        ((visit path (reportLine files path)).foldl desk.after state) := by
  have hvisit : desk.write (reportLine files path) (desk.after state (.read path)) =
      (.ok (), (visit path (reportLine files path)).foldl desk.after state) := Prod.ext hwrite rfl
  rw [reportLine] at hvisit
  rw [inspect, load_of_reads h]
  simp only [hvisit, isOk_eq_true_iff, reportLine]

/-- A visit whose line is not written is the last one. -/
theorem inspect_cons_of_error (h : desk.Reads files) {reason : String}
    (hwrite : (desk.write (reportLine files path) (desk.after state (.read path))).1 =
      .error reason) :
    desk.inspect (path :: rest) failed state =
      (.error (.file path reason),
        (visit path (reportLine files path)).foldl desk.after state) := by
  have hvisit : desk.write (reportLine files path) (desk.after state (.read path)) =
      (.error reason, (visit path (reportLine files path)).foldl desk.after state) :=
    Prod.ext hwrite rfl
  rw [reportLine] at hvisit
  rw [inspect, load_of_reads h]
  simp only [hvisit, reportLine]

end

/-- The visits to documents in order. -/
def visits (files : Files) (paths : List String) : List Act :=
  paths.flatMap fun path => visit path (reportLine files path)

/-- Nothing but visits takes place, to the first documents in order. They end behind the last
document, or with a line that cannot be written. -/
theorem inspect_visits (h : desk.Reads files) (paths : List String) (failed : Nat) (state : σ) :
    ∃ done, done <+: paths ∧
      (desk.inspect paths failed state).2 = (visits files done).foldl desk.after state ∧
      ((done = paths ∧
          (desk.inspect paths failed state).1 = .ok (failed + rejected files paths)) ∨
        ∃ path reason before, done.getLast? = some path ∧
          (desk.write (reportLine files path) before).1 = .error reason ∧
          (desk.inspect paths failed state).1 = .error (.file path reason)) := by
  induction paths generalizing failed state with
  | nil => exact ⟨[], List.nil_prefix, rfl, .inl ⟨rfl, rfl⟩⟩
  | cons path rest ih =>
    cases hwrite : (desk.write (reportLine files path) (desk.after state (.read path))).1 with
    | error reason =>
      rw [inspect_cons_of_error h hwrite]
      exact ⟨[path], List.prefix_append [path] rest, rfl,
        .inr ⟨path, reason, _, rfl, hwrite, rfl⟩⟩
    | ok =>
      rw [inspect_cons_of_ok h hwrite]
      obtain ⟨done, hdone, hstate, hresult⟩ :=
        ih (if Accepted files path then failed else failed + 1)
          ((visit path (reportLine files path)).foldl desk.after state)
      refine ⟨path :: done, (List.prefix_cons_inj path).2 hdone, ?_, ?_⟩
      · rw [hstate, visits, visits, List.flatMap_cons, List.foldl_append]
      · obtain ⟨rfl, hcount⟩ | ⟨last, reason, before, hlast, hfails, herror⟩ := hresult
        · exact .inl ⟨rfl, by rw [hcount, add_rejected_cons]⟩
        · refine .inr ⟨last, reason, before, ?_, hfails, herror⟩
          rw [List.getLast?_cons, hlast]
          rfl

/-- If all lines are written, all documents are visited and those that are not accepted counted. -/
theorem lint_of_writes (h : desk.Reads files) (hwrites : desk.Writes) (paths : List String)
    (state : σ) :
    desk.lint paths state =
      (if 0 < rejected files paths then .error (.lint (rejected files paths) paths.length)
        else .ok (), (visits files paths).foldl desk.after state) := by
  obtain ⟨done, -, hstate, hresult⟩ := inspect_visits h paths 0 state
  obtain ⟨rfl, hcount⟩ | ⟨path, reason, before, -, hfails, -⟩ := hresult
  · rw [Nat.zero_add] at hcount
    rw [lint, show desk.inspect done 0 state = (_, _) from Prod.ext hcount hstate]
  · rw [hwrites] at hfails
    cases hfails

/-! ## Reports -/

/-- Files are read as they are, and all lines are written. -/
theorem serves_ofFiles (files : Files) : (ofFiles files).Reads files ∧ (ofFiles files).Writes :=
  ⟨fun _ _ => rfl, fun _ _ => rfl⟩

/-- Visits to documents leave their lines behind each other. -/
theorem foldl_after_ofFiles (files : Files) (paths : List String) (written : String) :
    (visits files paths).foldl (ofFiles files).after written =
      written ++ String.join (paths.map (reportLine files)) := by
  induction paths generalizing written with
  | nil => simp [visits]
  | cons path rest ih =>
    rw [visits, List.flatMap_cons, List.foldl_append, ← visits, ih, List.map_cons,
      String.join_cons, ← String.append_assoc]
    rfl

end Desk

/-- What `lint` prints is the lines about the documents in order. -/
theorem printed_lint (files : Files) (paths : List String) :
    (lint files paths).printed = String.join (paths.map (reportLine files)) := by
  rw [lint, Desk.lint_of_writes (Desk.serves_ofFiles files).1 (Desk.serves_ofFiles files).2,
    Desk.foldl_after_ofFiles, String.empty_append]

/-- Whatever the files hold and whoever takes the lines, if all of them are taken: what is done is
the visits to the documents in their order, each once, whether those before it are accepted or not.
The check succeeds exactly if all documents are accepted, and else it fails with the number of those
that are not and the number of all, so that their order does not matter. What the command prints is
the lines, and it ends with this result. -/
theorem Desk.lint_reports (hreads : desk.Reads files) (hwrites : desk.Writes)
    (paths : List String) (state : σ) :
    (∃ lines, List.Forall₂ (ReportLine files) paths lines ∧
      (desk.lint paths state).2 =
        (List.zipWith visit paths lines).flatten.foldl desk.after state ∧
      CommandLine.lint files paths =
        ⟨String.join lines, .ofResult (desk.lint paths state).1⟩) ∧
    ((desk.lint paths state).1 = .ok () ↔ ∀ path ∈ paths, Accepted files path) ∧
    ((∃ path ∈ paths, ¬ Accepted files path) →
      (desk.lint paths state).1 = .error (.lint (rejected files paths) paths.length)) ∧
    ∀ others before, others.Perm paths →
      (desk.lint others before).1 = (desk.lint paths state).1 := by
  rw [lint_of_writes hreads hwrites]
  refine ⟨⟨paths.map (reportLine files), ?_, ?_, ?_⟩, ?_, ?_, ?_⟩
  · rw [List.forall₂_map_right_iff, List.forall₂_same]
    exact fun path _ => reportLine_spec files path
  · rw [List.zipWith_map_right, List.zipWith_self]
    rfl
  · rw [CommandLine.lint, lint_of_writes (serves_ofFiles files).1 (serves_ofFiles files).2,
      foldl_after_ofFiles, String.empty_append]
  · rw [← rejected_eq_zero_iff]
    dsimp only
    split <;> simp <;> omega
  · rintro ⟨path, hpath, hrejected⟩
    have hcount : rejected files paths ≠ 0 := fun hzero =>
      hrejected (rejected_eq_zero_iff.1 hzero path hpath)
    exact if_pos (Nat.pos_of_ne_zero hcount)
  · intro others before hperm
    rw [lint_of_writes hreads hwrites, rejected, rejected, hperm.countP_eq, hperm.length_eq]

/-- A desk at which all that is done is recorded. -/
def Desk.recording (files : Files) : Desk (List Desk.Act) where
  read path acts := (files path, acts ++ [.read path])
  write line acts := (.ok (), acts ++ [.write line])

/-- What is done is what is recorded. -/
theorem Desk.foldl_after_recording (files : Files) (acts before : List Act) :
    acts.foldl (recording files).after before = before ++ acts := by
  induction acts generalizing before with
  | nil => exact (List.append_nil before).symm
  | cons act rest ih =>
    have hact : (recording files).after before act = before ++ [act] := by cases act <;> rfl
    rw [List.foldl_cons, hact, ih, List.append_assoc, List.singleton_append]

/-- Two files, the second of which holds no document. -/
def mixedFiles : Files
  | "good.yml" => .ok "queries:\n"
  | "bad.yml" => .ok "queries: 7\n"
  | _ => .error .missing

/-- Paths to the files and beside them. -/
def mixedPaths : List String :=
  ["bad.yml", "good.yml", "gone.yml", "bad.yml"]

/-- All four documents are visited, and three of them counted, also in the other order. -/
theorem lint_reports_mixed :
    (∃ lines, List.Forall₂ (ReportLine mixedFiles) mixedPaths lines ∧
      ((Desk.recording mixedFiles).lint mixedPaths []).2 =
        (List.zipWith Desk.visit mixedPaths lines).flatten) ∧
    ((Desk.recording mixedFiles).lint mixedPaths []).1 = .error (.lint 3 4) ∧
    ((Desk.recording mixedFiles).lint mixedPaths.reverse []).1 = .error (.lint 3 4) := by
  have hcount : rejected mixedFiles mixedPaths = 3 := by decide +kernel
  have hgone : ¬ Accepted mixedFiles "gone.yml" := by decide +kernel
  have hreads : (Desk.recording mixedFiles).Reads mixedFiles := fun _ _ => rfl
  have hwrites : (Desk.recording mixedFiles).Writes := fun _ _ => rfl
  obtain ⟨⟨lines, hlines, hacts, -⟩, -, hfailed, hperm⟩ :=
    Desk.lint_reports hreads hwrites mixedPaths []
  have herror := hfailed ⟨"gone.yml", by simp [mixedPaths], hgone⟩
  rw [hcount] at herror
  refine ⟨⟨lines, hlines, ?_⟩, herror, ?_⟩
  · rw [hacts, Desk.foldl_after_recording, List.nil_append]
  · rw [hperm _ _ (List.reverse_perm _)]
    exact herror

end Dashboards.CommandLine
