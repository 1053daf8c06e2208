import DocSuite.Proofs.DocumentLine
import DocSuite.Proofs.Grammar.LineStatement
import DocSuite.Proofs.Silent
import DocSuite.Sample.Parse

/-!
Reports of samples that cannot be read. Main statement: a fault is in a line of its sample, and is
reported at the line of the document that ends with that line; a fault without a line is reported
at the opening fence.
-/
namespace DocSuite

open DocSuite.Markdown DocSuite.Syntax DocSuite.Text

/-! ### Contexts -/

theorem Sample.lookup_line_context {sample : Sample} {number : Int}
    (h : sample.line = some number) (index : Option Int) :
    (sample.context index).lookup "line" = some (.int number) := by
  simp only [context, h]
  cases sample.title with
  | none => simp [List.lookup_cons]
  | some title =>
    dsimp only
    split <;> simp [List.lookup_cons]

/-! ### Reports -/

theorem Report.lookup_line_sample (message : String) (title : Option String) (line : Option Int)
    (details : Details) : (sample message title line details).context.lookup "line" =
      (line.map .int).or (details.context.lookup "line") := by
  unfold sample
  cases line with
  | some line => exact lookup_setKey "line" _ _
  | none =>
    dsimp only [ofDetails]
    split
    · split
      · rfl
      · exact lookup_setKey_of_ne (by decide) _
    · rfl

/-- The report is about a sample with a title; it tells a line, or none, and its context shows a
line. -/
structure Report.Locates (title : Option String) (line : Option Int) (shown : Int)
    (report : Report) : Prop where
  subject : report.subject = .sample title line
  context : report.context.lookup "line" = some (.int shown)

/-- A fault with a place is reported as far behind the opening fence as it is in the sample, and any
other one at the fence. -/
theorem Sample.locates_refusal {sample : Sample} {number : Int} (h : sample.line = some number)
    (index : Option Int) (reason cause : String) (place : Option (Nat × String)) :
    (sample.refusal index reason cause place).Locates sample.title
      (place.map fun p => number + p.1) (number + (place.elim 0 Prod.fst : Nat)) := by
  have hcontext := sample.lookup_line_context h index
  constructor
  · cases place <;> simp [refusal, Report.sample, Report.ofDetails, h]
  · rw [refusal.eq_def, Report.lookup_line_sample, h]
    cases place with
    | none => simpa using hcontext
    | some p => rfl

/-! ### Lines of faults -/

namespace CommentReader

theorem line_of_readStart {number line : Nat} {state : State} {text : List Char} {shown : String}
    (h : readStart number state text = .error (.unmatchedIndent line shown)) : line = number := by
  unfold readStart at h
  dsimp only at h
  split at h
  · cases h
  · cases h
  · split at h
    · cases h
    · split at h
      · cases h
      · split at h <;> cases h
        rfl

theorem line_of_readLines {number line : Nat} {state : State} {lines : List (List Char)}
    {shown : String} (h : readLines number state lines = .error (.unmatchedIndent line shown)) :
    number ≤ line ∧ line < number + lines.length := by
  induction lines generalizing number state with
  | nil =>
    rw [readLines] at h
    split at h
    · cases h
    · split at h <;> cases h
  | cons text lines ih =>
    have hrest {state : State}
        (h : readLines (number + 1) state lines = .error (.unmatchedIndent line shown)) :
        number ≤ line ∧ line < number + (lines.length + 1) := by
      have := ih h
      omega
    rw [readLines] at h
    split at h
    · exact hrest h
    · split at h
      · cases hs : readStart number state text with
        | ok state' =>
          rw [hs] at h
          exact hrest h
        | error fault =>
          rw [hs] at h
          cases h
          obtain rfl := line_of_readStart hs
          exact ⟨Nat.le_refl _, by simp⟩
      · exact hrest h

end CommentReader

theorem length_linesWithEnds (cs : List Char) : (linesWithEnds cs).length ≤ cs.count '\n' + 1 := by
  fun_induction linesWithEnds cs <;> simp_all

theorem line_of_readComments {source : List Char} {line : Nat} {shown : String}
    (h : readComments source = .error (.unmatchedIndent line shown)) :
    ∃ k ≤ source.count '\n', line = 1 + k := by
  have hlines : CommentReader.readLines 1 {} (linesWithEnds source) =
      .error (.unmatchedIndent line shown) := by
    unfold readComments at h
    cases hr : CommentReader.readLines 1 {} (linesWithEnds source) with
    | ok state =>
      rw [hr] at h
      cases h
    | error fault =>
      rw [hr] at h
      cases h
      rfl
  obtain ⟨hfirst, hlast⟩ := CommentReader.line_of_readLines hlines
  have := length_linesWithEnds source
  exact ⟨line - 1, by omega, by omega⟩

/-- The line at which the comments of a text cannot be read. -/
def CommentFault.line? : CommentFault → Option Nat
  | unmatchedIndent line _ => some line
  | openString _ | openStatement _ => none

namespace Sample

/-- The text of the sample is not well-formed at a line of it, or at no line. -/
inductive Rejected (sample : Sample) : Option Nat → Prop
  | read {fault : SyntaxFault} (h : parseText sample.source.toList = .error fault) :
      Rejected sample (some fault.line)
  | comments {body : List Stmt} {fault : CommentFault}
      (h : parseText sample.source.toList = .ok body)
      (hcomments : readComments sample.source.toList = .error fault) : Rejected sample fault.line?

/-- The line of a fault is a line of the sample. -/
theorem Rejected.exists_row {sample : Sample} {line : Nat} (h : sample.Rejected (some line))
    (hr : '\r' ∉ sample.source.toList) : ∃ row, line? sample.source.toList line = some row := by
  have hrow (k : Nat) (hk : k ≤ sample.source.toList.count '\n') :
      ∃ row, line? sample.source.toList (1 + k) = some row := by
    have hlt : k < (splitAt '\n' sample.source.toList).length := by
      rw [length_splitAt]
      omega
    exact ⟨_, by rw [Nat.add_comm, line?, List.getElem?_eq_getElem hlt]⟩
  generalize hplace : some line = place at h
  cases h with
  | read h =>
    cases hplace
    refine line_of_parseText (p := fun line => ∃ row, line? sample.source.toList line = some row)
      (fun line hline => Nat.pos_of_ne_zero fun hz => ?_) hr hrow h
    obtain ⟨row, hrow⟩ := hline
    subst hz
    cases hrow
  | comments h hcomments =>
    rename_i body fault
    cases fault with
    | openString => cases hplace
    | openStatement => cases hplace
    | unmatchedIndent line text =>
      cases hplace
      obtain ⟨k, hk, rfl⟩ := line_of_readComments hcomments
      exact hrow k hk

/-- A text of comments is well-formed. -/
theorem Rejected.not_onlyComments {sample : Sample} {place : Option Nat}
    (h : sample.Rejected place) (hr : '\r' ∉ sample.source.toList) :
    ¬ OnlyComments sample.source.toList := by
  intro hsilent
  cases h with
  | read hread =>
    rw [parseText_of_onlyComments hr hsilent] at hread
    cases hread
  | comments _ hcomments =>
    obtain ⟨comments, hok⟩ := succeeds_readComments hsilent
    rw [hok] at hcomments
    cases hcomments

theorem Rejected.exists_refusal {sample : Sample} {place : Option Nat} (h : sample.Rejected place)
    (index : Option Int) (hn : '\x00' ∉ sample.source.toList) :
    ∃ reason cause text, sample.parse index = .error
      (.refused (sample.refusal index reason cause (place.map fun line => (line, text)))) := by
  have hc : sample.source.toList.contains '\x00' = false := by simpa using hn
  cases h with
  | read h =>
    rename_i fault
    rw [parse, hc, h]
    exact ⟨_, _, fault.text, rfl⟩
  | comments h hcomments =>
    rename_i body fault
    rw [parse, hc, h]
    dsimp only
    rw [hcomments]
    cases fault
    case unmatchedIndent line text => exact ⟨_, _, text, rfl⟩
    all_goals exact ⟨_, _, "", rfl⟩

end Sample

/-- Samples of a document stand where their lines say, and a fault of a sample is reported at the
line of the document that its line of the sample stands in, or at the opening fence. -/
theorem scan_located {source : String} {languages : List String} {sample : Sample}
    (h : sample ∈ scan source languages) (index : Option Int) :
    ∃ number : Nat, sample.line = some (number : Int) ∧
      sample.StandsAt (normalize source.toList) number ∧
      ∀ place, sample.Rejected place →
        ∃ report, sample.parse index = .error (.refused report) ∧
          report.Locates sample.title (place.map fun line => (number : Int) + line)
            (number + (place.getD 0 : Nat)) ∧
          ∀ line ∈ place, ∃ row whole, line? sample.source.toList line = some row ∧
            line? (normalize source.toList) (number + line) = some whole ∧ Ends whole row := by
  obtain ⟨number, hline, hstands⟩ := standsAt_of_mem_scan h
  obtain ⟨hr, hn⟩ := pass_scan h
  refine ⟨number, hline, hstands, fun place hplace => ?_⟩
  obtain ⟨reason, cause, text, hparse⟩ := hplace.exists_refusal index hn
  refine ⟨_, hparse, ?_, fun line hl => ?_⟩
  · have hlocates := Sample.locates_refusal hline index reason cause
      (place.map fun line => (line, text))
    cases place <;> exact hlocates
  · obtain rfl := Option.mem_def.mp hl
    obtain ⟨row, hrow⟩ := hplace.exists_row hr
    have hwhole := hstands.rows (fun hempty => hplace.not_onlyComments hr ?_) line row hrow
    · obtain ⟨whole, hwhole⟩ := hwhole
      exact ⟨row, whole, hrow, hwhole⟩
    · rw [hempty]
      decide

/-- A document with a broken sample in a list in a quote. -/
def brokenDocument : String :=
  "> - Broken:\n>\n>   ```python+test\n>   x = 1\n>   y = (\n>   ```\n"

def brokenSample : Sample := ⟨some "Broken", "python+test", "x = 1\ny = (\n", some 3⟩

theorem scan_located_brokenDocument :
    brokenSample ∈ scan brokenDocument ["python+test"] ∧ brokenSample.Rejected (some 2) ∧
      ∃ report, brokenSample.parse = .error (.refused report) ∧
        report.Locates (some "Broken") (some 5) 5 ∧
        ∃ whole, line? (normalize brokenDocument.toList) 5 = some whole ∧
          Ends whole "y = (".toList := by
  have hs : brokenSample ∈ scan brokenDocument ["python+test"] := by decide +kernel
  have hrejected : brokenSample.Rejected (some 2) := by
    have hfault : (match parseText brokenSample.source.toList with
        | .error fault => some fault.line
        | .ok _ => none) = some 2 := by
      decide +kernel
    cases hread : parseText brokenSample.source.toList with
    | error fault =>
      rw [hread] at hfault
      exact hfault ▸ .read hread
    | ok body =>
      rw [hread] at hfault
      cases hfault
  obtain ⟨number, hline, -, hplaces⟩ := scan_located hs none
  obtain rfl : number = 3 := by
    simp only [brokenSample, Option.some.injEq] at hline
    omega
  obtain ⟨report, hparse, hlocates, hrows⟩ := hplaces _ hrejected
  obtain ⟨row, whole, hrow, hwhole, hends⟩ := hrows 2 rfl
  obtain rfl : "y = (".toList = row := Option.some.inj hrow
  exact ⟨hs, hrejected, report, hparse, hlocates, whole, hwhole, hends⟩

end DocSuite
