import DocSuite.Proofs.Sample
import DocSuite.Proofs.Silent
import DocSuite.Proofs.Utf8

/-!
Outcomes of reading a sample. Main statement: a sample gives statements or is refused with a report,
unless it has no statements and a character of its second line is split.
-/
namespace DocSuite

open DocSuite.Syntax DocSuite.Syntax.Grammar DocSuite.Text

/-! ### Places in lines -/

theorem succeeds_characterPosition (lines : List (List Char)) (number column : Nat) :
    Succeeds (characterPosition lines ⟨number + 1, column⟩) ↔
      ∀ line ∈ lines[number]?, Utf8.Cuts line column := by
  cases hline : lines[number]? with
  | none => simp [characterPosition, hline]
  | some line => simp [characterPosition, hline, Utf8.succeeds_decode_take]

theorem succeeds_inCharacters (lines : List (List Char)) (span : Span) :
    Succeeds (span.inCharacters lines) ↔ Succeeds (characterPosition lines span.start) ∧
      Succeeds (characterPosition lines span.stop) := by
  simp [Span.inCharacters]

theorem succeeds_attachComments (source : List Char) (comments : List Comment) (body : List Stmt) :
    Succeeds (attachComments source comments body) ↔
      ∀ stmt ∈ nodesOf body, Succeeds (stmt.site.span.inCharacters (splitAt '\n' source)) := by
  have hplaced : Succeeds (attachComments source comments body) ↔
      Succeeds (placedStatements (splitAt '\n' source) body) := by
    simp [attachComments]
  rw [hplaced]
  constructor
  · rintro ⟨placed, h⟩ stmt hs
    obtain ⟨p, -, hp⟩ := exists_mem_placedStatements h hs
    exact ⟨p.span, hp⟩
  · exact fun h => exists_placedStatements h

namespace Sample

/-- The second line has a character that starts at its fourth byte, and one at its eighth byte, as
far as it has so many. -/
def FitsPass (sample : Sample) : Prop :=
  ∀ line ∈ (splitAt '\n' sample.source.toList)[1]?, Utf8.Cuts line 4 ∧ Utf8.Cuts line 8

instance : DecidablePred FitsPass := fun sample =>
  inferInstanceAs (Decidable (∀ line ∈ (splitAt '\n' sample.source.toList)[1]?,
    Utf8.Cuts line 4 ∧ Utf8.Cuts line 8))

/-- The sample has no statements, and the one that stands for them would start or end inside a
character. -/
def Splits (sample : Sample) : Prop :=
  parseText sample.source.toList = .ok [] ∧ Succeeds (readComments sample.source.toList) ∧
    ¬ sample.FitsPass

/-- Statements of a text start and end at characters. -/
theorem succeeds_attach_read {source : List Char} {read : List Stmt} (hr : '\r' ∉ source)
    (h : parseText source = .ok read) (comments : List Comment) :
    Succeeds (attachComments source comments read) := by
  rw [succeeds_attachComments]
  intro stmt hs
  obtain ⟨-, -, entries, hf⟩ := parseText_ok h
  obtain ⟨a, b, -, -, hspan⟩ := hf.span hs
  rw [succeeds_inCharacters, hspan]
  exact ⟨⟨_, characterPosition_take hr a⟩, ⟨_, characterPosition_take hr b⟩⟩

theorem succeeds_attach_emptyBody (sample : Sample) (comments : List Comment) :
    Succeeds (attachComments sample.source.toList comments emptyBody) ↔ sample.FitsPass := by
  rw [succeeds_attachComments, FitsPass]
  simp only [emptyBody, nodesOf, Stmt.nodes, List.append_nil, List.mem_singleton, forall_eq,
    Stmt.site_simple, succeeds_inCharacters, succeeds_characterPosition]
  exact ⟨fun h line hl => ⟨h.1 line hl, h.2 line hl⟩,
    fun h => ⟨fun line hl => (h line hl).1, fun line hl => (h line hl).2⟩⟩

/-- What a sample is read as, step by step. -/
theorem parse_eq (sample : Sample) (index : Option Int) (hn : '\x00' ∉ sample.source.toList) :
    (∃ report, sample.parse index = .error (.refused report)) ∧
        ¬ (Succeeds (parseText sample.source.toList) ∧
          Succeeds (readComments sample.source.toList)) ∨
      ∃ read comments, parseText sample.source.toList = .ok read ∧
        readComments sample.source.toList = .ok comments ∧
        sample.parse index = match attachComments sample.source.toList comments
            (if read.isEmpty then emptyBody else read) with
          | .ok body => .ok body
          | .error fault => .error (.splitCharacter fault) := by
  have hc : sample.source.toList.contains '\x00' = false := by simpa using hn
  rw [parse, hc]
  cases hread : parseText sample.source.toList with
  | error fault => exact .inl ⟨⟨_, rfl⟩, by simp⟩
  | ok read =>
    cases hcomments : readComments sample.source.toList with
    | error fault => exact .inl ⟨⟨_, rfl⟩, by simp⟩
    | ok comments => exact .inr ⟨read, comments, rfl, rfl, rfl⟩

/-- The number of a sample is for reports only. -/
theorem parse_index {sample : Sample} {index : Option Int} {body : List Stmt}
    (hn : '\x00' ∉ sample.source.toList) (h : sample.parse index = .ok body)
    (other : Option Int) : sample.parse other = .ok body := by
  obtain ⟨read, comments, hread, hcomments, hattach⟩ := parse_ok h
  rcases parse_eq sample other hn with ⟨-, hno⟩ | ⟨read', comments', hread', hcomments', he⟩
  · exact absurd ⟨⟨read, hread⟩, ⟨comments, hcomments⟩⟩ hno
  · rw [hread, Except.ok.injEq] at hread'
    rw [hcomments, Except.ok.injEq] at hcomments'
    rw [he, ← hread', ← hcomments', hattach]

theorem parse_of_splits {sample : Sample} (index : Option Int)
    (hn : '\x00' ∉ sample.source.toList) (h : sample.Splits) :
    ∃ fault, sample.parse index = .error (.splitCharacter fault) := by
  obtain ⟨hread, hcomments, hfits⟩ := h
  rcases parse_eq sample index hn with ⟨-, hno⟩ | ⟨read, comments, hread', -, he⟩
  · exact absurd ⟨⟨_, hread⟩, hcomments⟩ hno
  · rw [hread, Except.ok.injEq] at hread'
    subst hread'
    rw [he]
    cases hattach : attachComments sample.source.toList comments emptyBody with
    | error fault => exact ⟨fault, by simp [hattach]⟩
    | ok body => exact absurd ((succeeds_attach_emptyBody sample comments).mp ⟨body, hattach⟩) hfits

theorem parse_of_not_splits {sample : Sample} (index : Option Int)
    (hr : '\r' ∉ sample.source.toList) (hn : '\x00' ∉ sample.source.toList) (h : ¬ sample.Splits) :
    Succeeds (sample.parse index) ∨ ∃ report, sample.parse index = .error (.refused report) := by
  rcases parse_eq sample index hn with ⟨hrefused, -⟩ | ⟨read, comments, hread, hcomments, he⟩
  · exact .inr hrefused
  · left
    have hattach : Succeeds (attachComments sample.source.toList comments
        (if read.isEmpty then emptyBody else read)) := by
      cases read with
      | cons first rest => exact succeeds_attach_read hr hread comments
      | nil =>
        have hfits : sample.FitsPass := Classical.byContradiction fun hno =>
          h ⟨hread, ⟨comments, hcomments⟩, hno⟩
        exact (succeeds_attach_emptyBody sample comments).mpr hfits
    obtain ⟨body, hbody⟩ := hattach
    exact ⟨body, by rw [he, hbody]⟩

/-- A sample without code is read exactly if the statement that stands for it starts and ends at
characters. -/
theorem succeeds_parse_of_onlyComments {sample : Sample} (index : Option Int)
    (hr : '\r' ∉ sample.source.toList) (hn : '\x00' ∉ sample.source.toList)
    (h : OnlyComments sample.source.toList) :
    Succeeds (sample.parse index) ↔ sample.FitsPass := by
  have hempty := parseText_of_onlyComments hr h
  rcases parse_eq sample index hn with ⟨-, hno⟩ | ⟨read, comments, hread, -, he⟩
  · exact absurd ⟨⟨[], hempty⟩, succeeds_readComments h⟩ hno
  · rw [hempty, Except.ok.injEq] at hread
    subst hread
    rw [he, ← succeeds_attach_emptyBody sample comments]
    cases hattach : attachComments sample.source.toList comments emptyBody with
    | error fault => simp [hattach]
    | ok body => simp [hattach]

end Sample

end DocSuite
