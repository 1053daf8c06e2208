import DocSuite.Proofs.Grammar.End
import DocSuite.Proofs.Result
import DocSuite.Proofs.Split
import DocSuite.Proofs.Token.Span
import DocSuite.Sample.Comments
import DocSuite.Syntax.Parser

/-!
Texts of blank lines and comments. Main statement: such a text has no statements, and its comments
can be read.
-/
namespace DocSuite.Syntax

open DocSuite.Text

theorem cases_of_isTokenBlank {c : Char} (h : Lexer.isTokenBlank c = true) :
    c = ' ' ∨ c = '\t' ∨ c = '\x0c' := by
  simpa [Lexer.isTokenBlank, or_assoc] using h

/-- The line holds at most a comment. -/
def IsSilent (line : List Char) : Prop :=
  ∀ c ∈ (line.dropWhile Lexer.isTokenBlank).head?, c = '#'

-- By the optional character and not by all characters, of which there are finitely many.
instance : DecidablePred IsSilent := fun line =>
  Option.decidableForallMem (line.dropWhile Lexer.isTokenBlank).head?

/-- A line of blanks, or of blanks and a comment behind them. -/
theorem IsSilent.cases {line : List Char} (h : IsSilent line) :
    ∃ blanks, (∀ c ∈ blanks, Lexer.isTokenBlank c = true) ∧
      (line = blanks ∨ ∃ text, line = blanks ++ '#' :: text) := by
  refine ⟨line.takeWhile Lexer.isTokenBlank,
    List.all_eq_true.mp List.all_takeWhile, ?_⟩
  have hsplit : line.takeWhile Lexer.isTokenBlank ++ line.dropWhile Lexer.isTokenBlank = line :=
    List.takeWhile_append_dropWhile
  cases hd : line.dropWhile Lexer.isTokenBlank with
  | nil =>
    left
    rw [hd, List.append_nil] at hsplit
    exact hsplit.symm
  | cons c text =>
    right
    rw [IsSilent, hd] at h
    have hc : c = '#' := h c rfl
    exact ⟨text, by rw [← hc, ← hd, hsplit]⟩

/-! ### Lines of a text -/

/-- Lines with an end each. -/
def endedLines (lines : List (List Char)) : List Char := lines.flatMap (· ++ ['\n'])

/-- A text with normal line ends is the first line of a source and some of the others. -/
theorem normalize_eq_lines {source : List Char} (h : '\r' ∉ source) : ∃ first rest more,
    splitAt '\n' source = first :: rest ∧ (∀ line ∈ more, line ∈ rest) ∧
      Source.normalize source = endedLines (first :: more) := by
  fun_induction Source.normalize source with
  | case1 => exact ⟨[], [], [], rfl, by simp, rfl⟩
  | case2 => exact ⟨[], [[]], [], rfl, by simp, rfl⟩
  | case3 => simp at h
  | case4 => simp at h
  | case5 => simp at h
  | case6 => simp at h
  | case7 c hn _ =>
    have hc : c ≠ '\n' := fun he => hn (by rw [he])
    exact ⟨[c], [], [], by simp [splitAt, hc], by simp, rfl⟩
  | case8 c cs =>
    rename_i ih
    obtain ⟨first, rest, more, hs, hm, hn⟩ := ih fun hr => h (List.mem_cons_of_mem _ hr)
    by_cases hc : c = '\n'
    · subst hc
      refine ⟨[], first :: rest, first :: more, by rw [splitAt, if_pos rfl, hs], ?_, ?_⟩
      · exact List.forall_mem_cons.mpr
          ⟨List.mem_cons_self, fun line hl => List.mem_cons_of_mem _ (hm line hl)⟩
      · rw [hn]
        rfl
    · obtain ⟨first', rest', hs', hcons⟩ := splitAt_cons_ne hc cs
      rw [hs, List.cons.injEq] at hs'
      refine ⟨c :: first, rest, more, by rw [hcons, hs'.1, hs'.2], hm, ?_⟩
      rw [hn]
      rfl

/-! ### Tokens -/

namespace Lexer

/-- No indentation and no bracket was read, at the start of a line or in a line without code. -/
structure Idle (isStart isBlank : Bool) (lexer : Lexer) : Prop where
  atStart : lexer.atStart = isStart
  blank : lexer.blank = isBlank
  indents : lexer.indents = []
  pendingIndent : lexer.pendingIndent = false
  pendingDedents : lexer.pendingDedents = 0
  brackets : lexer.brackets = []

variable {lexer : Lexer} {isStart isBlank : Bool}

theorem Idle.load (h : Idle isStart isBlank lexer) (between : Bool) :
    Idle isStart isBlank (lexer.load between) := by
  unfold Lexer.load
  split
  · exact ⟨h.atStart, h.blank, h.indents, h.pendingIndent, h.pendingDedents, h.brackets⟩
  · exact h

theorem Idle.readTo (h : Idle isStart isBlank lexer) (between : Bool) (rest : List Char) :
    Idle isStart isBlank (lexer.readTo between rest) := by
  have hfold (read : List Char) : Idle isStart isBlank (read.foldl (readChar between) lexer) := by
    induction read generalizing lexer with
    | nil => exact h
    | cons c read ih =>
      have hl := h.load between
      exact ih ⟨hl.atStart, hl.blank, hl.indents, hl.pendingIndent, hl.pendingDedents, hl.brackets⟩
  have hr := hfold (lexer.rest.take (lexer.rest.length - rest.length))
  exact ⟨hr.atStart, hr.blank, hr.indents, hr.pendingIndent, hr.pendingDedents, hr.brackets⟩

theorem readIndentation_blanks {blanks : List Char} (hb : ∀ c ∈ blanks, isTokenBlank c = true)
    {rest : List Char} (hr : ∀ c ∈ rest.head?, c = '#' ∨ c = '\n') (m : Measure) :
    ∃ m', readIndentation m (blanks ++ rest) = .measured m' rest := by
  induction blanks generalizing m with
  | nil =>
    cases rest with
    | nil => exact ⟨m, rfl⟩
    | cons c rest =>
      rcases hr c rfl with rfl | rfl
      · exact ⟨m, rfl⟩
      · exact ⟨m, rfl⟩
  | cons c blanks ih =>
    rw [List.forall_mem_cons] at hb
    rcases cases_of_isTokenBlank hb.1 with rfl | rfl | rfl
    · exact ih hb.2 _
    · exact ih hb.2 _
    · exact ih hb.2 _

/-- At the start of a line, blanks are passed over. -/
theorem step_blanks (h : Idle true isBlank lexer) {blanks rest : List Char} {c : Char}
    (hb : ∀ c ∈ blanks, isTokenBlank c = true) (hc : c = '#' ∨ c = '\n')
    (hr : lexer.rest = blanks ++ c :: rest) :
    ∃ next, lexer.step = (none, next) ∧ Idle false true next ∧ next.rest = c :: rest := by
  have hhead : ∀ d ∈ (c :: rest).head?, d = '#' ∨ d = '\n' := by simpa using hc
  obtain ⟨m, hm⟩ := readIndentation_blanks hb hhead {}
  have hmeasured : readIndentation {} (lexer.load true).rest = .measured m (c :: rest) := by
    rw [rest_load, hr, hm]
  have hl := h.load true
  have hopen : Idle false false { lexer.load true with atStart := false, blank := false } :=
    ⟨rfl, rfl, hl.indents, hl.pendingIndent, hl.pendingDedents, hl.brackets⟩
  have hread := (hopen.readTo true (c :: rest)).load true
  rw [step, if_pos h.atStart, openLine]
  simp only [hmeasured]
  rcases hc with rfl | rfl
  · exact ⟨_, rfl, ⟨hread.atStart, rfl, hread.indents, hread.pendingIndent, hread.pendingDedents,
      hread.brackets⟩, rest_load⟩
  · exact ⟨_, rfl, ⟨hread.atStart, rfl, hread.indents, hread.pendingIndent, hread.pendingDedents,
      hread.brackets⟩, rest_load⟩

theorem step_comment (h : Idle false true lexer) {text rest : List Char} (ht : '\n' ∉ text)
    (hr : lexer.rest = '#' :: (text ++ '\n' :: rest)) :
    ∃ next, lexer.step = (none, next) ∧ Idle false true next ∧ next.rest = '\n' :: rest := by
  have hdrop : lexer.rest.dropWhile isTokenBlank = '#' :: (text ++ '\n' :: rest) := by
    rw [hr]
    rfl
  have hend : (text ++ '\n' :: rest).dropWhile (· != '\n') = '\n' :: rest := by
    have htext : ∀ c ∈ text, (c != '\n') = true := fun c hc => by
      simpa using fun he : c = '\n' => ht (he ▸ hc)
    rw [List.dropWhile_append_of_pos htext]
    rfl
  rw [step]
  simp only [h.atStart, h.pendingIndent, h.pendingDedents, hdrop, rest_readTo, hend]
  exact ⟨_, rfl, (h.readTo true _).readTo true _, rfl⟩

theorem step_break (h : Idle false true lexer) {rest : List Char} (hr : lexer.rest = '\n' :: rest) :
    ∃ next, lexer.step = (none, next) ∧ Idle true true next ∧ next.rest = rest := by
  have hdrop : lexer.rest.dropWhile isTokenBlank = '\n' :: rest := by
    rw [hr]
    rfl
  have hread := h.readTo true ('\n' :: rest)
  have hbehind := hread.readTo true rest
  rw [step]
  simp only [h.atStart, h.pendingIndent, h.pendingDedents, hdrop, rest_readTo, hread.blank]
  exact ⟨_, rfl, ⟨rfl, hbehind.blank, hbehind.indents, hbehind.pendingIndent,
    hbehind.pendingDedents, hbehind.brackets⟩, rfl⟩

theorem step_end (h : Idle true isBlank lexer) (hr : lexer.rest = []) :
    ∃ next, lexer.step = (none, next) ∧ Idle false false next ∧ next.rest = [] := by
  have hmeasured : readIndentation {} (lexer.load true).rest = .measured {} [] := by
    rw [rest_load, hr]
    rfl
  have hl := h.load true
  have hopen : Idle false false { lexer.load true with atStart := false, blank := false } :=
    ⟨rfl, rfl, hl.indents, hl.pendingIndent, hl.pendingDedents, hl.brackets⟩
  have hread := (hopen.readTo true []).load true
  rw [step, if_pos h.atStart, openLine]
  simp only [hmeasured, hread.brackets, indentTo, hread.indents]
  exact ⟨_, rfl, hread, rest_load⟩

theorem step_finish (h : Idle false isBlank lexer) (hr : lexer.rest = []) :
    ∃ token next, lexer.step = (some token, next) ∧ token.kind = .finish := by
  have hdrop : lexer.rest.dropWhile isTokenBlank = [] := by
    rw [hr]
    rfl
  have hread := h.readTo true []
  rw [step]
  simp only [h.atStart, h.pendingIndent, h.pendingDedents, hdrop, rest_readTo, hread.brackets]
  exact ⟨_, _, rfl, rfl⟩

/-- Each line takes three steps at most, and a step for each of them is left over. -/
theorem tokens_endedLines {lines : List (List Char)}
    (h : ∀ line ∈ lines, IsSilent line ∧ '\n' ∉ line) (hi : Idle true isBlank lexer)
    (hr : lexer.rest = endedLines lines) {steps : Nat} (hs : 3 * lexer.rest.length + 2 ≤ steps) :
    ∃ token, lexer.tokens steps = [token] ∧ token.kind = .finish := by
  induction lines generalizing isBlank lexer steps with
  | nil =>
    obtain ⟨steps, rfl⟩ : ∃ n, steps = n + 2 := ⟨steps - 2, by omega⟩
    obtain ⟨next, hnext, hidle, hrest⟩ := step_end hi hr
    obtain ⟨token, last, hlast, hk⟩ := step_finish hidle hrest
    refine ⟨token, ?_, hk⟩
    rw [tokens_of_none hnext]
    simp only [tokens, hlast, hk]
  | cons line lines ih =>
    rw [List.forall_mem_cons] at h
    obtain ⟨⟨hsilent, hbreak⟩, hlines⟩ := h
    have htext : lexer.rest = line ++ '\n' :: endedLines lines := by
      rw [hr, endedLines, List.flatMap_cons, List.append_assoc]
      rfl
    have hlength : lexer.rest.length = line.length + 1 + (endedLines lines).length := by
      rw [htext, List.length_append, List.length_cons]
      omega
    have hgo {last : Lexer} (hl : Idle false true last)
        (hrest : last.rest = '\n' :: endedLines lines) {n : Nat}
        (hn : 3 * (endedLines lines).length + 3 ≤ n) :
        ∃ token, last.tokens n = [token] ∧ token.kind = .finish := by
      obtain ⟨n, rfl⟩ : ∃ k, n = k + 1 := ⟨n - 1, by omega⟩
      obtain ⟨next, hnext, hidle, hrest⟩ := step_break hl hrest
      rw [tokens_of_none hnext]
      exact ih hlines hidle hrest (by rw [hrest]; omega)
    obtain ⟨blanks, hb, hline⟩ := hsilent.cases
    obtain ⟨steps, rfl⟩ : ∃ n, steps = n + 2 := ⟨steps - 2, by omega⟩
    rcases hline with rfl | ⟨text, rfl⟩
    · obtain ⟨next, hnext, hidle, hrest⟩ := step_blanks hi hb (.inr rfl) htext
      rw [tokens_of_none hnext]
      refine hgo hidle hrest ?_
      omega
    · have htext' : '\n' ∉ text := fun hn => hbreak (by simp [hn])
      rw [List.append_assoc] at htext
      obtain ⟨next, hnext, hidle, hrest⟩ := step_blanks hi hb (.inl rfl) htext
      obtain ⟨last, hlast, hidle', hrest'⟩ := step_comment hidle htext' hrest
      rw [tokens_of_none hnext, tokens_of_none hlast]
      refine hgo hidle' hrest' ?_
      simp only [List.length_append, List.length_cons] at hlength
      omega

end Lexer

/-- Each line is blank or a comment. -/
def OnlyComments (source : List Char) : Prop := ∀ line ∈ splitAt '\n' source, IsSilent line

instance : DecidablePred OnlyComments := fun source =>
  inferInstanceAs (Decidable (∀ line ∈ splitAt '\n' source, IsSilent line))

/-- A text of comments has no statements. -/
theorem parseText_of_onlyComments {source : List Char} (hr : '\r' ∉ source)
    (h : OnlyComments source) : parseText source = .ok [] := by
  obtain ⟨first, rest, more, hs, hm, hn⟩ := normalize_eq_lines hr
  have hlines : ∀ line ∈ first :: more, IsSilent line ∧ '\n' ∉ line := by
    have hsub : ∀ line ∈ first :: more, line ∈ splitAt '\n' source := by
      rw [hs]
      exact List.forall_mem_cons.mpr
        ⟨List.mem_cons_self, fun line hl => List.mem_cons_of_mem _ (hm line hl)⟩
    exact fun line hl => ⟨h line (hsub line hl), not_mem_of_mem_splitAt line (hsub line hl)⟩
  have hidle : Lexer.Idle true false (Lexer.start 1 (Source.normalize source)) :=
    ⟨rfl, rfl, rfl, rfl, rfl, rfl⟩
  have hsteps : 3 * (Lexer.start 1 (Source.normalize source)).rest.length + 2 ≤
      4 * (Source.normalize source).length + 10 := by
    simp only [Lexer.start]
    omega
  obtain ⟨token, htokens, hk⟩ := Lexer.tokens_endedLines hlines hidle hn hsteps
  rw [← tokensOf] at htokens
  rw [parseText]
  refine Grammar.parse_file_of_finish _ ?_
  simp only [htokens]
  exact hk

end DocSuite.Syntax

/-! ### Comments -/

namespace DocSuite

open DocSuite.Syntax DocSuite.Text

namespace CommentReader

/-- No statement is open. -/
structure Closed (state : State) : Prop where
  depth : state.depth = 0
  continued : state.continued = false
  string : state.string = none

theorem measure_blanks {blanks : List Char} (hb : ∀ c ∈ blanks, Lexer.isTokenBlank c = true)
    {rest : List Char} (hr : ∀ c ∈ rest.head?, c = '#' ∨ c = '\n') (column : Nat) :
    (measure column (blanks ++ rest)).2 = rest := by
  induction blanks generalizing column with
  | nil =>
    cases rest with
    | nil => rfl
    | cons c rest =>
      rcases hr c rfl with rfl | rfl
      · rfl
      · rfl
  | cons c blanks ih =>
    rw [List.forall_mem_cons] at hb
    rcases cases_of_isTokenBlank hb.1 with rfl | rfl | rfl
    · exact ih hb.2 _
    · exact ih hb.2 _
    · exact ih hb.2 _

theorem readStart_silent {line stop : List Char} (h : IsSilent line)
    (hs : stop = [] ∨ stop = ['\n']) (number : Nat) {state : State} (hc : Closed state) :
    ∃ next, readStart number state (line ++ stop) = .ok next ∧ Closed next := by
  obtain ⟨blanks, hb, hline⟩ := h.cases
  rcases hline with rfl | ⟨text, rfl⟩
  · have hstop : ∀ c ∈ stop.head?, c = '#' ∨ c = '\n' := by
      rcases hs with rfl | rfl <;> simp
    have hm := measure_blanks hb hstop 0
    rcases hmeasure : measure 0 (line ++ stop) with ⟨column, rest⟩
    obtain rfl : rest = stop := by rwa [hmeasure] at hm
    refine ⟨state, ?_, hc⟩
    rcases hs with rfl | rfl
    · rw [readStart, hmeasure]
    · rw [readStart, hmeasure]
      exact if_pos (.inr rfl)
  · rw [List.append_assoc, List.cons_append]
    have hhash : ∀ c ∈ ('#' :: (text ++ stop)).head?, c = '#' ∨ c = '\n' := by simp
    have hm := measure_blanks hb hhash 0
    rcases hmeasure : measure 0 (blanks ++ '#' :: (text ++ stop)) with ⟨column, rest⟩
    obtain rfl : rest = '#' :: (text ++ stop) := by rwa [hmeasure] at hm
    rw [readStart, hmeasure]
    exact ⟨_, rfl, ⟨hc.depth, hc.continued, hc.string⟩⟩

theorem succeeds_readLines {lines : List (List Char)}
    (h : ∀ line ∈ lines, ∃ text, IsSilent text ∧ (line = text ∨ line = text ++ ['\n']))
    (number : Nat) {state : State} (hc : Closed state) :
    Succeeds (readLines number state lines) := by
  induction lines generalizing number state with
  | nil => simp [readLines, hc.string, hc.depth, hc.continued]
  | cons line lines ih =>
    rw [List.forall_mem_cons] at h
    obtain ⟨⟨text, hsilent, hline⟩, hlines⟩ := h
    have hstart : ∃ next, readStart number state line = .ok next ∧ Closed next := by
      rcases hline with rfl | rfl
      · simpa using readStart_silent hsilent (.inl rfl) number hc
      · exact readStart_silent hsilent (.inr rfl) number hc
    obtain ⟨next, hnext, hclosed⟩ := hstart
    simp only [readLines, hc.string, hc.depth, hc.continued, hnext]
    exact ih hlines _ hclosed

end CommentReader

/-- The line is one of some texts, with a line end or without. -/
def IsLineOf (texts : List (List Char)) (line : List Char) : Prop :=
  ∃ text ∈ texts, line = text ∨ line = text ++ ['\n']

theorem IsLineOf.cons {texts : List (List Char)} {line : List Char} (h : IsLineOf texts line)
    (text : List Char) : IsLineOf (text :: texts) line := by
  obtain ⟨other, ho, hline⟩ := h
  exact ⟨other, List.mem_cons_of_mem _ ho, hline⟩

/-- The first line with its end, and the others. There is no line behind the last end. -/
theorem linesWithEnds_cases (source : List Char) : ∃ first rest,
    splitAt '\n' source = first :: rest ∧
      (linesWithEnds source = [] ∧ first = [] ∨
        ∃ line lines, linesWithEnds source = line :: lines ∧
          (line = first ∨ line = first ++ ['\n']) ∧ ∀ other ∈ lines, IsLineOf rest other) := by
  induction source with
  | nil => exact ⟨[], [], rfl, .inl ⟨rfl, rfl⟩⟩
  | cons c cs ih =>
    obtain ⟨first, rest, hs, hends⟩ := ih
    by_cases hc : c = '\n'
    · subst hc
      have hothers : ∀ other ∈ linesWithEnds cs, IsLineOf (first :: rest) other := by
        rcases hends with ⟨hnil, -⟩ | ⟨line, lines, hcons, hline, hlines⟩
        · simp [hnil]
        · rw [hcons]
          exact List.forall_mem_cons.mpr ⟨⟨first, List.mem_cons_self, hline⟩,
            fun other ho => (hlines other ho).cons first⟩
      exact ⟨[], first :: rest, by rw [splitAt, if_pos rfl, hs], .inr
        ⟨['\n'], linesWithEnds cs, by rw [linesWithEnds, if_pos rfl], .inr rfl, hothers⟩⟩
    · obtain ⟨first', rest', hs', hsplit⟩ := splitAt_cons_ne hc cs
      rw [hs, List.cons.injEq] at hs'
      refine ⟨c :: first, rest, by rw [hsplit, hs'.1, hs'.2], .inr ?_⟩
      rw [linesWithEnds, if_neg hc]
      rcases hends with ⟨hnil, rfl⟩ | ⟨line, lines, hcons, hline, hlines⟩
      · rw [hnil]
        exact ⟨[c], [], rfl, .inl rfl, by simp⟩
      · rw [hcons]
        refine ⟨c :: line, lines, rfl, ?_, hlines⟩
        rcases hline with rfl | rfl
        · exact .inl rfl
        · exact .inr rfl

theorem isLineOf_linesWithEnds (source : List Char) :
    ∀ line ∈ linesWithEnds source, IsLineOf (splitAt '\n' source) line := by
  obtain ⟨first, rest, hs, hends⟩ := linesWithEnds_cases source
  rw [hs]
  rcases hends with ⟨hnil, -⟩ | ⟨line, lines, hcons, hline, hlines⟩
  · simp [hnil]
  · rw [hcons]
    exact List.forall_mem_cons.mpr ⟨⟨first, List.mem_cons_self, hline⟩,
      fun other ho => (hlines other ho).cons first⟩

/-- The comments of a text without code can be read. -/
theorem succeeds_readComments {source : List Char} (h : OnlyComments source) :
    Succeeds (readComments source) := by
  have hlines : ∀ line ∈ linesWithEnds source,
      ∃ text, IsSilent text ∧ (line = text ∨ line = text ++ ['\n']) := by
    intro line hl
    obtain ⟨text, ht, hline⟩ := isLineOf_linesWithEnds source line hl
    exact ⟨text, h text ht, hline⟩
  have hclosed : CommentReader.Closed {} := ⟨rfl, rfl, rfl⟩
  simpa [readComments] using CommentReader.succeeds_readLines hlines 1 hclosed

end DocSuite
