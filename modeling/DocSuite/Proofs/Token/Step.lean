import DocSuite.Proofs.Token.Scan

/-!
What a step of the lexer can do. Main statement: a step moves on in the text and gives no token, one
without characters, a failure, or a part of the text that ends in the line where it is read; unless
it gives the last token, less is left to do behind it.
-/
namespace DocSuite.Syntax

open DocSuite.Text

namespace Lexer

variable {lexer next : Lexer} {between : Bool}

/-! ### Reading characters -/

@[simp] theorem rest_load : (lexer.load between).rest = lexer.rest := by
  unfold load
  split <;> rfl

@[simp] theorem atStart_load : (lexer.load between).atStart = lexer.atStart := by
  unfold load
  split <;> rfl

theorem broken_load (h : lexer.rest ≠ []) : (lexer.load between).broken = false := by
  unfold load
  split
  next => rfl
  next hb =>
    have he : lexer.rest.isEmpty = false := by simpa using h
    simpa [he] using hb

/-- Reads one character. -/
def readChar (between : Bool) (lexer : Lexer) (c : Char) : Lexer :=
  { lexer.load between with
    rest := (lexer.load between).rest.drop 1
    column := (lexer.load between).column + Utf8.width c
    broken := c == '\n' }

theorem readTo_eq (read rest : List Char) (h : lexer.rest = read ++ rest) :
    lexer.readTo between rest = { read.foldl (readChar between) lexer with rest } := by
  have hr : lexer.rest.take (lexer.rest.length - rest.length) = read := by
    rw [h]
    simp
  unfold readTo
  rw [hr]
  rfl

@[simp] theorem rest_readTo (rest : List Char) : (lexer.readTo between rest).rest = rest := rfl

/-- Reading changes what is left and where the lexer stands, and no more. -/
theorem exists_readTo (lexer : Lexer) (between : Bool) (rest : List Char) :
    ∃ line column broken shownFrom, lexer.readTo between rest =
      { lexer with rest, line, column, broken, shownFrom } := by
  have hfold (read : List Char) (lexer : Lexer) : ∃ rest line column broken shownFrom,
      read.foldl (readChar between) lexer =
        { lexer with rest, line, column, broken, shownFrom } := by
    induction read generalizing lexer with
    | nil => exact ⟨_, _, _, _, _, rfl⟩
    | cons c read ih =>
      obtain ⟨rest, line, column, broken, shownFrom, h⟩ := ih (lexer.readChar between c)
      refine ⟨rest, line, column, broken, shownFrom, ?_⟩
      rw [List.foldl_cons, h, readChar, load]
      split <;> rfl
  obtain ⟨_, line, column, broken, shownFrom, h⟩ :=
    hfold (lexer.rest.take (lexer.rest.length - rest.length)) lexer
  exact ⟨line, column, broken, shownFrom, congrArg (fun last : Lexer => { last with rest }) h⟩

@[simp] theorem atStart_readTo (rest : List Char) :
    (lexer.readTo between rest).atStart = lexer.atStart := by
  obtain ⟨_, _, _, _, h⟩ := exists_readTo lexer between rest
  rw [h]

@[simp] theorem brackets_readTo (rest : List Char) :
    (lexer.readTo between rest).brackets = lexer.brackets := by
  obtain ⟨_, _, _, _, h⟩ := exists_readTo lexer between rest
  rw [h]

theorem broken_readTo {read rest : List Char} {last : Char}
    (h : lexer.rest = read ++ last :: rest) (hl : last ≠ '\n') :
    (lexer.readTo between rest).broken = false := by
  rw [readTo_eq (read ++ [last]) rest (by simp [h]), List.foldl_append]
  simpa [readChar] using hl

/-! ### The middle of a line -/

/-- In the middle of a line, the line is not left. -/
def Ready (lexer : Lexer) : Prop :=
  lexer.atStart = false → lexer.rest ≠ [] → lexer.broken = false

theorem ready_load : Ready (lexer.load between) := fun _ h =>
  broken_load (by simpa using h)

/-- Reading up to something else than a line break leaves the lexer in the middle of a line. -/
theorem Ready.readTo (hr : Ready lexer) {read rest : List Char} (h : lexer.rest = read ++ rest)
    (hn : '\n' ∉ read) : Ready (lexer.readTo between rest) := by
  intro hs hne
  rcases List.eq_nil_or_concat read with rfl | ⟨before, last, rfl⟩
  · rw [readTo_eq [] rest h]
    refine hr ?_ (by rw [h]; exact hne)
    rwa [atStart_readTo] at hs
  · refine broken_readTo (by simpa using h) (fun he => hn ?_)
    simp [he]

/-! ### What is left to do -/

/-- No more steps than this are left. Each character that is left may have to be read, and one that
starts a line may change the indentation. -/
def size (lexer : Lexer) : Nat :=
  4 * lexer.rest.length + 3 * lexer.atStart.toNat + lexer.pendingIndent.toNat +
    lexer.pendingDedents + lexer.indents.length

@[simp] theorem size_load : (lexer.load between).size = lexer.size := by
  unfold load
  split <;> rfl

theorem size_readTo {read rest : List Char} (h : lexer.rest = read ++ rest) :
    (lexer.readTo between rest).size + 4 * read.length = lexer.size := by
  obtain ⟨_, _, _, _, hread⟩ := exists_readTo lexer between rest
  rw [hread]
  simp only [size, h, List.length_append]
  omega

/-! ### Steps -/

/-- The lexer reads on, and changes what it has noted of lines. -/
inductive Moves (lexer : Lexer) : Lexer → Prop
  | refl : Moves lexer lexer
  | load {next : Lexer} (between : Bool) (h : Moves lexer next) : Moves lexer (next.load between)
  | readTo {next : Lexer} (between : Bool) {read rest : List Char} (h : Moves lexer next)
      (hr : next.rest = read ++ rest) : Moves lexer (next.readTo between rest)
  | note {next : Lexer} (atStart blank : Bool) (indents : List (Nat × Nat)) (pendingIndent : Bool)
      (pendingDedents : Nat) (h : Moves lexer next) :
      Moves lexer { next with atStart, blank, indents, pendingIndent, pendingDedents }

theorem Moves.trans {last : Lexer} (h : Moves lexer next) (h' : Moves next last) :
    Moves lexer last := by
  induction h' with
  | refl => exact h
  | load between _ ih => exact ih.load between
  | readTo between _ hr ih => exact ih.readTo between hr
  | note atStart blank indents pendingIndent pendingDedents _ ih =>
    exact ih.note atStart blank indents pendingIndent pendingDedents

/-- What a step gives, and where it leaves the lexer. -/
inductive Goes (lexer : Lexer) : Option Token × Lexer → Prop
  | silent {next : Lexer} (h : Moves lexer next) (hr : next.Ready) (hs : next.size < lexer.size) :
      Goes lexer (none, next)
  | layout {mid next : Lexer} {kind : TokenKind} (hk : kind.isLayout = true) (h : Moves lexer mid)
      (h' : Moves mid next) (hr : next.Ready) (hs : next.size < lexer.size) :
      Goes lexer (some (mid.token kind [] mid), next)
  | finish {last : Lexer} (h : Moves lexer last) :
      Goes lexer (some (last.token .finish [] last), last)
  /-- A failure is in the line where the lexer stands, or at an open bracket. -/
  | failure {last : Lexer} {direct : Bool} {line : Nat} {fault : Fault} (h : Moves lexer last)
      (hl : line = last.line ∨ ∃ bracket ∈ last.brackets, line = bracket.2) :
      Goes lexer (last.failure direct line fault)
  /-- A token ends in the middle of a line. What brackets are open then, were open before or are
  opened in the line where it starts. -/
  | text {mid stop : Lexer} {kind : TokenKind} {between : Bool} {read rest : List Char}
      {last : Char} {brackets : List (Char × Nat)} (hk : kind.isFailure = false)
      (h : Moves lexer mid) (hb : mid.broken = false) (hr : mid.rest = read ++ last :: rest)
      (hl : last ≠ '\n') (hstop : stop = { mid.readTo between rest with brackets })
      (hbrackets : ∀ bracket ∈ brackets, bracket ∈ mid.brackets ∨ bracket.2 = mid.line)
      (hs : stop.size < lexer.size) :
      Goes lexer (some (mid.token kind (read ++ [last]) stop), stop)

theorem Goes.mono {mid : Lexer} {out : Option Token × Lexer} (h : Goes mid out)
    (hm : Moves lexer mid) (hs : mid.size ≤ lexer.size) : Goes lexer out := by
  cases h with
  | silent h hr hs' => exact .silent (hm.trans h) hr (Nat.lt_of_lt_of_le hs' hs)
  | layout hk h h' hr hs' => exact .layout hk (hm.trans h) h' hr (Nat.lt_of_lt_of_le hs' hs)
  | finish h => exact .finish (hm.trans h)
  | failure h hl => exact .failure (hm.trans h) hl
  | text hk h hb hr hl hstop hbrackets hs' =>
    exact .text hk (hm.trans h) hb hr hl hstop hbrackets (Nat.lt_of_lt_of_le hs' hs)

theorem goes_failure (direct : Bool) (fault : Fault) :
    Goes lexer (lexer.failure direct lexer.line fault) := .failure .refl (.inl rfl)

theorem goes_endFailure : Goes lexer lexer.endFailure := by
  unfold endFailure
  split
  next bracket line brackets hb =>
    exact .failure .refl (.inr ⟨_, by rw [hb]; exact List.mem_cons_self, rfl⟩)
  next => exact goes_failure _ _

/-- A token that is read in the middle of a line and that ends there. -/
theorem goes_token {kind : TokenKind} (hk : kind.isFailure = false) {read rest : List Char}
    {last : Char} (hb : lexer.broken = false) (hr : lexer.rest = read ++ last :: rest)
    (hl : last ≠ '\n') (brackets : List (Char × Nat))
    (hbrackets : ∀ bracket ∈ brackets, bracket ∈ lexer.brackets ∨ bracket.2 = lexer.line) :
    Goes lexer (some (lexer.token kind (read ++ [last])
      { lexer.readTo between rest with brackets }),
      { lexer.readTo between rest with brackets }) := by
  refine .text hk .refl hb hr hl rfl hbrackets ?_
  have hsize := @size_readTo lexer between (read ++ [last]) rest (by simp [hr])
  simp only [List.length_append, List.length_singleton] at hsize
  change (lexer.readTo between rest).size < lexer.size
  omega

/-- A token that leaves the brackets as they are. -/
theorem goes_plain {kind : TokenKind} (hk : kind.isFailure = false)
    {spelled read rest : List Char} {last : Char} (hb : lexer.broken = false)
    (hr : lexer.rest = read ++ last :: rest) (hl : last ≠ '\n') (hs : spelled = read ++ [last]) :
    Goes lexer (some (lexer.token kind spelled (lexer.readTo between rest)),
      lexer.readTo between rest) := by
  subst hs
  exact goes_token hk hb hr hl (lexer.readTo between rest).brackets fun bracket hm =>
    .inl (by rwa [brackets_readTo] at hm)

theorem goes_readName {c : Char} {cs : List Char} (hb : lexer.broken = false)
    (hr : lexer.rest = c :: cs) (hc : isNameChar c = true) : Goes lexer lexer.readName := by
  unfold readName
  dsimp only
  split
  · have hne : lexer.rest.takeWhile isNameChar ≠ [] := by simp [hr, hc]
    obtain ⟨read, last, hl⟩ := List.eq_nil_or_concat _ |>.resolve_left hne
    rw [List.concat_eq_append] at hl
    have hlast : last ≠ '\n' := by
      have hm : last ∈ lexer.rest.takeWhile isNameChar := by simp [hl]
      have := List.all_eq_true.mp List.all_takeWhile last hm
      rintro rfl
      exact absurd this (by decide)
    refine goes_plain (by split <;> rfl) hb ?_ hlast hl
    have hprefix := List.prefix_iff_eq_take.mp (List.takeWhile_prefix isNameChar (l := lexer.rest))
    have hsplit := List.take_append_drop (lexer.rest.takeWhile isNameChar).length lexer.rest
    rw [← hprefix] at hsplit
    calc lexer.rest = (read ++ [last]) ++
          lexer.rest.drop (lexer.rest.takeWhile isNameChar).length := by rw [← hl, hsplit]
      _ = read ++ last :: lexer.rest.drop (lexer.rest.takeWhile isNameChar).length := by simp
  · exact goes_failure _ _

/-- The characters in front of the rest. -/
theorem take_length_sub {cs read rest : List Char} (h : cs = read ++ rest) :
    cs.take (cs.length - rest.length) = read := by
  rw [h]
  simp

theorem goes_readNumber {c : Char} {cs : List Char} {rest : Except Fault (List Char)}
    (hb : lexer.broken = false) (hr : lexer.rest = c :: cs) (hc : c ≠ '\n')
    (hrest : ∀ more, rest = .ok more → Taken cs more) : Goes lexer (lexer.readNumber rest) := by
  unfold readNumber
  cases rest with
  | error fault => exact goes_failure _ _
  | ok rest =>
    obtain ⟨read, hread, hn⟩ := hrest rest rfl
    obtain ⟨before, last, hlast⟩ :=
      List.eq_nil_or_concat (c :: read) |>.resolve_left (List.cons_ne_nil c read)
    rw [List.concat_eq_append] at hlast
    have hl : last ≠ '\n' := by
      have hm : last ∈ c :: read := by simp [hlast]
      rintro rfl
      exact (List.mem_cons.mp hm).elim (fun he => hc he.symm) hn
    have hr' : lexer.rest = (before ++ [last]) ++ rest := by
      rw [hr, hread, ← List.cons_append, hlast]
    exact goes_plain rfl hb (by simpa using hr') hl (take_length_sub hr')

theorem goes_readString {letters body : List Char} {quote : Char} (hb : lexer.broken = false)
    (hr : lexer.rest = letters ++ quote :: body) (hq : quote ≠ '\n') :
    Goes lexer (lexer.readString quote body) := by
  unfold readString
  split
  next triple rest closed hp =>
    dsimp only
    split
    next hcl =>
      subst hcl
      have hread : ∃ read, body = read ++ quote :: rest := by
        split at hp
        next c d more =>
          split at hp
          next hcd =>
            simp only [Prod.mk.injEq] at hp
            obtain ⟨read, rfl⟩ := stringRest_closed (Prod.ext hp.2.1 hp.2.2)
            exact ⟨c :: d :: read, rfl⟩
          next =>
            simp only [Prod.mk.injEq] at hp
            exact stringRest_closed (Prod.ext hp.2.1 hp.2.2)
        next =>
          simp only [Prod.mk.injEq] at hp
          exact stringRest_closed (Prod.ext hp.2.1 hp.2.2)
      obtain ⟨read, rfl⟩ := hread
      have hr' : lexer.rest = (letters ++ quote :: read ++ [quote]) ++ rest := by simp [hr]
      exact goes_plain rfl hb (by simpa using hr') hq (take_length_sub hr')
    next => exact goes_failure _ _

theorem goes_operator {c : Char} {cs : List Char} (hb : lexer.broken = false)
    (hr : lexer.rest = c :: cs) (hc : c ≠ '\n') (brackets : List (Char × Nat))
    (hbrackets : ∀ bracket ∈ brackets, bracket ∈ lexer.brackets ∨ bracket.2 = lexer.line) :
    Goes lexer
      (let (kind, length) := match Terminal.operator? (c :: cs) with
          | some t => (TokenKind.terminal t, t.spelling.length)
          | none => (.other, if c = '<' ∧ cs.head? = some '>' then 2 else 1)
        let stop := { lexer.readTo false (lexer.rest.drop length) with brackets }
        (some (lexer.token kind (lexer.rest.take length) stop), stop)) := by
  have operator {kind : TokenKind} (hk : kind.isFailure = false) (spelled : List Char)
      {rest : List Char} (hs : ∃ read last, spelled = read ++ [last] ∧ last ≠ '\n')
      (hrest : lexer.rest = spelled ++ rest) :
      Goes lexer (some (lexer.token kind (lexer.rest.take spelled.length)
        { lexer.readTo false (lexer.rest.drop spelled.length) with brackets }),
        { lexer.readTo false (lexer.rest.drop spelled.length) with brackets }) := by
    obtain ⟨read, last, rfl, hlast⟩ := hs
    rw [hrest, List.take_left' rfl, List.drop_left' rfl]
    exact goes_token hk hb (by simpa using hrest) hlast brackets hbrackets
  cases ht : Terminal.operator? (c :: cs) with
  | some t =>
    obtain ⟨hne, hn, rest, hrest⟩ := operator?_spelling ht
    obtain ⟨read, last, hl⟩ := List.eq_nil_or_concat t.spelling |>.resolve_left hne
    rw [List.concat_eq_append] at hl
    exact operator rfl _ ⟨read, last, hl, fun he => hn (by simp [hl, he])⟩ (hr.trans hrest)
  | none =>
    dsimp only
    split
    next hlt =>
      obtain ⟨d, more, rfl⟩ := List.exists_cons_of_ne_nil
        (fun he : cs = [] => by simp [he] at hlt)
      have hd : d ≠ '\n' := by
        rintro rfl
        simp at hlt
      exact operator rfl [c, d] ⟨[c], d, rfl, hd⟩ hr
    next => exact operator rfl [c] ⟨[], c, rfl, hc⟩ hr

theorem goes_readOperator {c : Char} {cs : List Char} (hb : lexer.broken = false)
    (hr : lexer.rest = c :: cs) (hc : c ≠ '\n') : Goes lexer (lexer.readOperator c cs) := by
  have any := goes_operator hb hr hc
  unfold readOperator
  extract_lets operator'
  split
  · split
    · exact goes_failure _ _
    · refine any _ fun bracket hm => ?_
      rcases List.mem_cons.mp hm with rfl | hm
      · exact .inr rfl
      · exact .inl hm
  · split
    · split
      · exact goes_failure _ _
      next outer hbrackets =>
        split
        · refine any _ fun bracket hm => .inl ?_
          rw [hbrackets]
          exact List.mem_cons_of_mem _ hm
        · exact goes_failure _ _
    · split
      · exact any _ fun bracket hm => .inl hm
      · exact goes_failure _ _

/-! ### Indentation -/

/-- What follows the blanks at the start of a line. -/
def Indentation.rest : Indentation → List Char
  | .measured _ rest | .badContinuation rest => rest
  | .ended => []

theorem readIndentation_rest (m : Measure) (cs : List Char) :
    ∃ read, cs = read ++ (readIndentation m cs).rest := by
  fun_induction readIndentation m cs with
  | case1 m cs ih =>
    obtain ⟨read, hr⟩ := ih
    exact ⟨' ' :: read, congrArg (' ' :: ·) hr⟩
  | case2 m cs ih =>
    obtain ⟨read, hr⟩ := ih
    exact ⟨'\t' :: read, congrArg ('\t' :: ·) hr⟩
  | case3 m cs ih =>
    obtain ⟨read, hr⟩ := ih
    exact ⟨'\x0c' :: read, congrArg ('\x0c' :: ·) hr⟩
  | case4 m cs => exact ⟨'\\' :: '\n' :: cs, by simp [Indentation.rest]⟩
  | case5 m cs _ ih =>
    obtain ⟨read, hr⟩ := ih
    exact ⟨'\\' :: '\n' :: read, congrArg ('\\' :: '\n' :: ·) hr⟩
  | case6 m cs => exact ⟨['\\'], rfl⟩
  | case7 m cs => exact ⟨[], rfl⟩

/-- A new indentation brings a token for its start and one for its end. -/
theorem goes_indentTo {mid : Lexer} (column narrow : Nat) (h : Moves lexer mid) (hr : mid.Ready)
    (hs : mid.size + 2 < lexer.size) : Goes lexer (mid.indentTo column narrow) := by
  have hfails (fault : Fault) : Goes lexer (mid.failure false mid.line fault) :=
    (goes_failure false fault).mono h (by omega)
  unfold indentTo
  dsimp only
  split
  · split
    · exact .silent h hr (by omega)
    · exact hfails _
  · split
    · split
      · exact hfails _
      · split
        · exact hfails _
        · refine .silent (h.note _ _ ((column, narrow) :: mid.indents) true _) hr ?_
          simp only [size, List.length_cons, Bool.toNat_true] at *
          omega
    · split
      · exact hfails _
      · split
        · exact hfails _
        · refine .silent (h.note _ _ (mid.indents.dropWhile fun outer => column < outer.1) _
            (mid.indents.length -
              (mid.indents.dropWhile fun outer => column < outer.1).length)) hr ?_
          have hlength := (List.dropWhile_suffix (fun p : Nat × Nat => decide (column < p.1))
            (l := mid.indents)).length_le
          simp only [size] at *
          omega

theorem goes_openLine (hstart : lexer.atStart = true) : Goes lexer lexer.openLine := by
  unfold openLine
  dsimp only
  obtain ⟨read, hread⟩ := readIndentation_rest {} (lexer.load true).rest
  have hopen : Moves lexer { lexer.load true with atStart := false, blank := false } :=
    (Moves.refl.load true).note _ _ _ _ _
  have hsize : { lexer.load true with atStart := false, blank := false }.size + 3 = lexer.size := by
    rw [← @size_load lexer true]
    simp only [size, atStart_load, hstart, Bool.toNat_true, Bool.toNat_false]
    omega
  have hrest : { lexer.load true with atStart := false, blank := false }.rest =
      (lexer.load true).rest := rfl
  generalize { lexer.load true with atStart := false, blank := false } = mid at *
  have hbehind (rest : List Char) (hi : (readIndentation {} (lexer.load true).rest).rest = rest) :
      Moves lexer (mid.readTo true rest) ∧ (mid.readTo true rest).size + 3 ≤ lexer.size := by
    have hr : mid.rest = read ++ rest := by rw [hrest, hread, hi]
    have hless := @size_readTo mid true _ _ hr
    exact ⟨hopen.readTo true hr, by omega⟩
  split
  next hi =>
    obtain ⟨hmoves, hless⟩ := hbehind [] (congrArg Indentation.rest hi)
    exact goes_endFailure.mono hmoves (by omega)
  next rest hi =>
    obtain ⟨hmoves, hless⟩ := hbehind rest (congrArg Indentation.rest hi)
    exact (goes_failure _ _).mono hmoves (by omega)
  next m rest hi =>
    obtain ⟨hmoves, hless⟩ := hbehind rest (congrArg Indentation.rest hi)
    have hload := hmoves.load true
    rw [← @size_load _ true] at hless
    have hblank : Goes lexer (none, { (mid.readTo true rest).load true with blank := true }) :=
      .silent (hload.note _ true _ _ _) ready_load (by simp only [size] at *; omega)
    split
    · exact hblank
    · exact hblank
    · split
      · exact .silent hload ready_load (by omega)
      · split
        · exact goes_indentTo _ _ hload ready_load (by omega)
        · exact goes_indentTo _ _ hload ready_load (by omega)

/-! ### The step -/

theorem goes_comment (hr : Ready lexer) {cs : List Char} (hrest : lexer.rest = '#' :: cs) :
    Goes lexer (none, lexer.readTo true (cs.dropWhile (· != '\n'))) := by
  obtain ⟨comment, hc, hn⟩ := @Taken.dropWhile (· != '\n') (by decide) cs
  have hread : lexer.rest = ('#' :: comment) ++ cs.dropWhile (· != '\n') := by
    rw [hrest, List.cons_append, ← hc]
  have hless := @size_readTo lexer true _ _ hread
  rw [List.length_cons] at hless
  exact .silent (.readTo true .refl hread) (hr.readTo hread (by simpa using hn)) (by omega)

theorem goes_newline {cs : List Char} (hrest : lexer.rest = '\n' :: cs) (silent : Bool) :
    Goes lexer
      (let stop := { lexer.readTo true cs with atStart := true }
        if silent then (none, stop) else (some (lexer.token .newline [] lexer), stop)) := by
  have hread : lexer.rest = ['\n'] ++ cs := hrest
  have hstop : Moves lexer { lexer.readTo true cs with atStart := true } :=
    (Moves.refl.readTo true hread).note true _ _ _ _
  have hstart : Ready { lexer.readTo true cs with atStart := true } := fun he => by simp at he
  have hless : { lexer.readTo true cs with atStart := true }.size < lexer.size := by
    have := @size_readTo lexer true _ _ hread
    simp only [size, Bool.toNat_true, List.length_singleton] at *
    omega
  cases silent with
  | true => exact .silent hstop hstart hless
  | false => exact .layout rfl .refl hstop hstart hless

theorem goes_continuation {cs : List Char} (hrest : lexer.rest = '\\' :: '\n' :: cs) :
    Goes lexer (if cs.isEmpty then (lexer.readTo false []).endFailure
      else (none, (lexer.readTo false cs).load false)) := by
  have hread : lexer.rest = ['\\', '\n'] ++ cs := hrest
  have hless := @size_readTo lexer false _ _ hread
  simp only [List.length_cons] at hless
  split
  next hempty =>
    obtain rfl := List.isEmpty_iff.mp hempty
    exact goes_endFailure.mono (.readTo false .refl hread) (by omega)
  next =>
    exact .silent ((Moves.refl.readTo false hread).load false) ready_load
      (by rw [size_load]; omega)

theorem goes_step (hr : Ready lexer) : Goes lexer lexer.step := by
  unfold step
  split
  next hstart => exact goes_openLine hstart
  next hstart =>
    split
    next hindent =>
      refine .layout rfl .refl (.note _ _ _ false _ .refl) hr ?_
      simp only [size, hindent, Bool.toNat_true, Bool.toNat_false]
      omega
    · split
      next hdedents =>
        refine .layout rfl .refl (.note _ _ _ _ (lexer.pendingDedents - 1) .refl) hr ?_
        simp only [size]
        omega
      · -- What is read behind the blanks is read from where they end.
        obtain ⟨blanks, hblanks, hn⟩ := @Taken.dropWhile isTokenBlank (by decide) lexer.rest
        have hmoves : Moves lexer (lexer.readTo true (lexer.rest.dropWhile isTokenBlank)) :=
          .readTo true .refl hblanks
        have hless := @size_readTo lexer true _ _ hblanks
        have hready := @Ready.readTo _ true hr _ _ hblanks hn
        have hs : (lexer.readTo true (lexer.rest.dropWhile isTokenBlank)).atStart = false := by
          rw [atStart_readTo]
          simpa using hstart
        dsimp only
        generalize lexer.readTo true (lexer.rest.dropWhile isTokenBlank) = mid at *
        refine Goes.mono ?_ hmoves (by omega)
        split
        · split
          · exact .finish .refl
          · exact goes_endFailure
        next cs hrest => exact goes_comment hready hrest
        next cs hrest => exact goes_newline hrest _
        next cs hrest => exact goes_continuation hrest
        · exact goes_failure _ _
        next c cs _ hc _ _ hrest =>
          have hb := hready hs (by simp [hrest])
          split
          next quote body hstring =>
            obtain ⟨hq, letters, hl⟩ := stringStart?_eq hstring
            refine goes_readString hb (hrest.trans hl) ?_
            rcases hq with rfl | rfl <;> decide
          next =>
            split
            next hname => exact goes_readName hb hrest (Bool.and_eq_true_iff.mp hname).1
            next =>
              split
              · exact goes_readNumber hb hrest hc fun _ => taken_numberRest
              · split
                · split
                  · exact goes_readNumber hb hrest hc fun _ => taken_fractionEnd
                  · exact goes_readOperator hb hrest hc
                · exact goes_readOperator hb hrest hc

theorem tokens_of_none (h : lexer.step = (none, next)) (steps : Nat) :
    lexer.tokens (steps + 1) = next.tokens steps := by
  rw [tokens, h]

end Lexer

end DocSuite.Syntax
