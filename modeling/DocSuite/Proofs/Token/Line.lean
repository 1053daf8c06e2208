import DocSuite.Proofs.Place
import DocSuite.Proofs.Token.Step

/-!
Lines of tokens. Main statement: the tokens of a text end with its end or with a failure, and what
each of them spells or finds wrong is in lines of the text.
-/
namespace DocSuite.Syntax

open DocSuite.Text

/-! ### Tokens in lines -/

/-- The token is in lines of which something holds, as far as it reaches. -/
structure Token.InLines (p : Nat → Prop) (token : Token) : Prop where
  spelled : ∀ k ≤ token.text.count '\n', p (token.line + k)
  /-- Lines do not end otherwise. -/
  plain : '\r' ∉ token.text
  failure : ∀ reason, token.kind = .failure reason →
    p reason.line ∧ ∀ bracket ∈ reason.opening, p bracket.2

theorem Token.InLines.line {p : Nat → Prop} {token : Token} (h : token.InLines p) : p token.line :=
  h.spelled 0 (Nat.zero_le _)

/-- The token is the last one of a text. -/
def Token.IsLast (token : Token) : Prop := token.kind = .finish ∨ token.kind.isFailure = true

/-- The lines of a text, from the first one up to another one. -/
def Between (first stop line : Nat) : Prop := first ≤ line ∧ line < stop

namespace Lexer

/-- What is left of the text ends in front of a line. -/
structure Within (first stop : Nat) (lexer : Lexer) : Prop where
  line : lexer.line + lexer.broken.toNat + lexer.rest.count '\n' = stop
  first_le : first ≤ lexer.line
  broken : lexer.rest = [] → lexer.broken = true
  last : ∀ c ∈ lexer.rest.getLast?, c = '\n'
  plain : '\r' ∉ lexer.rest
  brackets : ∀ bracket ∈ lexer.brackets, Between first stop bracket.2

variable {first stop : Nat} {lexer next : Lexer} {between : Bool}

theorem count_pos {rest : List Char} (h : ∀ c ∈ rest.getLast?, c = '\n') (hne : rest ≠ []) :
    0 < rest.count '\n' := by
  have hlast := h _ (List.getLast?_eq_some_getLast hne)
  exact List.count_pos_iff.mpr (hlast ▸ List.getLast_mem hne)

namespace Within

theorem line_between (h : lexer.Within first stop) : Between first stop lexer.line := by
  refine ⟨h.first_le, ?_⟩
  have hline := h.line
  by_cases hr : lexer.rest = []
  · rw [h.broken hr, Bool.toNat_true] at hline
    omega
  · have := count_pos h.last hr
    omega

theorem load (h : lexer.Within first stop) : (lexer.load between).Within first stop := by
  unfold Lexer.load
  split
  next hb =>
    rw [Bool.and_eq_true, Bool.not_eq_true', List.isEmpty_eq_false_iff] at hb
    have hline := h.line
    rw [hb.1, Bool.toNat_true] at hline
    exact ⟨by simpa using hline, Nat.le_succ_of_le h.first_le, fun he => absurd he hb.2, h.last,
      h.plain, h.brackets⟩
  next => exact h

theorem readChar (h : lexer.Within first stop) {c : Char} {rest : List Char}
    (hr : lexer.rest = c :: rest) : (lexer.readChar between c).Within first stop := by
  have hl := @load _ _ _ between h
  have hb : (lexer.load between).broken = false := broken_load (by simp [hr])
  have hrest : (lexer.load between).rest = c :: rest := by rw [rest_load, hr]
  unfold Lexer.readChar
  generalize lexer.load between = loaded at *
  have hline := hl.line
  have hlast := hl.last
  have hplain := hl.plain
  rw [hb, hrest, List.count_cons, Bool.toNat_false] at hline
  rw [hrest, List.getLast?_cons] at hlast
  rw [hrest, List.mem_cons, not_or] at hplain
  refine ⟨?_, hl.first_le, fun he => ?_, fun d hd => hlast d ?_, ?_, hl.brackets⟩
  · simp only [hrest, List.drop_one, List.tail_cons]
    cases hc : c == '\n' <;> simp only [hc, Bool.toNat_true, Bool.toNat_false, if_true,
      Bool.false_eq_true, if_false] at hline ⊢ <;> omega
  · simp only [hrest, List.drop_one, List.tail_cons] at he
    simpa [he] using hlast
  · simp only [hrest, List.drop_one, List.tail_cons, Option.mem_def] at hd
    simp [hd]
  · simpa [hrest] using hplain.2

theorem readTo (h : lexer.Within first stop) {read rest : List Char}
    (hr : lexer.rest = read ++ rest) : (lexer.readTo between rest).Within first stop := by
  have hfold : (read.foldl (Lexer.readChar between) lexer).Within first stop ∧
      (read.foldl (Lexer.readChar between) lexer).rest = rest := by
    induction read generalizing lexer with
    | nil => exact ⟨h, hr⟩
    | cons c read ih =>
      refine ih (h.readChar hr) ?_
      simp only [Lexer.readChar, rest_load, hr, List.cons_append, List.drop_one, List.tail_cons]
  obtain ⟨hwithin, hrest⟩ := hfold
  rw [readTo_eq read rest hr, ← hrest]
  exact hwithin

theorem moves (h : lexer.Within first stop) (hm : Moves lexer next) : next.Within first stop := by
  induction hm with
  | refl => exact h
  | load _ _ ih => exact ih.load
  | readTo _ _ hr ih => exact ih.readTo hr
  | note _ _ _ _ _ _ ih => exact ⟨ih.line, ih.first_le, ih.broken, ih.last, ih.plain, ih.brackets⟩

/-- A token without characters. -/
theorem inLines_layout (h : lexer.Within first stop) {kind : TokenKind} (next : Lexer)
    (hk : ∀ reason, kind = .failure reason → Between first stop reason.line ∧
      ∀ bracket ∈ reason.opening, Between first stop bracket.2) :
    (lexer.token kind [] next).InLines (Between first stop) where
  spelled k hk := by
    obtain rfl : k = 0 := Nat.le_zero.mp hk
    exact h.line_between
  plain := List.not_mem_nil
  failure := hk

/-- A token that ends in the middle of a line. The text does not end there, because it ends with a
line break. -/
theorem inLines_text (h : lexer.Within first stop) (hb : lexer.broken = false) {kind : TokenKind}
    (hk : kind.isFailure = false) {read rest : List Char} {last : Char}
    (hr : lexer.rest = read ++ last :: rest) (hl : last ≠ '\n') (next : Lexer) :
    (lexer.token kind (read ++ [last]) next).InLines (Between first stop) where
  spelled k hk := by
    have hpos : 0 < rest.count '\n' := by
      have hne : rest ≠ [] := by
        rintro rfl
        exact hl (h.last last (by simp [hr]))
      refine count_pos (fun c hc => h.last c ?_) hne
      rw [hr, List.getLast?_append, List.getLast?_cons, Option.mem_def.mp hc]
      rfl
    have hline := h.line
    rw [hb, hr, Bool.toNat_false] at hline
    simp only [token, List.count_append, List.count_cons, List.count_nil, Token.line, here]
      at hk hline ⊢
    exact ⟨Nat.le_add_right_of_le h.first_le, by omega⟩
  plain hm := by
    refine h.plain ?_
    rw [hr, ← List.singleton_append, ← List.append_assoc]
    exact List.mem_append_left _ hm
  failure reason hreason := by
    have hkind : kind = .failure reason := hreason
    rw [hkind] at hk
    cases hk

theorem goes (h : lexer.Within first stop) {token? : Option Token}
    (hg : Goes lexer (token?, next)) :
    (∀ token ∈ token?, token.InLines (Between first stop)) ∧ next.Within first stop := by
  cases hg with
  | silent hm => exact ⟨by simp, h.moves hm⟩
  | layout hk hm hm' =>
    have hmid := h.moves hm
    refine ⟨fun token ht => ?_, hmid.moves hm'⟩
    cases ht
    exact hmid.inLines_layout _ fun reason hreason => by simp [hreason, TokenKind.isLayout] at hk
  | finish hm =>
    have hlast := h.moves hm
    refine ⟨fun token ht => ?_, hlast⟩
    cases ht
    exact hlast.inLines_layout _ fun reason hreason => by cases hreason
  | failure hm hl =>
    have hlast := h.moves hm
    refine ⟨fun token ht => ?_, hlast⟩
    cases ht
    refine hlast.inLines_layout _ fun reason hreason => ?_
    cases hreason
    refine ⟨?_, fun bracket hb => hlast.brackets bracket (List.mem_of_mem_head? hb)⟩
    rcases hl with rfl | ⟨bracket, hb, rfl⟩
    · exact hlast.line_between
    · exact hlast.brackets bracket hb
  | text hk hm hb hr hl hstop hbrackets =>
    rename_i between read rest last brackets _
    have hmid := h.moves hm
    refine ⟨fun token ht => ?_, ?_⟩
    · cases ht
      exact hmid.inLines_text hb hk hr hl _
    · have hread := @readTo _ _ _ between hmid (read ++ [last]) rest (by simp [hr])
      subst hstop
      refine ⟨hread.line, hread.first_le, hread.broken, hread.last, hread.plain, ?_⟩
      intro bracket hbracket
      rcases hbrackets bracket hbracket with hb | hb
      · exact hmid.brackets bracket hb
      · exact hb ▸ hmid.line_between

end Within

/-! ### Runs -/

theorem tokens_of_some {token : Token} (h : lexer.step = (some token, next)) (steps : Nat) :
    (token.IsLast ∧ lexer.tokens (steps + 1) = [token]) ∨
      (¬ token.IsLast ∧ lexer.tokens (steps + 1) = token :: next.tokens steps) := by
  rw [tokens, h]
  cases hk : token.kind <;> simp [Token.IsLast, hk, TokenKind.isFailure]

/-- Unless a step gives the last token, another one can follow. -/
theorem ready_step (hr : Ready lexer) {token? : Option Token} (hs : lexer.step = (token?, next))
    (hlast : ∀ token ∈ token?, ¬ token.IsLast) : next.Ready ∧ next.size < lexer.size := by
  have hg := goes_step hr
  rw [hs] at hg
  cases hg with
  | silent _ hr hs => exact ⟨hr, hs⟩
  | layout _ _ _ hr hs => exact ⟨hr, hs⟩
  | finish => exact absurd (.inl rfl) (hlast _ rfl)
  | failure => exact absurd (.inr rfl) (hlast _ rfl)
  | text _ _ _ hr hl hstop _ hless => exact ⟨fun _ _ => hstop ▸ broken_readTo hr hl, hless⟩

theorem inLines_tokens (steps : Nat) (h : lexer.Within first stop) (hr : Ready lexer) :
    ∀ token ∈ lexer.tokens steps, token.InLines (Between first stop) := by
  induction steps generalizing lexer with
  | zero => simp [tokens]
  | succ steps ih =>
    rcases hs : lexer.step with ⟨token?, next⟩
    obtain ⟨htoken, hnext⟩ := h.goes (hs ▸ goes_step hr)
    cases token? with
    | none =>
      rw [tokens_of_none hs]
      exact ih hnext (ready_step hr hs (by simp)).1
    | some token =>
      rcases tokens_of_some hs steps with ⟨-, ht⟩ | ⟨hl, ht⟩
      · rw [ht, List.forall_mem_singleton]
        exact htoken token rfl
      · rw [ht, List.forall_mem_cons]
        exact ⟨htoken token rfl, ih hnext (ready_step hr hs (by simpa using hl)).1⟩

theorem isLast_tokens (steps : Nat) (hr : Ready lexer) (hs : lexer.size < steps) :
    ∃ last ∈ (lexer.tokens steps).getLast?, last.IsLast := by
  induction steps generalizing lexer with
  | zero => omega
  | succ steps ih =>
    rcases hstep : lexer.step with ⟨token?, next⟩
    cases token? with
    | none =>
      obtain ⟨hready, hless⟩ := ready_step hr hstep (by simp)
      rw [tokens_of_none hstep]
      exact ih hready (by omega)
    | some token =>
      rcases tokens_of_some hstep steps with ⟨hl, ht⟩ | ⟨hl, ht⟩
      · exact ⟨token, by rw [ht]; rfl, hl⟩
      · obtain ⟨hready, hless⟩ := ready_step hr hstep (by simpa using hl)
        obtain ⟨last, hlast, hl⟩ := ih hready (by omega)
        exact ⟨last, by rw [ht, List.getLast?_cons, Option.mem_def.mp hlast]; rfl, hl⟩

/-- At the start of a line, the line is loaded first. -/
theorem tokens_load (h : lexer.atStart = true) (steps : Nat) :
    (lexer.load true).tokens steps = lexer.tokens steps := by
  have hload : (lexer.load true).load true = lexer.load true := by
    by_cases hr : lexer.rest = []
    · simp [load, hr]
    · rw [load, broken_load hr]
      rfl
  cases steps with
  | zero => rfl
  | succ steps =>
    have hstep : (lexer.load true).step = lexer.step := by
      rw [step, if_pos (by rw [atStart_load, h]), step, if_pos h, openLine, openLine, hload]
    rw [tokens, tokens, hstep]

end Lexer

/-! ### Texts -/

/-- Tokens up to the last one of a text, in lines of which something holds. -/
structure TokensWithin (p : Nat → Prop) (tokens : List Token) : Prop where
  /-- Lines are counted from one. -/
  numbered : ∀ line, p line → 0 < line
  inLines : ∀ token ∈ tokens, token.InLines p
  isLast : ∃ last ∈ tokens.getLast?, last.IsLast

/-- The tokens of a text that ends with a line break are in its lines. -/
theorem inLines_tokensOf {first : Nat} (hf : 0 < first) {text : List Char} (hr : '\r' ∉ text)
    (hlast : text.getLast? = some '\n') :
    ∀ token ∈ tokensOf first text, token.InLines (Between first (first + text.count '\n')) := by
  have hne : text ≠ [] := by
    rintro rfl
    cases hlast
  have hload : (Lexer.start first text).load true =
      { rest := text, line := first - 1 + 1, broken := false, shownFrom := first - 1 + 1 } := by
    simp [Lexer.load, Lexer.start, hne]
  rw [tokensOf, ← Lexer.tokens_load rfl, hload]
  refine Lexer.inLines_tokens _ ⟨?_, ?_, fun h => absurd h hne, ?_, hr, by simp⟩ ?_
  · simp only [Bool.toNat_false]
    omega
  · simp only
    omega
  · simp [hlast]
  · exact fun h => by cases h

theorem Token.InLines.mono {p q : Nat → Prop} {token : Token} (h : token.InLines p)
    (hpq : ∀ line, p line → q line) : token.InLines q where
  spelled k hk := hpq _ (h.spelled k hk)
  plain := h.plain
  failure reason hreason :=
    ⟨hpq _ (h.failure reason hreason).1,
      fun bracket hb => hpq _ ((h.failure reason hreason).2 bracket hb)⟩

theorem plain_normalize {text : List Char} (hr : '\r' ∉ text) : '\r' ∉ Source.normalize text := by
  rcases normalize_eq_or hr with hn | hn <;> simpa [hn] using hr

theorem getLast?_normalize (text : List Char) :
    (Source.normalize text).getLast? = some '\n' := by
  fun_induction Source.normalize text <;> simp_all [List.getLast?_cons]

/-- The tokens of a text are in lines of which something holds if that is so of its lines. -/
theorem tokensOf_within {p : Nat → Prop} (hn : ∀ line, p line → 0 < line) {first : Nat}
    {text : List Char} (hr : '\r' ∉ text) (hp : ∀ k ≤ text.count '\n', p (first + k)) :
    TokensWithin p (tokensOf first (Source.normalize text)) where
  numbered := hn
  inLines token ht := by
    have hin := inLines_tokensOf (hn first (hp 0 (Nat.zero_le _))) (plain_normalize hr)
      (getLast?_normalize text) token ht
    refine hin.mono fun line ⟨hfirst, hstop⟩ => ?_
    obtain ⟨k, rfl⟩ := Nat.exists_eq_add_of_le hfirst
    refine hp k ?_
    rcases normalize_eq_or hr with he | he <;> rw [he] at hstop
    · omega
    · rw [List.count_append, List.count_singleton_self] at hstop
      omega
  isLast := by
    refine Lexer.isLast_tokens _ (fun h => by cases h) ?_
    simp [Lexer.size, Lexer.start]

end DocSuite.Syntax
