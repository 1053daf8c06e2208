import DocSuite.Proofs.Grammar.Expression
import DocSuite.Syntax.Grammar.Statement

/-!
Statements without blocks, and the lines that hold them. Main statement: such a statement reaches
from its first token to its last one, and its line ends behind it.
-/
namespace DocSuite.Syntax.Grammar

variable {tokens : Array Token} {m n k : Nat}

/-! ### Where statements end -/

theorem lastWithText_eq {env : Env} (ht : env.tokens = tokens) {last : Nat}
    (h : IsLastText tokens n last) : env.lastWithText n = tokenAt tokens last := by
  subst ht
  induction n with
  | zero => exact absurd h.lt (Nat.not_lt_zero last)
  | succ n ih =>
    rw [Env.lastWithText]
    rcases Nat.lt_or_ge last n with hn | hn
    · have hl : (env.token n).isLayout = true := h.layout n hn (Nat.lt_succ_self n)
      rw [if_pos hl]
      exact ih ⟨hn, h.isText, fun i hi hi' => h.layout i hi (by omega)⟩
    · have he : last = n := by
        have := h.lt
        omega
      subst he
      have hl : (env.token last).isLayout = false := h.isText.1
      rw [if_neg (by simp [hl])]
      rfl

theorem Reads.spanFrom (start : Token) : Reads tokens (spanFrom start) fun m n span => n = m ∧
    ∀ last, IsLastText tokens m last →
      span = ⟨start.span.start, (tokenAt tokens last).span.stop⟩ := by
  intro env state ht he hk
  refine ⟨hk, fun span hs => ⟨rfl, fun last hl => ?_⟩⟩
  cases hs
  rw [lastWithText_eq ht hl]

theorem Text.isLastText (h : Text tokens m n) : IsLastText tokens n (n - 1) := by
  have hlt := h.1
  exact ⟨by omega, h.2 (n - 1) (by omega) (by omega), fun i hi hi' => by omega⟩

theorem reads_simpleAt {p : P Simple} [hp : Consumes tokens p] :
    Reads tokens (simpleAt p) (OneLine tokens) := by
  refine (Reads.peek.bind fun start => hp.reads.bind fun form =>
    (Reads.spanFrom start).bind fun span => Reads.pure _).mono ?_
  rintro m n stmt ⟨m', start, ⟨rfl, rfl⟩, k, form, ht, k', span, ⟨rfl, hs⟩, rfl, rfl⟩
  exact ⟨ht, form, by rw [hs _ ht.isLastText]⟩

/-! ### Simple statements -/

instance : Consumes tokens augmentation := by
  unfold augmentation
  infer_instance

instance : Consumes tokens dottedName := by
  unfold dottedName
  infer_instance

instance : Consumes tokens importDots := by
  unfold importDots
  infer_instance

instance (p : P String) [Consumes tokens p] : Consumes tokens (renamed p) := by
  unfold renamed
  infer_instance

instance : Consumes tokens importNames := by
  unfold importNames
  infer_instance

instance : Consumes tokens importTargets := by
  unfold importTargets
  infer_instance

instance : Consumes tokens importStmt := by
  unfold importStmt
  infer_instance

theorem Reads.newline : Reads tokens newline fun m n _ => n = m + 1 ∧ IsLayout tokens m := by
  refine (Reads.tokenThat _).mono ?_
  rintro m n t ⟨rfl, rfl, h⟩
  refine ⟨rfl, ?_⟩
  cases hk : (tokenAt tokens m).kind <;> simp_all [IsLayout, Token.isLayout, TokenKind.isLayout]

namespace Rules

variable (g : Rules) [hg : g.Sound tokens]

instance : Spans tokens g.assignedValue := by
  unfold assignedValue
  infer_instance

instance : Consumes tokens g.assignment := by
  unfold assignment
  infer_instance

instance : Consumes tokens g.delete := by
  have ends : Spans tokens
      (ahead (choice [discard (accept .semicolon), discard Grammar.newline])) := by
    refine .of_eq (Reads.ahead (Q := fun _ _ _ => True) (Reads.choice fun p hp => ?_))
    simp only [List.mem_cons, List.not_mem_nil, or_false] at hp
    rcases hp with rfl | rfl
    · exact (Consumes.reads (p := accept .semicolon)).map _ |>.mono fun _ _ _ _ => trivial
    · exact (Reads.newline.map _).mono fun _ _ _ _ => trivial
  unfold delete
  infer_instance

instance : Consumes tokens g.raiseStmt := by
  unfold raiseStmt
  infer_instance

theorem reads_simpleStmtBody : Reads tokens g.simpleStmtBody (OneLine tokens) := by
  unfold simpleStmtBody
  exact reads_simpleAt

end Rules

/-! ### Lines of statements -/

theorem Parsed.free (h : ∀ i, m ≤ i → i < n → IsFree tokens i) : Parsed tokens m n [] :=
  ⟨fun i hi hi' => (h i hi hi').isText_or, .free h, fresh_nil, whole_nil⟩

theorem Parsed.append {as bs : List Stmt} (ha : Parsed tokens m k as) (hb : Parsed tokens k n bs)
    (hm : m ≤ k) (hn : k ≤ n) : Parsed tokens m n (as ++ bs) :=
  ⟨fun i hi hi' => (Nat.lt_or_ge i k).elim (ha.read i hi) fun hk => hb.read i hk hi',
    ha.covers.append hb.covers hm hn, fresh_append.mpr ⟨ha.fresh, hb.fresh⟩,
    whole_append.mpr ⟨ha.whole, hb.whole⟩⟩

/-- One free token. -/
theorem Parsed.one (h : IsFree tokens m) : Parsed tokens m (m + 1) [] :=
  .free fun i hi hi' => by rwa [show i = m by omega]

theorem OneLine.parsed {stmt : Stmt} (h : OneLine tokens m n stmt) :
    Parsed tokens m n stmt.nodes := by
  obtain ⟨ht, form, rfl⟩ := h
  exact ⟨fun i hi hi' => .inl (ht.2 i hi hi'), .simple ht.1 ht.2 rfl, by simp [Stmt.nodes],
    by simp [Stmt.nodes, Stmt.IsWhole]⟩

theorem lineStart_succ (h : IsLayout tokens m) : LineStart tokens (m + 1) :=
  fun i hi => by rwa [show i = m by omega]

/-- A line break ends the line of some statements. -/
theorem Lines.of_newline {body : List Stmt} (hm : m ≤ k) (hp : Parsed tokens m k (nodesOf body))
    (hb : body ≠ []) (ht : IsLayout tokens k) : Lines tokens m (k + 1) body where
  lt := by omega
  lineStart := lineStart_succ ht
  ne_nil := hb
  parsed := by
    have := hp.append (.one (.inl ht)) hm (Nat.le_succ k)
    rwa [List.append_nil] at this

/-- What follows a statement in its line. -/
def FurtherStmt (tokens : Array Token) (m n : Nat) (stmt : Stmt) : Prop :=
  (tokenAt tokens m).isTerminal .semicolon = true ∧ OneLine tokens (m + 1) n stmt

theorem row_furtherStmt {stmts : List Stmt} (h : Row (FurtherStmt tokens) m n stmts) :
    m ≤ n ∧ Parsed tokens m n (nodesOf stmts) := by
  induction h with
  | nil m => exact ⟨Nat.le_refl m, .free fun i hi hi' => by omega⟩
  | @cons m k n stmt stmts hs _ ih =>
    obtain ⟨hm, hl⟩ := hs
    have hlt := hl.text.1
    refine ⟨by omega, ?_⟩
    have h1 := (Parsed.one (.inr (.inl hm))).append hl.parsed (Nat.le_succ m) (by omega)
    exact h1.append ih.2 (by omega) ih.1

namespace Rules

variable (g : Rules) [hg : g.Sound tokens]

theorem reads_simpleStmts : Reads tokens g.simpleStmts (Lines tokens) := by
  have stmt : Reads tokens g.simpleStmt (OneLine tokens) := hg.reads .simpleStmt
  have semicolon := @Reads.tokenThat tokens (·.isTerminal .semicolon)
  refine Reads.choice fun p hp => ?_
  simp only [List.mem_cons, List.not_mem_nil, or_false] at hp
  rcases hp with rfl | rfl
  · refine (stmt.bind fun a => semicolon.notAhead.bind fun _ => Reads.newline.bind fun _ =>
      Reads.pure [a]).mono ?_
    rintro m n body ⟨k, a, hs, k', _, rfl, k'', _, ⟨rfl, ht⟩, rfl, rfl⟩
    exact .of_newline (Nat.le_of_lt hs.text.1) (by simpa [nodesOf] using hs.parsed) (by simp) ht
  · have further : Reads tokens (do let _ ← accept .semicolon; g.simpleStmt)
        (FurtherStmt tokens) := by
      refine (semicolon.bind fun _ => stmt).mono ?_
      rintro m n a ⟨k, _, ⟨rfl, rfl, h⟩, hs⟩
      exact ⟨h, hs⟩
    refine (((stmt.bind fun a => further.many.bind fun as => Reads.pure (a :: as))).bind
      fun stmts => semicolon.optional.bind fun _ => Reads.newline.bind fun _ =>
        Reads.pure stmts).mono ?_
    rintro m n body ⟨k, stmts, ⟨k₁, a, hs, k₂, as, hr, rfl, rfl⟩, k₃, _, hsemi, k₄, _, ⟨rfl, ht⟩,
      rfl, rfl⟩
    obtain ⟨hle, hrow⟩ := row_furtherStmt hr
    have hlt := hs.text.1
    have hline := hs.parsed.append hrow (by omega) hle
    rcases hsemi with ⟨_, rfl⟩ | ⟨t, _, rfl, rfl, hsemi⟩
    · exact .of_newline (by omega) (by simpa [nodesOf] using hline) (by simp) ht
    · have := hline.append (.one (.inr (.inl hsemi))) (by omega) (Nat.le_succ _)
      exact .of_newline (by omega) (by simpa [nodesOf] using this) (by simp) ht

end Rules

end DocSuite.Syntax.Grammar
