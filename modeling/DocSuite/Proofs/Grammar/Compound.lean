import DocSuite.Proofs.Grammar.Statement
import DocSuite.Syntax.Parser

/-!
Statements with blocks, and whole texts. Main statement: the statements of a text that can be read
take up its tokens, and each has the blocks that the grammar demands.
-/
namespace DocSuite.Syntax.Grammar

variable {tokens : Array Token} {m n k : Nat} {α β : Type}

/-! ### Lines that a token leads -/

/-- Text, and then what is in a relation. -/
def After (tokens : Array Token) (Q : Nat → Nat → α → Prop) (m n : Nat) (a : α) : Prop :=
  ∃ k, m ≤ k ∧ AllText tokens m k ∧ Q k n a

/-- A token that passes a test, more text, and then what is in a relation. -/
def Led (tokens : Array Token) (test : Token → Bool) (Q : Nat → Nat → α → Prop) (m n : Nat)
    (a : α) : Prop :=
  test (tokenAt tokens m) = true ∧ ∃ k, Text tokens m k ∧ Q k n a

theorem After.here {Q : Nat → Nat → α → Prop} {a : α} (h : Q m n a) : After tokens Q m n a :=
  ⟨m, Nat.le_refl m, AllText.refl m, h⟩

theorem Reads.after {p : P α} {f : α → P β} {Q : Nat → Nat → β → Prop} [hp : Spans tokens p]
    (hf : ∀ a, Reads tokens (f a) (After tokens Q)) : Reads tokens (p >>= f) (After tokens Q) := by
  refine (hp.reads.bind hf).mono ?_
  rintro m n b ⟨k, a, ⟨hm, ht⟩, k', hk, ht', hq⟩
  exact ⟨k', Nat.le_trans hm hk, ht.append ht', hq⟩

theorem Reads.led {test : Token → Bool} [ht : FindsText test] {f : Token → P β}
    {Q : Nat → Nat → β → Prop} (hf : ∀ t, Reads tokens (f t) (After tokens Q)) :
    Reads tokens (Grammar.tokenThat test >>= f) (Led tokens test Q) := by
  refine ((Reads.tokenThat test).bind hf).mono ?_
  rintro m n b ⟨k, t, ⟨rfl, rfl, h⟩, k', hk, htext, hq⟩
  exact ⟨h, k', (Text.of_token rfl rfl (ht.isText _ h)).append_allText hk htext, hq⟩

theorem Led.mono {test test' : Token → Bool} {Q : Nat → Nat → α → Prop}
    {R : Nat → Nat → β → Prop} {n' : Nat} {a : α} {b : β} (h : Led tokens test Q m n a)
    (ht : ∀ t, test t = true → test' t = true) (hq : ∀ k, Q k n a → R k n' b) :
    Led tokens test' R m n' b := by
  obtain ⟨h1, k, h2, h3⟩ := h
  exact ⟨ht _ h1, k, h2, hq k h3⟩

/-! ### Blocks -/

/-- Blocks that end with a line. -/
structure Blocks (tokens : Array Token) (m n : Nat) (blocks : List Block) : Prop where
  le : m ≤ n
  lineStart : LineStart tokens n
  ne_nil : ∀ block ∈ blocks, block.body ≠ []
  parsed : Parsed tokens m n (nodesOfBlocks blocks)

/-- Blocks that start and end with a line. -/
def Clauses (tokens : Array Token) (m n : Nat) (blocks : List Block) : Prop :=
  LineStart tokens m → Blocks tokens m n blocks

/-- A block whose line is a clause header. -/
def Clause (tokens : Array Token) (m n : Nat) (body : List Stmt) : Prop :=
  Led tokens opensClause (fun k n body => Lines tokens k n body) m n body

theorem Lines.blocks {body : List Stmt} (label : Label) (h : Lines tokens m n body) :
    Blocks tokens m n [⟨label, body⟩] where
  le := Nat.le_of_lt h.lt
  lineStart := h.lineStart
  ne_nil := by simpa [Block.body] using h.ne_nil
  parsed := by simpa [nodesOfBlocks] using h.parsed

theorem Clauses.nil : Clauses tokens m m [] := fun h =>
  ⟨Nat.le_refl m, h, by simp, .free fun i hi hi' => by omega⟩

theorem Blocks.append {as bs : List Block} (ha : Blocks tokens m k as)
    (hb : Clauses tokens k n bs) : Blocks tokens m n (as ++ bs) := by
  have hb := hb ha.lineStart
  refine ⟨Nat.le_trans ha.le hb.le, hb.lineStart, fun block hm => ?_, ?_⟩
  · exact (List.mem_append.mp hm).elim (ha.ne_nil block) (hb.ne_nil block)
  · rw [nodesOfBlocks_append]
    exact ha.parsed.append hb.parsed ha.le hb.le

theorem Clauses.append {as bs : List Block} (ha : Clauses tokens m k as)
    (hb : Clauses tokens k n bs) : Clauses tokens m n (as ++ bs) :=
  fun h => (ha h).append hb

theorem Clause.lines {body : List Stmt} (h : Clause tokens m n body) (hs : LineStart tokens m) :
    Lines tokens m n body := by
  obtain ⟨ho, k, ht, hl⟩ := h
  have hmk := ht.1
  have hkn := hl.lt
  refine ⟨by omega, hl.lineStart, hl.ne_nil, ?_⟩
  exact (Parsed.free (ht.2.isFree hs ho)).append hl.parsed (by omega) (by omega)

theorem Clause.clauses {body : List Stmt} (label : Label) (h : Clause tokens m n body) :
    Clauses tokens m n [⟨label, body⟩] :=
  fun hs => (h.lines hs).blocks label

theorem row_clauses {Q : Nat → Nat → Block → Prop} {blocks : List Block}
    (hq : ∀ m n block, Q m n block → Clauses tokens m n [block]) (h : Row Q m n blocks) :
    Clauses tokens m n blocks := by
  induction h with
  | nil => exact .nil
  | cons ha _ ih => exact (hq _ _ _ ha).append ih

/-- The blocks of a compound statement behind its head. -/
def BlocksOf (tokens : Array Token) (m n : Nat) (stmt : Head × List Block) : Prop :=
  stmt.1.Takes (stmt.2.map Block.label) ∧ Blocks tokens m n stmt.2

theorem BlocksOf.read {stmt : Head × List Block} (ht : Text tokens m k)
    (h : BlocksOf tokens k n stmt) : ∀ i, m ≤ i → i < n → IsText tokens i ∨ IsLayout tokens i :=
  fun i hi hi' => (Nat.lt_or_ge i k).elim (fun hk => .inl (ht.2 i hi hk)) fun hk =>
    h.2.parsed.read i hk hi'

theorem lines_compound {head : Head} {blocks : List Block} {last : Nat}
    (ht : Text tokens m k) (h : BlocksOf tokens k n (head, blocks))
    (hl : IsLastText tokens n last) :
    Lines tokens m n [.compound
      { span := ⟨(tokenAt tokens m).span.start, (tokenAt tokens last).span.stop⟩ }
      head blocks] := by
  have hread := h.read ht
  obtain ⟨hh, hb⟩ := h
  have hm := ht.1
  have hne : nodesOfBlocks blocks ≠ [] :=
    nodesOfBlocks_ne_nil (fun he => Head.Takes.ne_nil hh (by simp [he])) hb.ne_nil
  obtain ⟨i, hki, hin, hi⟩ := hb.parsed.covers.exists_isText hne
  have hil : i ≤ last := by
    rcases Nat.lt_or_ge last i with hli | hli
    · exact absurd hi (hl.layout i hli hin).not_isText
    · exact hli
  refine ⟨by omega, hb.lineStart, by simp, ?_⟩
  simp only [nodesOf, Stmt.nodes, List.append_nil]
  exact ⟨hread, .compound hm ht.2 hb.parsed.covers hl (by omega) rfl,
    fresh_cons.mpr ⟨rfl, hb.parsed.fresh⟩, whole_cons.mpr ⟨⟨hh, hb.ne_nil⟩, hb.parsed.whole⟩⟩

/-- A head with its blocks. -/
def Headed (tokens : Array Token) : Nat → Nat → Head × List Block → Prop :=
  Led tokens (fun _ => true) (BlocksOf tokens)

theorem Reads.headed {test : Token → Bool} [FindsText test] {f : Token → P (Head × List Block)}
    (hf : ∀ t, Reads tokens (f t) (After tokens (BlocksOf tokens))) :
    Reads tokens (Grammar.tokenThat test >>= f) (Headed tokens) :=
  (Reads.led hf).mono fun _ _ _ h => h.mono (fun _ _ => rfl) fun _ hb => hb

theorem Headed.after {found : Head × List Block} (h : Headed tokens m n found) :
    After tokens (BlocksOf tokens) m n found := by
  obtain ⟨_, k, ht, hb⟩ := h
  exact ⟨k, Nat.le_of_lt ht.1, ht.2, hb⟩

/-- A compound statement is read if a head and its blocks are. -/
theorem reads_compoundAt {p : P (Head × List Block)} (hp : Reads tokens p (Headed tokens)) :
    Reads tokens (compoundAt p) fun m n stmt => Lines tokens m n [stmt] := by
  refine (Reads.peek.bind fun start => hp.bind fun found =>
    (Reads.spanFrom start).bind fun span => Reads.pure _).mono ?_
  rintro m n stmt ⟨m', start, ⟨rfl, rfl⟩, k, ⟨head, blocks⟩, ⟨_, k', ht, hb⟩, k'', span,
    ⟨rfl, hs⟩, rfl, rfl⟩
  have hlt : m' < n := Nat.lt_of_lt_of_le ht.1 hb.2.le
  obtain ⟨last, hl⟩ := exists_isLastText (hb.read ht) hlt (ht.2 m' (Nat.le_refl _) ht.1)
  rw [hs last hl]
  exact lines_compound ht hb hl

/-! ### Rules -/

theorem Reads.layout {test : Token → Bool} (h : ∀ t, test t = true → t.isLayout = true) :
    Reads tokens (Grammar.tokenThat test) fun m n _ => n = m + 1 ∧ IsLayout tokens m := by
  refine (Reads.tokenThat test).mono ?_
  rintro m n t ⟨rfl, rfl, ht⟩
  exact ⟨rfl, h _ ht⟩

theorem Reads.indent : Reads tokens indent fun m n _ => n = m + 1 ∧ IsLayout tokens m :=
  .layout fun t ht => by cases hk : t.kind <;> simp_all [Token.isLayout, TokenKind.isLayout]

theorem Reads.dedent : Reads tokens dedent fun m n _ => n = m + 1 ∧ IsLayout tokens m :=
  .layout fun t ht => by cases hk : t.kind <;> simp_all [Token.isLayout, TokenKind.isLayout]

/-- What one relation allows is followed by what another does. -/
theorem Reads.two {α : Type} {p q : P α} {Q : Nat → Nat → α → Prop} (hp : Reads tokens p Q)
    (hq : Reads tokens q Q) : Reads tokens (Grammar.choice [p, q]) Q :=
  Reads.choice fun r hr => by
    simp only [List.mem_cons, List.not_mem_nil, or_false] at hr
    rcases hr with rfl | rfl
    · exact hp
    · exact hq

namespace Rules

variable (g : Rules) [hg : g.Sound tokens]

theorem reads_block : Reads tokens g.block (Lines tokens) := hg.reads .block

theorem reads_blockBody {statements : P (List Stmt)}
    (hs : Reads tokens statements fun m n body => LineStart tokens m → Lines tokens m n body) :
    Reads tokens (g.blockBody statements) (Lines tokens) := by
  refine Reads.choice fun p hp => ?_
  simp only [List.mem_cons, List.not_mem_nil, or_false] at hp
  rcases hp with rfl | rfl | rfl
  · refine (Reads.newline.bind fun _ => Reads.indent.bind fun _ => hs.bind fun body =>
      Reads.dedent.bind fun _ => Reads.pure body).mono ?_
    rintro m n body ⟨m₁, _, ⟨rfl, h1⟩, m₂, _, ⟨rfl, h2⟩, k, body, hb, k', _, ⟨rfl, h3⟩, rfl, rfl⟩
    have hl := hb (lineStart_succ h2)
    have hlt := hl.lt
    have hfree := (Parsed.one (.inl h1)).append (.one (.inl h2)) (Nat.le_succ m) (Nat.le_succ _)
    exact .of_newline (by omega) (hfree.append hl.parsed (by omega) (by omega)) hl.ne_nil h3
  · exact g.reads_simpleStmts
  · exact Reads.explain _ _

theorem reads_elseBlock : Reads tokens g.elseBlock (Clause tokens) := by
  refine Reads.two (Reads.explain _ _) ((Reads.led fun _ => Reads.after fun _ =>
    g.reads_block.mono fun _ _ _ => After.here).mono fun _ _ _ h => h.mono ?_ fun _ hb => hb)
  intro t ht
  simp [opensClause, ht]

theorem reads_finallyBlock : Reads tokens g.finallyBlock (Clause tokens) := by
  refine Reads.two (Reads.explain _ _) ((Reads.led fun _ => Reads.after fun _ =>
    g.reads_block.mono fun _ _ _ => After.here).mono fun _ _ _ h => h.mono ?_ fun _ hb => hb)
  intro t ht
  simp [opensClause, ht]

theorem reads_optional_clause {p : P (List Stmt)} (label : Label)
    (hp : Reads tokens p (Clause tokens)) :
    Reads tokens (optional p) fun m n found => Clauses tokens m n (clause label found) := by
  refine hp.optional.mono ?_
  rintro m n found (⟨rfl, rfl⟩ | ⟨body, rfl, hb⟩)
  · exact .nil
  · exact hb.clauses label

/-! ### Conditions, loops and contexts -/

theorem reads_bodyOnly (head : Head) (h : head.Takes [.body]) :
    Reads tokens (do return (head, [bodyOf (← g.block)])) (BlocksOf tokens) := by
  refine (g.reads_block.bind fun body => Reads.pure (head, [bodyOf body])).mono ?_
  rintro m n found ⟨k, body, hb, rfl, rfl⟩
  exact ⟨h, hb.blocks .body⟩

theorem reads_bodyAndElse (head : Head)
    (h : ∀ others, List.Sublist others [.orelse] → head.Takes (.body :: others)) :
    Reads tokens (do
      let body ← g.block
      return (head, bodyOf body :: clause .orelse (← optional g.elseBlock))) (BlocksOf tokens) := by
  refine (g.reads_block.bind fun body =>
    (reads_optional_clause .orelse g.reads_elseBlock).bind fun other => Reads.pure _).mono ?_
  rintro m n found ⟨k, body, hb, k', other, ho, rfl, rfl⟩
  refine ⟨h _ ?_, (hb.blocks .body).append ho⟩
  cases other <;> simp [clause, Block.label]

theorem reads_conditionStmt (keyword : Terminal) :
    Reads tokens (g.conditionStmt keyword) fun m n stmt => Lines tokens m n [stmt] := by
  refine reads_compoundAt (Reads.choice fun p hp => ?_)
  simp only [List.mem_cons, List.not_mem_nil, or_false] at hp
  rcases hp with rfl | rfl | rfl
  · exact Reads.explain _ _
  · refine Reads.headed fun _ => Reads.after fun test => Reads.after fun _ =>
      (g.reads_block.bind fun body => (hg.reads .elifStmt).bind fun other => Reads.pure _).mono ?_
    rintro m n found ⟨k, body, hb, k', other, ho, rfl, rfl⟩
    exact .here ⟨⟨[.orelse], rfl, by simp⟩,
      (hb.blocks .body).append fun _ => Lines.blocks .orelse ho⟩
  · exact Reads.headed fun _ => Reads.after fun test => Reads.after fun _ =>
      (g.reads_bodyAndElse (.ifThen test) fun others h => ⟨others, rfl, h⟩).mono fun _ _ _ => .here

theorem reads_whileStmt : Reads tokens g.whileStmt fun m n stmt => Lines tokens m n [stmt] :=
  reads_compoundAt <| Reads.two (Reads.explain _ _) <|
    Reads.headed fun _ => Reads.after fun test => Reads.after fun _ =>
      (g.reads_bodyAndElse (.whileLoop test) fun others h => ⟨others, rfl, h⟩).mono
        fun _ _ _ => .here

theorem reads_forStmt : Reads tokens g.forStmt fun m n stmt => Lines tokens m n [stmt] := by
  have loop (isAsync : Bool) : Reads tokens (do
      let _ ← accept .kwFor
      let target ← g.targets
      let _ ← accept .kwIn
      commit do
        let source ← g.starExpressions
        let _ ← accept .colon
        let body ← g.block
        return (.forLoop isAsync target source,
          bodyOf body :: clause .orelse (← optional g.elseBlock))) (Headed tokens) :=
    Reads.headed fun _ => Reads.after fun target => Reads.after fun _ => Reads.commit <|
      Reads.after fun source => Reads.after fun _ =>
        (g.reads_bodyAndElse (.forLoop isAsync target source) fun others h =>
          ⟨others, rfl, h⟩).mono fun _ _ _ => .here
  refine reads_compoundAt (Reads.choice fun p hp => ?_)
  simp only [List.mem_cons, List.not_mem_nil, or_false] at hp
  rcases hp with rfl | rfl | rfl | rfl
  · exact Reads.explain _ _
  · exact loop false
  · exact Reads.headed fun _ => (loop true).mono fun _ _ _ => Headed.after
  · exact Reads.explain _ _

instance : Consumes tokens g.withItem := by
  unfold withItem
  dsimp only
  infer_instance

theorem reads_withStmt : Reads tokens g.withStmt fun m n stmt => Lines tokens m n [stmt] := by
  have parenthesized (isAsync : Bool) : Reads tokens (do
      let _ ← accept .kwWith
      let _ ← accept .parenOpen
      let items ← commaSeparated g.withItem
      let _ ← optional (accept .comma)
      let _ ← accept .parenClose
      let _ ← accept .colon
      return (.withItems isAsync items, [bodyOf (← g.block)])) (Headed tokens) :=
    Reads.headed fun _ => Reads.after fun _ => Reads.after fun items => Reads.after fun _ =>
      Reads.after fun _ => Reads.after fun _ =>
        (g.reads_bodyOnly (.withItems isAsync items) rfl).mono fun _ _ _ => .here
  have plain (isAsync : Bool) : Reads tokens (do
      let _ ← accept .kwWith
      let items ← commaSeparated g.withItem
      let _ ← accept .colon
      return (.withItems isAsync items, [bodyOf (← g.block)])) (Headed tokens) :=
    Reads.headed fun _ => Reads.after fun items => Reads.after fun _ =>
      (g.reads_bodyOnly (.withItems isAsync items) rfl).mono fun _ _ _ => .here
  refine reads_compoundAt (Reads.choice fun p hp => ?_)
  simp only [List.mem_cons, List.not_mem_nil, or_false] at hp
  rcases hp with rfl | rfl | rfl | rfl | rfl | rfl
  · exact Reads.explain _ _
  · exact parenthesized false
  · exact plain false
  · exact Reads.headed fun _ => (parenthesized true).mono fun _ _ _ => Headed.after
  · exact Reads.headed fun _ => (plain true).mono fun _ _ _ => Headed.after
  · exact Reads.explain _ _

/-! ### Handlers -/

instance : Spans tokens handlerName := by
  unfold handlerName
  infer_instance

/-- A block that has an admitted label, and whose line is a clause header. -/
def LabelledClause (tokens : Array Token) (admitted : Label → Bool) : Nat → Nat → Block → Prop :=
  Led tokens opensClause fun k n block =>
    admitted block.label = true ∧ Lines tokens k n block.body

omit hg in
theorem LabelledClause.clauses {admitted : Label → Bool} {block : Block}
    (h : LabelledClause tokens admitted m n block) : Clauses tokens m n [block] := by
  obtain ⟨label, body⟩ := block
  exact Clause.clauses label (h.mono (fun _ ht => ht) fun _ hb => hb.2)

omit hg in
theorem Row.all {Q : Nat → Nat → α → Prop} {C : α → Prop} (hq : ∀ m n a, Q m n a → C a)
    {as : List α} (h : Row Q m n as) : ∀ a ∈ as, C a := by
  induction h with
  | nil => simp
  | cons ha _ ih => exact List.forall_mem_cons.mpr ⟨hq _ _ _ ha, ih⟩

omit hg in
theorem row_labelled {admitted : Label → Bool} {blocks : List Block}
    (h : Row (LabelledClause tokens admitted) m n blocks) :
    Clauses tokens m n blocks ∧ ∀ label ∈ blocks.map Block.label, admitted label = true := by
  refine ⟨row_clauses (fun _ _ _ => LabelledClause.clauses) h, fun label hl => ?_⟩
  obtain ⟨block, hb, rfl⟩ := List.mem_map.mp hl
  exact Row.all (fun _ _ _ ⟨_, _, _, hc⟩ => hc.1) h block hb

/-- A clause is read if its header and its block are. -/
theorem reads_labelledClause {test : Token → Bool} [FindsText test] {f : Token → P Block}
    {admitted : Label → Bool} (ht : ∀ t, test t = true → opensClause t = true)
    (hf : ∀ t, Reads tokens (f t) (After tokens fun k n block =>
      admitted block.label = true ∧ Lines tokens k n block.body)) :
    Reads tokens (tokenThat test >>= f) (LabelledClause tokens admitted) :=
  (Reads.led hf).mono fun _ _ _ h => h.mono ht fun _ hb => hb

theorem reads_admitted {label : Label} {admitted : Label → Bool} (h : admitted label = true) :
    Reads tokens (do return (⟨label, ← g.block⟩ : Block)) (After tokens fun k n block =>
      admitted block.label = true ∧ Lines tokens k n block.body) := by
  refine (g.reads_block.bind fun body => Reads.pure _).mono ?_
  rintro m n block ⟨k, body, hb, rfl, rfl⟩
  exact .here ⟨h, hb⟩

theorem opensClause_of_except {t : Token} (h : t.isTerminal .kwExcept = true) :
    opensClause t = true := by
  simp [opensClause, h]

theorem reads_handler : Reads tokens g.handler (LabelledClause tokens Label.isHandler) := by
  refine Reads.choice fun p hp => ?_
  simp only [List.mem_cons, List.not_mem_nil, or_false] at hp
  rcases hp with rfl | rfl | rfl | rfl
  · exact Reads.explain _ _
  · exact reads_labelledClause (fun _ => opensClause_of_except) fun _ => Reads.after fun type =>
      Reads.after fun name => Reads.after fun _ => g.reads_admitted rfl
  · exact reads_labelledClause (fun _ => opensClause_of_except) fun _ => Reads.after fun _ =>
      g.reads_admitted rfl
  · exact Reads.explain _ _

theorem reads_starHandler : Reads tokens g.starHandler (LabelledClause tokens Label.isHandler) := by
  refine Reads.choice fun p hp => ?_
  simp only [List.mem_cons, List.not_mem_nil, or_false] at hp
  rcases hp with rfl | rfl | rfl
  · exact Reads.explain _ _
  · exact reads_labelledClause (fun _ => opensClause_of_except) fun _ => Reads.after fun _ =>
      Reads.after fun type => Reads.after fun name => Reads.after fun _ => g.reads_admitted rfl
  · exact Reads.explain _ _

/-- A handled block with the clauses behind it. -/
theorem reads_withHandlers (star : Bool) {handler : P Block}
    (hh : Reads tokens handler (LabelledClause tokens Label.isHandler)) :
    Reads tokens (do
      let body ← (do
        let _ ← accept .kwTry
        let _ ← require .colon
        g.block)
      let handlers ← many1 handler
      let orelse ← optional g.elseBlock
      let final ← optional g.finallyBlock
      return (.tryBlock star,
        bodyOf body :: handlers ++ clause .orelse orelse ++ clause .finalbody final))
      (Headed tokens) := by
  have start : Reads tokens (do
      let _ ← accept .kwTry
      let _ ← require .colon
      g.block) (Led tokens (·.isTerminal .kwTry) (Lines tokens)) :=
    Reads.led fun _ => Reads.after fun _ => g.reads_block.mono fun _ _ _ => .here
  refine (start.bind fun body => hh.many1.bind fun handlers =>
    (reads_optional_clause .orelse g.reads_elseBlock).bind fun orelse =>
    (reads_optional_clause .finalbody g.reads_finallyBlock).bind fun final => Reads.pure _).mono ?_
  rintro m n found ⟨k, body, hb, k₁, handlers, ⟨hne, hr⟩, k₂, orelse, ho, k₃, final, hf, rfl, rfl⟩
  obtain ⟨hc, hl⟩ := row_labelled hr
  refine hb.mono (fun _ _ => rfl) fun k hb => ⟨.inr ⟨handlers.map Block.label,
    (clause .orelse orelse ++ clause .finalbody final).map Block.label, ?_, ?_, hl, ?_⟩, ?_⟩
  · simp [bodyOf, Block.label]
  · simpa using hne
  · cases orelse <;> cases final <;> simp [clause, Block.label]
  · exact (((hb.blocks .body).append hc).append ho).append hf

theorem reads_tryStmt : Reads tokens g.tryStmt fun m n stmt => Lines tokens m n [stmt] := by
  refine reads_compoundAt (Reads.choice fun p hp => ?_)
  simp only [List.mem_cons, List.not_mem_nil, or_false] at hp
  rcases hp with rfl | rfl | rfl | rfl
  · exact Reads.explain _ _
  · refine ((Reads.led fun _ => Reads.after fun _ => g.reads_block.mono fun _ _ _ => .here).bind
      fun body => g.reads_finallyBlock.bind fun final => Reads.pure _).mono ?_
    rintro m n found ⟨k, body, hb, k', final, hf, rfl, rfl⟩
    exact hb.mono (fun _ _ => rfl) fun k hb =>
      ⟨.inl rfl, (hb.blocks .body).append (hf.clauses .finalbody)⟩
  · exact g.reads_withHandlers false g.reads_handler
  · exact g.reads_withHandlers true g.reads_starHandler

/-! ### Matching -/

instance : Consumes tokens g.subject := by
  unfold subject
  infer_instance

instance : Consumes tokens g.guard := by
  unfold Rules.guard
  infer_instance

theorem reads_caseBlock : Reads tokens g.caseBlock (LabelledClause tokens Label.isCase) := by
  refine Reads.two (Reads.explain _ _) ?_
  refine reads_labelledClause (fun t ht => ?_) fun _ => Reads.after fun pattern =>
    Reads.after fun guard => Reads.after fun _ => g.reads_admitted rfl
  simp only [opensClause, ht, Bool.or_true]

theorem reads_matchStmt : Reads tokens g.matchStmt fun m n stmt => Lines tokens m n [stmt] := by
  refine reads_compoundAt (Reads.two ?_ (Reads.explain _ _))
  refine Reads.headed fun _ => Reads.after fun subject => Reads.after fun _ =>
    (Reads.newline.bind fun _ => Reads.indent.bind fun _ => g.reads_caseBlock.many1.bind
      fun cases => Reads.dedent.bind fun _ => Reads.pure _).mono ?_
  rintro m n found ⟨m₁, _, ⟨rfl, h1⟩, m₂, _, ⟨rfl, h2⟩, k, cases, ⟨hne, hr⟩, k', _, ⟨rfl, h3⟩,
    rfl, rfl⟩
  obtain ⟨hc, hl⟩ := row_labelled hr
  have hb := hc (lineStart_succ h2)
  have hle := hb.le
  refine .here ⟨⟨by simpa using hne, hl⟩, by omega, lineStart_succ h3, hb.ne_nil, ?_⟩
  have hfree := (Parsed.one (.inl h1)).append (.one (.inl h2)) (Nat.le_succ m) (Nat.le_succ _)
  have := (hfree.append hb.parsed (by omega) hle).append (.one (.inl h3)) (by omega)
    (Nat.le_succ k)
  simpa using this

/-! ### Definitions -/

theorem reads_decorators : Reads tokens g.decorators fun m n _ =>
    LineStart tokens m → m ≤ n ∧ LineStart tokens n ∧ Parsed tokens m n [] := by
  have decorator : Reads tokens (do
      let _ ← accept .atSign
      let decorator ← g.namedExpression
      let _ ← newline
      return decorator) (Led tokens (·.isTerminal .atSign) fun k n _ =>
        n = k + 1 ∧ IsLayout tokens k) := by
    refine Reads.led fun _ => Reads.after fun decorator =>
      (Reads.newline.bind fun _ => Reads.pure decorator).mono ?_
    rintro m n a ⟨k, _, h, rfl, rfl⟩
    exact .here h
  refine decorator.many1.mono ?_
  rintro m n decorators ⟨-, hr⟩
  induction hr with
  | nil m => exact fun h => ⟨Nat.le_refl m, h, .free fun i hi hi' => by omega⟩
  | @cons m k n a as ha _ ih =>
    intro hs
    obtain ⟨ho, k', ht, rfl, hn⟩ := ha
    obtain ⟨hle, hl, hp⟩ := ih (lineStart_succ hn)
    have hfree := Parsed.free (ht.2.isFree hs (by simp [opensClause, ho]))
    have hlt := ht.1
    exact ⟨by omega, hl, ((hfree.append (.one (.inl hn)) (by omega) (Nat.le_succ k')).append hp
      (by omega) hle)⟩

instance : Spans tokens g.returns := by
  unfold returns
  infer_instance

theorem reads_functionDef (decorators : List Expr) :
    Reads tokens (g.functionDef decorators) fun m n stmt => Lines tokens m n [stmt] := by
  have definition (isAsync : Bool) : Reads tokens (do
      let _ ← accept .kwDef
      let name ← nameText
      let _ ← require .parenOpen
      let params ← optional (g.params .function)
      let _ ← accept .parenClose
      let returns ← g.returns
      let _ ← require .colon
      return (.function isAsync name (params.getD Params.empty) decorators returns,
        [bodyOf (← g.block)])) (Headed tokens) :=
    Reads.headed fun _ => Reads.after fun name => Reads.after fun _ => Reads.after fun params =>
      Reads.after fun _ => Reads.after fun returns => Reads.after fun _ =>
        (g.reads_bodyOnly (.function isAsync name (params.getD Params.empty) decorators returns)
          rfl).mono fun _ _ _ => .here
  refine reads_compoundAt (Reads.choice fun p hp => ?_)
  simp only [List.mem_cons, List.not_mem_nil, or_false] at hp
  rcases hp with rfl | rfl | rfl
  · exact Reads.explain _ _
  · exact definition false
  · exact Reads.headed fun _ => (definition true).mono fun _ _ _ => Headed.after

theorem reads_classDef (decorators : List Expr) :
    Reads tokens (g.classDef decorators) fun m n stmt => Lines tokens m n [stmt] := by
  refine reads_compoundAt (Reads.two (Reads.explain _ _) ?_)
  refine Reads.headed fun _ => Reads.after fun name => Reads.after fun arguments =>
    Reads.after fun _ => (g.reads_block.bind fun body => Reads.pure _).mono ?_
  rintro m n found ⟨k, body, hb, rfl, rfl⟩
  exact .here ⟨rfl, hb.blocks .body⟩

/-- A definition may have decorators in front of it. -/
theorem reads_decorated {define : List Expr → P Stmt}
    (h : ∀ decorators, Reads tokens (define decorators) fun m n stmt => Lines tokens m n [stmt]) :
    Reads tokens (choice [do define (← g.decorators), define []]) fun m n stmt =>
      LineStart tokens m → Lines tokens m n [stmt] := by
  refine Reads.two ?_ ((h []).mono fun _ _ _ hl _ => hl)
  refine (g.reads_decorators.bind h).mono ?_
  rintro m n stmt ⟨k, decorators, hd, hl⟩ hs
  obtain ⟨hle, -, hp⟩ := hd hs
  have hlt := hl.lt
  exact ⟨by omega, hl.lineStart, hl.ne_nil, hp.append hl.parsed hle (by omega)⟩

/-! ### Statements -/

theorem reads_when {words : List Terminal} {p : P Stmt} {Q : Nat → Nat → Stmt → Prop}
    (hp : Reads tokens p Q) :
    Reads tokens (do ahead (choice (words.map accept)); p) Q := by
  have words : Consumes tokens (choice (words.map accept)) := inferInstance
  refine (words.reads.ahead.bind fun _ => hp).mono ?_
  rintro m n stmt ⟨k, _, rfl, h⟩
  exact h

theorem reads_compoundStmt : Reads tokens g.compoundStmt fun m n stmt =>
    LineStart tokens m → Lines tokens m n [stmt] := by
  refine Reads.choice fun p hp => ?_
  simp only [List.mem_cons, List.not_mem_nil, or_false] at hp
  rcases hp with rfl | rfl | rfl | rfl | rfl | rfl | rfl | rfl
  · exact reads_when (g.reads_decorated g.reads_functionDef)
  · exact reads_when ((g.reads_conditionStmt .kwIf).mono fun _ _ _ h _ => h)
  · exact reads_when (g.reads_decorated g.reads_classDef)
  · exact reads_when (g.reads_withStmt.mono fun _ _ _ h _ => h)
  · exact reads_when (g.reads_forStmt.mono fun _ _ _ h _ => h)
  · exact reads_when (g.reads_tryStmt.mono fun _ _ _ h _ => h)
  · exact reads_when (g.reads_whileStmt.mono fun _ _ _ h _ => h)
  · exact g.reads_matchStmt.mono fun _ _ _ h _ => h

theorem reads_statements : Reads tokens g.statements fun m n body =>
    LineStart tokens m → Lines tokens m n body := by
  have one : Reads tokens (choice [List.singleton <$> g.compoundStmt, g.simpleStmts])
      fun m n body => LineStart tokens m → Lines tokens m n body := by
    refine Reads.two ((g.reads_compoundStmt.map _).mono ?_)
      (g.reads_simpleStmts.mono fun _ _ _ h _ => h)
    rintro m n body ⟨stmt, hl, rfl⟩
    exact hl
  refine (one.many1.map List.flatten).mono ?_
  rintro m n body ⟨bodies, ⟨hne, hr⟩, rfl⟩
  induction hr with
  | nil => exact absurd rfl hne
  | @cons m k n body bodies hb hr ih =>
    intro hs
    have hl := hb hs
    cases hr with
    | nil => simpa using hl
    | cons hb' hr' =>
      have hrest := ih (by simp) hl.lineStart
      have h1 := hl.lt
      have h2 := hrest.lt
      refine ⟨by omega, hrest.lineStart, by simp [hl.ne_nil], ?_⟩
      rw [List.flatten_cons, nodesOf_append]
      exact hl.parsed.append hrest.parsed (by omega) (by omega)

theorem reads_file : Reads tokens g.file fun m n body => LineStart tokens m →
    ∃ k, n = k + 1 ∧ (tokenAt tokens k).kind = .finish ∧ Parsed tokens m n (nodesOf body) := by
  have finish : Reads tokens finish fun m n _ =>
      n = m + 1 ∧ (tokenAt tokens m).kind = .finish := by
    refine (Reads.tokenThat _).mono ?_
    rintro m n t ⟨rfl, rfl, h⟩
    exact ⟨rfl, by split at h <;> simp_all⟩
  refine (g.reads_statements.optional.bind fun body => finish.bind fun _ => Reads.pure _).mono ?_
  rintro m n body ⟨k, found, hf, k', _, ⟨rfl, hk⟩, rfl, rfl⟩ hs
  have hfree : IsFree tokens k :=
    .inl (by simp [IsLayout, Token.isLayout, hk, TokenKind.isLayout])
  refine ⟨k, rfl, hk, ?_⟩
  rcases hf with ⟨rfl, rfl⟩ | ⟨stmts, rfl, hl⟩
  · exact .one hfree
  · have hlt := (hl hs).lt
    have := (hl hs).parsed.append (.one hfree) (by omega) (Nat.le_succ k)
    rwa [List.append_nil] at this

/-! ### The grammar -/

theorem reads_body (r : Rule) : Reads tokens (g.body r) (Fits tokens r) := by
  cases r with
  | simpleStmt => exact g.reads_simpleStmtBody
  | block => exact g.reads_blockBody g.reads_statements
  | elifStmt => exact g.reads_conditionStmt .kwElif
  | expression => exact (inferInstance : Consumes tokens g.expressionBody).reads
  | starExpression => exact (inferInstance : Consumes tokens g.starExpressionBody).reads
  | disjunction => exact (inferInstance : Consumes tokens g.disjunctionBody).reads
  | conjunction => exact (inferInstance : Consumes tokens g.conjunctionBody).reads
  | inversion => exact (inferInstance : Consumes tokens g.inversionBody).reads
  | bitOr => exact (inferInstance : Consumes tokens g.bitOrBody).reads
  | bitXor => exact (inferInstance : Consumes tokens g.bitXorBody).reads
  | bitAnd => exact (inferInstance : Consumes tokens g.bitAndBody).reads
  | shift => exact (inferInstance : Consumes tokens g.shiftBody).reads
  | sum => exact (inferInstance : Consumes tokens g.sumBody).reads
  | term => exact (inferInstance : Consumes tokens g.termBody).reads
  | factor => exact (inferInstance : Consumes tokens g.factorBody).reads
  | awaitPrimary => exact (inferInstance : Consumes tokens g.awaitPrimaryBody).reads
  | primary => exact (inferInstance : Consumes tokens g.primaryBody).reads
  | strings => exact (inferInstance : Consumes tokens g.stringsBody).reads
  | arguments => exact (inferInstance : Consumes tokens g.argumentsBody).reads
  | faultyNamedExpression =>
    exact (inferInstance : Consumes tokens g.faultyNamedExpressionBody).reads
  | starTarget => exact (inferInstance : Consumes tokens g.starTargetBody).reads
  | targetWithStarAtom => exact (inferInstance : Consumes tokens g.targetWithStarAtomBody).reads
  | targetPrimary => exact (inferInstance : Consumes tokens g.targetPrimaryBody).reads
  | delTarget => exact (inferInstance : Consumes tokens g.delTargetBody).reads
  | singleTarget => exact (inferInstance : Consumes tokens g.singleTargetBody).reads
  | faultyAnnotationTarget =>
    exact (inferInstance : Consumes tokens g.faultyAnnotationTargetBody).reads
  | closedPattern => exact (inferInstance : Consumes tokens g.closedPatternBody).reads

omit hg in
theorem sound_upTo (depth : Nat) : (upTo depth).Sound tokens := by
  induction depth with
  | zero => exact ⟨fun r => Reads.fail _⟩
  | succ depth ih => exact ⟨fun r => Reads.memoize ((upTo depth).reads_body r)⟩

end Rules

/-- A text that can be read: its statements take up the tokens of the text to their end. -/
theorem parse_ok {env : Env} {depth : Nat} {body : List Stmt}
    (h : env.parse (Rules.upTo depth).file = .ok body) :
    ∃ k, (tokenAt env.tokens k).kind = .finish ∧
      Parsed env.tokens 0 (k + 1) (nodesOf body) := by
  have : (Rules.upTo depth).Sound env.tokens := Rules.sound_upTo depth
  obtain ⟨-, hv⟩ := (Rules.upTo depth).reads_file { env with explaining := false }
    { memo := Array.replicate (env.tokens.size + 1) [] } rfl rfl (keptWell_replicate _)
  unfold Env.parse at h
  dsimp only at h
  split at h
  next a after hp =>
    cases h
    rw [hp] at hv
    obtain ⟨k, hk, hf, hparsed⟩ := hv _ rfl (fun i hi => absurd hi (Nat.succ_ne_zero i))
    exact ⟨k, hf, hk ▸ hparsed⟩
  next => cases h
  next =>
    split at h
    · cases h
    · split at h <;> cases h

end DocSuite.Syntax.Grammar
