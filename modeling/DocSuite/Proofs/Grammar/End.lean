import DocSuite.Proofs.Grammar.Reads
import DocSuite.Syntax.Grammar.Compound

/-!
Parsers at the end of a text. Main statement: there all rules of the grammar fail without a fault,
so that a text without tokens has no statements.
-/
namespace DocSuite.Syntax.Grammar

/-! ### The end of a text -/

/-- No tokens are left, and no rule has had a value here. -/
structure AtEnd (env : Env) (mark : Nat) (state : State) : Prop where
  explaining : env.explaining = false
  finish : (env.token mark).kind = .finish
  mark_eq : state.mark = mark
  memo : ∀ kept ∈ (state.memo[mark]?).getD [], kept.outcome = none

namespace Result

variable {α : Type}

def NoValue : Result α → Prop
  | none | giveUp => True
  | value _ | stop _ => False

def NoFault : Result α → Prop
  | none | giveUp | value _ => True
  | stop _ => False

end Result

/-- At the end of a text the parser fails, and reads nothing. -/
class Fails {α : Type} (p : P α) : Prop where
  fails : ∀ {env mark state}, AtEnd env mark state →
    (p env state).1.NoValue ∧ AtEnd env mark (p env state).2

/-- At the end of a text the parser finds no fault, and reads nothing. -/
class Stays {α : Type} (p : P α) : Prop where
  stays : ∀ {env mark state}, AtEnd env mark state →
    (p env state).1.NoFault ∧ AtEnd env mark (p env state).2

/-- A test that the end of a text does not pass. -/
class FindsMore (test : Token → Bool) : Prop where
  not_finish : ∀ token, token.kind = .finish → test token = false

section

variable {α β : Type} {p : P α} {f : α → P β}

theorem AtEnd.reach {env : Env} {mark : Nat} {state : State} (h : AtEnd env mark state)
    (reached : Nat) : AtEnd env mark { state with reached } :=
  ⟨h.explaining, h.finish, h.mark_eq, h.memo⟩

theorem AtEnd.back {env : Env} {mark : Nat} {state after : State} (h : AtEnd env mark state)
    (ha : AtEnd env mark after) : AtEnd env mark { after with mark := state.mark } :=
  ⟨h.explaining, h.finish, h.mark_eq, ha.memo⟩

instance (priority := low) [h : Fails p] : Stays p :=
  ⟨fun {env mark state} hs => by
    obtain ⟨hno, ha⟩ := h.fails hs
    refine ⟨?_, ha⟩
    cases hr : (p env state).1 <;> simp_all [Result.NoValue, Result.NoFault]⟩

/-! ### Parsers that are put together -/

instance (a : α) : Stays (pure a : P α) := ⟨fun hs => ⟨trivial, hs⟩⟩

theorem bind_eq (p : P α) (f : α → P β) (env : Env) (state : State) :
    (p >>= f) env state = match p env state with
      | (.value a, after) => f a env after
      | (.none, after) => (.none, after)
      | (.giveUp, after) => (.giveUp, after)
      | (.stop fault, after) => (.stop fault, after) := rfl

/-- Where the first of two parsers stays, the second one decides. -/
theorem bind_atEnd {Q : Result β → Prop} (hnone : Q .none) (hgiveUp : Q .giveUp) [hp : Stays p]
    (hf : ∀ a {env mark state}, AtEnd env mark state →
      Q (f a env state).1 ∧ AtEnd env mark (f a env state).2)
    {env : Env} {mark : Nat} {state : State} (hs : AtEnd env mark state) :
    Q ((p >>= f) env state).1 ∧ AtEnd env mark ((p >>= f) env state).2 := by
  obtain ⟨hno, ha⟩ := hp.stays hs
  rw [bind_eq]
  rcases hr : p env state with ⟨_ | _ | _ | _, after⟩ <;> rw [hr] at hno ha
  · exact hf _ ha
  · exact ⟨hnone, ha⟩
  · exact ⟨hgiveUp, ha⟩
  · exact hno.elim

instance [Stays p] [hf : ∀ a, Stays (f a)] : Stays (p >>= f) :=
  ⟨bind_atEnd trivial trivial fun a => (hf a).stays⟩

instance [Stays p] [hf : ∀ a, Fails (f a)] : Fails (p >>= f) :=
  ⟨bind_atEnd trivial trivial fun a => (hf a).fails⟩

/-- What follows a parser that fails does not matter. -/
instance [hp : Fails p] : Fails (p >>= f) :=
  ⟨fun {env mark state} hs => by
    obtain ⟨hno, ha⟩ := hp.fails hs
    rw [bind_eq]
    rcases hr : p env state with ⟨_ | _ | _ | _, after⟩ <;> rw [hr] at hno ha
    · exact hno.elim
    · exact ⟨trivial, ha⟩
    · exact ⟨trivial, ha⟩
    · exact hno.elim⟩

instance (f : α → β) [Stays p] : Stays (f <$> p) :=
  inferInstanceAs (Stays (p >>= fun a => pure (f a)))

instance (f : α → β) [Fails p] : Fails (f <$> p) :=
  inferInstanceAs (Fails (p >>= fun a => pure (f a)))

instance : Fails (fail : P α) := ⟨fun hs => ⟨trivial, hs⟩⟩

instance (p : P Unit) : Fails (explain p : P α) :=
  ⟨fun hs => by
    rw [explain, hs.explaining]
    exact ⟨trivial, hs⟩⟩

theorem peek_eq {env : Env} {mark : Nat} {state : State} (hs : AtEnd env mark state) :
    peek env state = (.value (env.token mark),
      { state with reached := max state.reached (state.mark + 1) }) := by
  simp only [peek, hs.mark_eq, hs.finish]

instance : Stays peek :=
  ⟨fun hs => by
    rw [peek_eq hs]
    exact ⟨trivial, hs.reach _⟩⟩

instance (test : Token → Bool) [ht : FindsMore test] : Fails (tokenThat test) :=
  ⟨fun {env mark state} hs => by
    have hno : test (env.token mark) = false := ht.not_finish _ hs.finish
    rw [tokenThat, bind_eq, peek_eq hs]
    simp only [hno]
    exact ⟨trivial, hs.reach _⟩⟩

instance (t : Terminal) : FindsMore (·.isTerminal t) :=
  ⟨fun token h => by simp [Token.isTerminal, h]⟩

instance : FindsMore Token.isName := ⟨fun token h => by simp [Token.isName, h]⟩

instance : FindsMore Token.isNumber := ⟨fun token h => by simp [Token.isNumber, h]⟩

instance : FindsMore Token.isString := ⟨fun token h => by simp [Token.isString, h]⟩

instance (t : Terminal) : Fails (accept t) := inferInstanceAs (Fails (tokenThat _))

instance : Fails nameToken := inferInstanceAs (Fails (tokenThat _))

instance (word : List Char) : Fails (softKeyword word) := by
  have : FindsMore fun t : Token => t.isName && t.text == word :=
    ⟨fun token h => by simp [Token.isName, h]⟩
  exact inferInstanceAs (Fails (tokenThat _))

instance : Fails newline := by
  have : FindsMore fun t : Token => match t.kind with | .newline => true | _ => false :=
    ⟨fun token h => by simp [h]⟩
  exact inferInstanceAs (Fails (tokenThat _))

/-! ### Alternatives -/

/-- All alternatives fail at the end of a text. -/
class AllFail (ps : List (P α)) : Prop where
  fails : ∀ p ∈ ps, Fails p

variable {ps qs : List (P α)}

instance : AllFail ([] : List (P α)) := ⟨by simp⟩

instance [hp : Fails p] [hps : AllFail ps] : AllFail (p :: ps) :=
  ⟨List.forall_mem_cons.mpr ⟨hp, hps.fails⟩⟩

instance [hp : AllFail ps] [hq : AllFail qs] : AllFail (ps ++ qs) :=
  ⟨fun p h => (List.mem_append.mp h).elim (hp.fails p) (hq.fails p)⟩

instance {γ : Type} (f : γ → P α) (cs : List γ) [h : ∀ c, Fails (f c)] : AllFail (cs.map f) :=
  ⟨fun _ hp => (List.mem_map.mp hp).elim fun c hc => hc.2 ▸ h c⟩

theorem choice_cons (p : P α) (ps : List (P α)) (env : Env) (state : State) :
    choice (p :: ps) env state = match p env state with
      | (.none, after) => choice ps env { after with mark := state.mark }
      | (.giveUp, after) => (.none, { after with mark := state.mark })
      | outcome => outcome := rfl

theorem fails_choice (h : ∀ p ∈ ps, Fails p) : Fails (choice ps) := by
  induction ps with
  | nil => exact ⟨fun hs => ⟨trivial, hs⟩⟩
  | cons p ps ih =>
    rw [List.forall_mem_cons] at h
    refine ⟨fun {env mark state} hs => ?_⟩
    obtain ⟨hno, ha⟩ := h.1.fails hs
    rw [choice_cons]
    rcases hr : p env state with ⟨_ | _ | _ | _, after⟩ <;> rw [hr] at hno ha
    · exact hno.elim
    · exact (ih h.2).fails (hs.back ha)
    · exact ⟨trivial, hs.back ha⟩
    · exact hno.elim

instance [h : AllFail ps] : Fails (choice ps) := fails_choice h.fails

instance [hp : Fails p] : Fails (ahead p) :=
  ⟨fun {env mark state} hs => by
    obtain ⟨hno, ha⟩ := hp.fails hs
    rw [ahead]
    rcases hr : p env state with ⟨_ | _ | _ | _, after⟩ <;> rw [hr] at hno ha
    · exact hno.elim
    · exact ⟨trivial, hs.back ha⟩
    · exact ⟨trivial, hs.back ha⟩
    · exact hno.elim⟩

instance [hp : Stays p] : Stays (notAhead p) :=
  ⟨fun {env mark state} hs => by
    obtain ⟨hno, ha⟩ := hp.stays hs
    rw [notAhead]
    rcases hr : p env state with ⟨_ | _ | _ | _, after⟩ <;> rw [hr] at hno ha
    · exact ⟨trivial, hs.back ha⟩
    · exact ⟨trivial, hs.back ha⟩
    · exact ⟨trivial, hs.back ha⟩
    · exact hno.elim⟩

instance : Stays startLine := inferInstanceAs (Stays (Token.line <$> peek))

/-! ### Repetition -/

theorem optional_cases [hp : Fails p] {env : Env} {mark : Nat} {state : State}
    (hs : AtEnd env mark state) : AtEnd env mark (optional p env state).2 ∧
      ((optional p env state).1 = .none ∨ (optional p env state).1 = .value none) := by
  have hmap : Fails (some <$> p) := inferInstance
  obtain ⟨hno, ha⟩ := hmap.fails hs
  rw [optional, choice_cons]
  rcases hr : (some <$> p) env state with ⟨_ | _ | _ | _, after⟩ <;> rw [hr] at hno ha
  · exact hno.elim
  · exact ⟨hs.back ha, .inr rfl⟩
  · exact ⟨hs.back ha, .inl rfl⟩
  · exact hno.elim

/-- The first step fails already. -/
instance (step : α → P α) (a : α) [h : Fails (step a)] : Stays (extend a step) :=
  ⟨fun {env mark state} hs => by
    obtain ⟨ha, ho⟩ := optional_cases hs (p := step a)
    rw [extend, iterate, bind_eq]
    rcases hr : optional (step a) env state with ⟨result, after⟩
    rw [hr] at ha ho
    rcases ho with rfl | rfl
    · exact ⟨trivial, ha⟩
    · exact ⟨trivial, ha⟩⟩

instance [Fails p] : Fails (many1 p) := by
  unfold many1
  infer_instance

instance {separator : P β} [Fails p] : Fails (separated separator p) := by
  unfold separated
  infer_instance

instance [Fails p] : Fails (commaSeparated p) := by
  unfold commaSeparated
  infer_instance

instance {p : P Form} [Fails p] : Fails (located p) := by
  unfold located
  infer_instance

/-! ### Kept values -/

theorem AtEnd.keep {env : Env} {mark : Nat} {state : State} (h : AtEnd env mark state) (r : Rule) :
    AtEnd env mark { state with memo := state.memo.modify mark (⟨r, none⟩ :: ·) } := by
  refine ⟨h.explaining, h.finish, h.mark_eq, fun kept hk => ?_⟩
  have hmodify : (state.memo.modify mark (⟨r, none⟩ :: ·))[mark]? =
      state.memo[mark]?.map (⟨r, none⟩ :: ·) := by
    rw [Array.getElem?_modify, if_pos rfl]
  dsimp only at hk
  rw [hmodify] at hk
  cases hm : state.memo[mark]? with
  | none => simp [hm] at hk
  | some entries =>
    rw [hm, Option.map_some, Option.getD_some, List.mem_cons] at hk
    rcases hk with rfl | hk
    · rfl
    · exact h.memo kept (by rwa [hm, Option.getD_some])

instance (r : Rule) {p : P r.Out} [hp : Fails p] : Fails (memoize r p) :=
  ⟨fun {env mark state} hs => by
    obtain rfl : state.mark = mark := hs.mark_eq
    rw [memoize]
    split
    · exact hp.fails hs
    · split
      next a n hl =>
        have hnone := hs.memo _ (mem_of_lookup? hl)
        cases hnone
      next => exact ⟨trivial, hs⟩
      next =>
        obtain ⟨hno, ha⟩ := hp.fails hs
        dsimp only
        rcases hr : p env state with ⟨_ | _ | _ | _, after⟩ <;> rw [hr] at hno ha
        · exact hno.elim
        · exact ⟨trivial, (hs.back ha).keep r⟩
        · exact ⟨trivial, (hs.back ha).keep r⟩
        · exact hno.elim⟩

end

/-! ### Rules -/

instance : Fails nameText :=
  inferInstanceAs (Fails ((fun token => identifier token.text) <$> nameToken))

instance : Fails nameExpr := by
  unfold nameExpr
  infer_instance

instance (t : Terminal) (value : Literal) : Fails (constant t value) := by
  unfold constant
  infer_instance

instance : Fails number := by
  unfold number
  infer_instance

instance (g : Env → Except SyntaxFault Expr) : Fails (adjacentStrings g) := by
  unfold adjacentStrings
  infer_instance

instance {α : Type} (p : P α) [Fails p] : Fails (discard p) :=
  inferInstanceAs (Fails ((fun _ => ()) <$> p))

/-- Rules that fail at the end of a text. -/
class Rules.Ends (g : Rules) : Prop where
  fails : ∀ r, Fails (g.read r)

namespace Rules

variable (g : Rules) [hg : g.Ends]

instance : Fails g.simpleStmt := hg.fails _
instance : Fails g.expression := hg.fails _
instance : Fails g.starExpression := hg.fails _
instance : Fails g.disjunction := hg.fails _
instance : Fails g.conjunction := hg.fails _
instance : Fails g.inversion := hg.fails _
instance : Fails g.bitOr := hg.fails _
instance : Fails g.bitXor := hg.fails _
instance : Fails g.bitAnd := hg.fails _
instance : Fails g.shift := hg.fails _
instance : Fails g.sum := hg.fails _
instance : Fails g.term := hg.fails _
instance : Fails g.factor := hg.fails _
instance : Fails g.awaitPrimary := hg.fails _
instance : Fails g.primary := hg.fails _
instance : Fails g.strings := hg.fails _
instance : Fails g.starTarget := hg.fails _
instance : Fails g.targetWithStarAtom := hg.fails _
instance : Fails g.targetPrimary := hg.fails _
instance : Fails g.singleTarget := hg.fails _

/-! ### Expressions -/

instance (p : P Expr) : Fails (starred p) := by
  unfold starred
  infer_instance

instance (p : P Expr) [Fails p] : Fails (tupleOf p) := by
  unfold tupleOf
  infer_instance

instance : Fails g.starExpressions := inferInstanceAs (Fails (tupleOf _))

instance : Fails g.yieldExpr := by
  unfold yieldExpr
  infer_instance

instance : Fails g.assignmentExpression := by
  unfold assignmentExpression
  infer_instance

instance : Fails g.conditional := by
  unfold conditional
  infer_instance

instance : Fails g.lambda := by
  unfold lambda
  infer_instance

instance (op : Connective) (t : Terminal) (p : P Expr) [Fails p] : Fails (connected op t p) := by
  unfold connected
  infer_instance

instance (ops : List (Terminal × BinaryOp)) (p : P Expr) [Fails p] : Fails (leftGrouped ops p) := by
  unfold leftGrouped
  infer_instance

instance : Fails g.targets := by
  unfold targets
  infer_instance

instance : Fails g.starExpressionBody := by
  unfold starExpressionBody
  infer_instance

instance : Fails g.expressionBody := by
  unfold expressionBody
  infer_instance

instance : Fails g.disjunctionBody := by
  unfold disjunctionBody
  infer_instance

instance : Fails g.conjunctionBody := by
  unfold conjunctionBody
  infer_instance

instance : Fails g.inversionBody := by
  unfold inversionBody
  infer_instance

instance : Fails g.bitOrBody := by
  unfold bitOrBody
  infer_instance

instance : Fails g.bitXorBody := by
  unfold bitXorBody
  infer_instance

instance : Fails g.bitAndBody := by
  unfold bitAndBody
  infer_instance

instance : Fails g.shiftBody := by
  unfold shiftBody
  infer_instance

instance : Fails g.sumBody := by
  unfold sumBody
  infer_instance

instance : Fails g.termBody := by
  unfold termBody
  infer_instance

instance : Fails g.factorBody := by
  unfold factorBody
  infer_instance

instance : Fails g.list := by
  unfold list
  infer_instance

instance : Fails g.tuple := by
  unfold tuple
  infer_instance

instance (bracket : Bracket) (openWith closeWith : Terminal) (p : P Expr) :
    Fails (g.comprehensionIn bracket openWith closeWith p) := by
  unfold comprehensionIn
  infer_instance

instance : Fails g.generatorExpression := by
  unfold generatorExpression
  infer_instance

instance : Fails g.atom := by
  unfold atom
  infer_instance

instance : Fails g.primaryBody := by
  unfold primaryBody
  infer_instance

instance : Fails g.awaitPrimaryBody := by
  unfold awaitPrimaryBody
  infer_instance

instance : Fails g.stringsBody := by
  unfold stringsBody
  infer_instance

instance : Fails g.faultyNamedExpressionBody := by
  unfold faultyNamedExpressionBody
  infer_instance

/-! ### Arguments and targets -/

instance : Fails g.starredExpression := by
  unfold starredExpression
  infer_instance

instance : Fails g.namedArgument := by
  unfold namedArgument
  infer_instance

instance : Fails g.keywordOrStarred := by
  unfold keywordOrStarred
  infer_instance

instance : Fails g.keywordOrDoubleStarred := by
  unfold keywordOrDoubleStarred
  infer_instance

instance : Fails g.keywordArguments := by
  unfold keywordArguments
  infer_instance

instance : Fails g.plainOrNamed := by
  unfold plainOrNamed
  infer_instance

instance : Fails g.positionalArgument := by
  unfold positionalArgument
  infer_instance

instance : Fails g.args := by
  unfold args
  infer_instance

instance : Fails g.argumentsBody := by
  unfold argumentsBody
  infer_instance

instance : Fails g.targetPrimaryBody := by
  unfold targetPrimaryBody
  infer_instance

instance : Fails g.starTargetBody := by
  unfold starTargetBody
  infer_instance

instance : AllFail g.attributeOrIndex := by
  unfold attributeOrIndex
  infer_instance

instance (openWith closeWith : Terminal) (p : P Expr) : Fails (bracketed openWith closeWith p) := by
  unfold bracketed
  infer_instance

instance (openWith closeWith : Terminal) (p : P (List Expr)) (form : List Expr → Form) :
    Fails (elementsIn openWith closeWith p form) := by
  unfold elementsIn
  infer_instance

instance : Fails g.targetWithStarAtomBody := by
  unfold targetWithStarAtomBody
  infer_instance

instance : Fails g.singleTargetBody := by
  unfold singleTargetBody
  infer_instance

instance : Fails g.delTargetBody := by
  unfold delTargetBody
  infer_instance

instance : Fails g.faultyAnnotationTargetBody := by
  unfold faultyAnnotationTargetBody
  infer_instance

/-! ### Patterns -/

instance (p : P Expr) [Fails p] : Fails (signed p) := by
  unfold signed
  infer_instance

instance : Fails realNumber := by
  unfold realNumber
  infer_instance

instance : Fails complexNumber := by
  unfold complexNumber
  infer_instance

instance : Fails loneNumber := by
  unfold loneNumber
  infer_instance

instance : Fails underscore := inferInstanceAs (Fails (softKeyword _))

instance : Fails captureName := by
  unfold captureName
  infer_instance

instance (least : Nat) : Fails (attributeOf least) := by
  unfold attributeOf
  infer_instance

instance : Fails g.sequencePattern := by
  unfold sequencePattern
  infer_instance

instance : Fails g.mappingPattern := by
  unfold mappingPattern
  infer_instance

instance : Fails g.classPattern := by
  unfold classPattern
  infer_instance

instance : Fails g.closedPatternBody := by
  unfold closedPatternBody
  infer_instance

/-! ### Statements -/

instance (p : P Simple) [Fails p] : Fails (simpleAt p) := by
  unfold simpleAt
  infer_instance

instance (p : P (Head × List Block)) [Fails p] : Fails (compoundAt p) := by
  unfold compoundAt
  infer_instance

instance : Fails g.assignment := by
  unfold assignment
  infer_instance

instance : Fails g.simpleStmtBody := by
  unfold simpleStmtBody
  infer_instance

instance : Fails g.simpleStmts := by
  unfold simpleStmts
  infer_instance

instance : Fails matchWord := inferInstanceAs (Fails (softKeyword _))

instance : Fails g.matchStmt := by
  unfold matchStmt
  infer_instance

instance : Fails g.compoundStmt := by
  unfold compoundStmt
  infer_instance

instance : Fails g.statements := by
  unfold statements
  infer_instance

instance (p : P (List Stmt)) : Fails (g.blockBody p) := by
  unfold blockBody
  infer_instance

instance (keyword : Terminal) : Fails (g.conditionStmt keyword) := by
  unfold conditionStmt
  infer_instance

/-! ### The grammar -/

theorem fails_body (r : Rule) : Fails (g.body r) := by
  cases r <;> simp only [body] <;> infer_instance

end Rules

open Rules

instance ends_upTo (depth : Nat) : (upTo depth).Ends := by
  induction depth with
  | zero => exact ⟨fun _ => inferInstanceAs (Fails fail)⟩
  | succ depth ih =>
    refine ⟨fun r => ?_⟩
    have := fails_body (upTo depth) r
    exact inferInstanceAs (Fails (memoize r _))

theorem choice_ne_giveUp {α : Type} (ps : List (P α)) (env : Env) (state : State) :
    (choice ps env state).1 ≠ .giveUp := by
  induction ps generalizing state with
  | nil => exact fun h => by cases h
  | cons p ps ih =>
    rw [choice_cons]
    rcases p env state with ⟨_ | _ | _ | _, after⟩
    · exact fun h => by cases h
    · exact ih _
    · exact fun h => by cases h
    · exact fun h => by cases h

/-- No alternative of a statement gives up the statements. -/
theorem statements_eq_none {g : Rules} [g.Ends] {env : Env} {mark : Nat} {state : State}
    (hs : AtEnd env mark state) : (g.statements env state).1 = .none := by
  let statement : P (List Stmt) := choice [List.singleton <$> g.compoundStmt, g.simpleStmts]
  have hstatement : Fails statement := inferInstanceAs (Fails (choice _))
  obtain ⟨hno, -⟩ := hstatement.fails hs
  have hgive : (statement env state).1 ≠ .giveUp := choice_ne_giveUp _ env state
  change ((many1 statement >>= fun lines => pure lines.flatten) env state).1 = .none
  rw [bind_eq, many1, bind_eq]
  rcases hr : statement env state with ⟨_ | _ | _ | _, after⟩
  · rw [hr] at hno
    exact hno.elim
  · rfl
  · rw [hr] at hgive
    exact absurd rfl hgive
  · rw [hr] at hno
    exact hno.elim

theorem optional_statements {g : Rules} [g.Ends] {env : Env} {mark : Nat} {state : State}
    (hs : AtEnd env mark state) : ∃ after,
      optional g.statements env state = (.value none, after) ∧ AtEnd env mark after := by
  obtain ⟨ha, -⟩ := optional_cases hs (p := g.statements)
  refine ⟨_, Prod.ext ?_ rfl, ha⟩
  change (choice [g.statements >>= fun body => pure (some body), pure none] env state).1 = _
  have hnone := statements_eq_none (g := g) hs
  rw [choice_cons, bind_eq]
  rcases hr : g.statements env state with ⟨result, after⟩
  obtain rfl : result = .none := by rwa [hr] at hnone
  rfl

/-- A text without tokens has no statements. -/
theorem parse_file_of_finish (depth : Nat) {env : Env} (hk : (env.token 0).kind = .finish) :
    env.parse (upTo depth).file = .ok [] := by
  have hs : AtEnd { env with explaining := false } 0
      { memo := Array.replicate (env.tokens.size + 1) [] } := ⟨rfl, hk, rfl, by simp⟩
  obtain ⟨after, ho, ha⟩ := optional_statements (g := upTo depth) hs
  have hfile : ((upTo depth).file { env with explaining := false }
      { memo := Array.replicate (env.tokens.size + 1) [] }).1 = .value [] := by
    rw [file, bind_eq, ho]
    simp only [finish, tokenThat, bind_eq, peek_eq ha, ha.finish]
    rfl
  rw [Env.parse]
  rcases hr : (upTo depth).file { env with explaining := false }
    { memo := Array.replicate (env.tokens.size + 1) [] } with ⟨result, behind⟩
  obtain rfl : result = .value [] := by rwa [hr] at hfile
  rfl

end DocSuite.Syntax.Grammar
