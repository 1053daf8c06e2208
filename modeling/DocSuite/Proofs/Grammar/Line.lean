import DocSuite.Proofs.Grammar.End
import DocSuite.Proofs.Token.Line

/-!
Lines that parsers name. Main statement: over tokens in lines of which something holds, a parser
that is put together stops in such a line only, and its value starts in one, if that is so of its
parts.
-/
namespace DocSuite.Syntax

/-! ### Lines of expressions -/

/-- The expressions in which a fault may lie if the form is taken for a target. -/
def Form.targets : Form → List Expr
  | .list elements | .tuple elements => elements
  | .starred value | .compare value _ => [value]
  | _ => []

/-- An expression and the targets in it start in lines of which something holds. -/
inductive Expr.InLines (p : Nat → Prop) : Expr → Prop
  | mk {line : Nat} {form : Form} (h : p line)
      (htargets : ∀ target ∈ form.targets, Expr.InLines p target) : Expr.InLines p ⟨line, form⟩

theorem Expr.InLines.line {p : Nat → Prop} {e : Expr} (h : e.InLines p) : p e.line := by
  cases h
  assumption

namespace Grammar

theorem exists_of_invalidTargetIn? {use : TargetUse} {elements : List Expr} {part : Expr}
    (h : invalidTargetIn? use elements = some part) :
    ∃ e ∈ elements, invalidTarget? use e = some part := by
  induction elements with
  | nil => cases h
  | cons e rest ih =>
    rw [invalidTargetIn?, Option.or_eq_some_iff] at h
    rcases h with h | ⟨-, h⟩
    · exact ⟨e, List.mem_cons_self, h⟩
    · obtain ⟨e', he, h⟩ := ih h
      exact ⟨e', List.mem_cons_of_mem _ he, h⟩

/-- A part that cannot be a target starts in a line like the expression. -/
theorem line_of_invalidTarget? {p : Nat → Prop} {use : TargetUse} {e part : Expr}
    (he : e.InLines p) (h : invalidTarget? use e = some part) : p part.line := by
  induction he with
  | mk hline htargets ih =>
    rename_i line form
    have hself (hpart : (⟨line, form⟩ : Expr) = part) : p part.line := hpart ▸ hline
    cases form
    case list elements | tuple elements =>
      obtain ⟨e, hm, h⟩ := exists_of_invalidTargetIn? h
      exact ih e hm h
    case starred value =>
      cases use
      case delete => exact hself (Option.some.inj h)
      all_goals exact ih value (List.mem_singleton_self _) h
    case compare left rest =>
      cases use
      case forLoop =>
        simp only [invalidTarget?] at h
        split at h
        · exact ih left (List.mem_singleton_self _) h
        · cases h
        next hno _ => exact absurd rfl hno
      all_goals exact hself (Option.some.inj h)
    case name | subscript | «attribute» => cases h
    all_goals exact hself (Option.some.inj h)

/-! ### Values in lines -/

/-- What it is for a value to start in a line of which something holds. -/
class Lined (α : Type) where
  InLines : (p : Nat → Prop) → α → Prop

/-- Other values name no line. -/
instance (priority := low) unlined {α : Type} : Lined α := ⟨fun _ _ => True⟩

instance : Lined Token := ⟨Token.InLines⟩

instance : Lined Expr := ⟨Expr.InLines⟩

instance : Lined Form := ⟨fun p form => ∀ target ∈ form.targets, target.InLines p⟩

instance : Lined Arguments := ⟨fun p a => p a.line ∧ ∀ e ∈ a.args, e.InLines p⟩

instance : Lined Rules.KeywordArgument := ⟨fun p argument =>
  match argument with
  | .starred value => value.InLines p
  | .keyword _ => True⟩

instance {α : Type} [Lined α] : Lined (List α) := ⟨fun p as => ∀ a ∈ as, Lined.InLines p a⟩

instance {α : Type} [Lined α] : Lined (Option α) := ⟨fun p a? => ∀ a ∈ a?, Lined.InLines p a⟩

/-- A value that starts in a line of which something holds. -/
structure LinedValue (p : Nat → Prop) (α : Type) [Lined α] where
  value : α
  inLines : Lined.InLines p value

/-- A line of which something holds. -/
structure LineOf (p : Nat → Prop) where
  number : Nat
  holds : p number

section

variable (p : Nat → Prop) {α : Type} [Lined α]

/-- The value starts in a line of which something holds. -/
class StartsIn (a : α) : Prop where
  inLines : Lined.InLines p a

/-- Something holds of the line. -/
class Holds (line : Nat) : Prop where
  holds : p line

/-- No value of the type names a line. -/
class Unlined (α : Type) [Lined α] : Prop where
  inLines : ∀ (p : Nat → Prop) (a : α), Lined.InLines p a

end

section

variable {p : Nat → Prop} {α : Type} [Lined α]

instance : @Unlined α unlined := @Unlined.mk α unlined fun _ _ => trivial

instance [h : Unlined α] : Unlined (List α) := ⟨fun p _ a _ => h.inLines p a⟩

instance [h : Unlined α] : Unlined (Option α) := ⟨fun p _ a _ => h.inLines p a⟩

instance (priority := low) [h : Unlined α] (a : α) : StartsIn p a := ⟨h.inLines p a⟩

instance (a : LinedValue p α) : StartsIn p a.value := ⟨a.inLines⟩

instance (line : LineOf p) : Holds p line.number := ⟨line.holds⟩

instance (token : Token) [h : StartsIn p token] : Holds p token.line :=
  ⟨Token.InLines.line h.inLines⟩

instance (e : Expr) [h : StartsIn p e] : Holds p e.line := ⟨Expr.InLines.line h.inLines⟩

instance (a : Arguments) [h : StartsIn p a] : Holds p a.line := ⟨And.left h.inLines⟩

/-! ### Values that are put together -/

instance : StartsIn p ([] : List α) := ⟨fun _ h => by cases h⟩

instance (a : α) (as : List α) [ha : StartsIn p a] [has : StartsIn p as] :
    StartsIn p (a :: as) :=
  ⟨List.forall_mem_cons.mpr ⟨ha.inLines, has.inLines⟩⟩

instance (as bs : List α) [ha : StartsIn p as] [hb : StartsIn p bs] : StartsIn p (as ++ bs) :=
  ⟨fun a h => (List.mem_append.mp h).elim (ha.inLines a) (hb.inLines a)⟩

instance : StartsIn p (none : Option α) := ⟨fun _ h => by cases h⟩

instance (a : α) [h : StartsIn p a] : StartsIn p (some a) :=
  ⟨fun _ hm => Option.mem_some_iff.mp hm ▸ h.inLines⟩

instance (a? : Option α) (default : α) [h : StartsIn p a?] [hd : StartsIn p default] :
    StartsIn p (a?.getD default) :=
  ⟨by
    cases a? with
    | none => exact hd.inLines
    | some a => exact h.inLines a rfl⟩

instance (line : Nat) (form : Form) [hl : Holds p line] [hf : StartsIn p form] :
    StartsIn p (⟨line, form⟩ : Expr) :=
  ⟨.mk hl.holds hf.inLines⟩

section

variable (e e' e'' : Expr) (es : List Expr) (e? e?' e?'' : Option Expr)

instance [h : StartsIn p es] : StartsIn p (Form.list es) := ⟨h.inLines⟩

instance [h : StartsIn p es] : StartsIn p (Form.tuple es) := ⟨h.inLines⟩

instance [h : StartsIn p e] : StartsIn p (Form.starred e) :=
  ⟨List.forall_mem_singleton.mpr h.inLines⟩

instance (rest : List Comparison) [h : StartsIn p e] : StartsIn p (Form.compare e rest) :=
  ⟨List.forall_mem_singleton.mpr h.inLines⟩

/-- The form is no target, and has none in it. -/
theorem startsIn_of_targets {form : Form} (h : form.targets = []) : StartsIn p form :=
  ⟨fun target hm => by simp [h] at hm⟩

instance (op : Connective) : StartsIn p (Form.connect op es) := startsIn_of_targets rfl

instance : StartsIn p (Form.named e e') := startsIn_of_targets rfl

instance (op : BinaryOp) : StartsIn p (Form.binary e op e') := startsIn_of_targets rfl

instance (op : UnaryOp) : StartsIn p (Form.unary op e) := startsIn_of_targets rfl

instance (params : Params) : StartsIn p (Form.lambda params e) := startsIn_of_targets rfl

instance : StartsIn p (Form.conditional e e' e'') := startsIn_of_targets rfl

instance (entries : List Entry) : StartsIn p (Form.dict entries) := startsIn_of_targets rfl

instance : StartsIn p (Form.set es) := startsIn_of_targets rfl

instance (bracket : Bracket) (generators : List Generator) :
    StartsIn p (Form.comprehension bracket e generators) :=
  startsIn_of_targets rfl

instance (generators : List Generator) : StartsIn p (Form.dictComprehension e e' generators) :=
  startsIn_of_targets rfl

instance : StartsIn p (Form.await e) := startsIn_of_targets rfl

instance : StartsIn p (Form.yield e?) := startsIn_of_targets rfl

instance : StartsIn p (Form.yieldFrom e) := startsIn_of_targets rfl

instance (keywords : List Keyword) : StartsIn p (Form.call e es keywords) :=
  startsIn_of_targets rfl

instance (pieces : List Piece) : StartsIn p (Form.interpolated pieces) := startsIn_of_targets rfl

instance (value : Literal) : StartsIn p (Form.literal value) := startsIn_of_targets rfl

instance (name : String) : StartsIn p (Form.attribute e name) := startsIn_of_targets rfl

instance : StartsIn p (Form.subscript e e') := startsIn_of_targets rfl

instance (id : String) : StartsIn p (Form.name id) := startsIn_of_targets rfl

instance : StartsIn p (Form.slice e? e?' e?'') := startsIn_of_targets rfl

end

end

/-! ### Parsers -/

/-- The tokens of the environment are in lines of which something holds. -/
def Env.Within (p : Nat → Prop) (env : Env) : Prop := TokensWithin p env.tokens.toList

/-- What is said of the value of a rule. -/
def Rule.InLines (p : Nat → Prop) : (r : Rule) → r.Out → Prop
  | .simpleStmt, _ | .elifStmt, _ | .faultyNamedExpression, _ | .closedPattern, _ => True
  | .block, body => Lined.InLines p body
  | .arguments, a => Lined.InLines p a
  | .expression, e | .starExpression, e | .disjunction, e | .conjunction, e | .inversion, e
  | .bitOr, e | .bitXor, e | .bitAnd, e | .shift, e | .sum, e | .term, e | .factor, e
  | .awaitPrimary, e | .primary, e | .strings, e | .starTarget, e | .targetWithStarAtom, e
  | .targetPrimary, e | .delTarget, e | .singleTarget, e | .faultyAnnotationTarget, e =>
      Expr.InLines p e

/-- The marks are those of tokens, and values that are kept start in lines of which something
holds. -/
structure State.Within (p : Nat → Prop) (size : Nat) (state : State) : Prop where
  mark : state.mark < size
  reached : state.reached ≤ size
  memo : ∀ (mark : Nat) (entries : List Kept), state.memo[mark]? = some entries →
    ∀ kept ∈ entries, ∀ a n, kept.outcome = some (a, n) → kept.rule.InLines p a ∧ n < size

/-- A fault is in a line of which something holds. -/
def Result.Within (p : Nat → Prop) {α : Type} (q : α → Prop) : Result α → Prop
  | value a => q a
  | none | giveUp => True
  | stop fault => p fault.line

/-- Over tokens in lines of which something holds, the parser stops in such a line, and something
holds of its value. -/
def Yields (p : Nat → Prop) {α : Type} (q : α → Prop) (m : P α) : Prop :=
  ∀ env state, env.Within p → state.Within p env.tokens.size →
    (m env state).1.Within p q ∧ (m env state).2.Within p env.tokens.size

/-- The parser stops in lines of which something holds, and its value starts in one. -/
class Within (p : Nat → Prop) {α : Type} [Lined α] (m : P α) : Prop where
  yields : Yields p (Lined.InLines p) m

section

variable {p : Nat → Prop}

theorem Env.Within.token {env : Env} (h : env.Within p) {i : Nat} (hi : i < env.tokens.size) :
    (env.token i).InLines p := by
  rw [Env.token, Array.getElem?_eq_getElem hi, Option.getD_some]
  exact h.inLines _ (by simp)

theorem Env.Within.pos {env : Env} (h : env.Within p) : 0 < env.tokens.size := by
  obtain ⟨last, hlast, -⟩ := h.isLast
  rw [← Array.length_toList]
  exact List.length_pos_of_mem (List.mem_of_getLast? hlast)

theorem Env.Within.lastToken {env : Env} (h : env.Within p) {state : State}
    (hs : state.reached ≤ env.tokens.size) : (env.lastToken state).InLines p :=
  h.token (by have := h.pos; omega)

/-- Behind a token that is not the last one there is another. -/
theorem Env.Within.succ_lt {env : Env} (h : env.Within p) {i : Nat} (hi : i < env.tokens.size)
    (hl : ¬ (env.token i).IsLast) : i + 1 < env.tokens.size := by
  obtain ⟨last, hlast, hk⟩ := h.isLast
  refine Nat.lt_of_le_of_ne hi fun hn => hl ?_
  have hlast' : env.tokens[i]? = some last := by
    rw [← Array.getElem?_toList, ← Option.mem_def.mp hlast, List.getLast?_eq_getElem?,
      Array.length_toList, ← hn, Nat.add_sub_cancel]
  rw [Env.token, hlast']
  exact hk

theorem Env.Within.tokenReport (env : Env) {token : Token} (h : token.InLines p)
    {reason : TokenFault} (hk : token.kind = .failure reason) :
    p (env.tokenReport token reason).line := by
  obtain ⟨hline, -⟩ := h.failure reason hk
  unfold Env.tokenReport
  split <;> exact hline

/-- Looking at the token at the mark. -/
theorem State.Within.look {size : Nat} {state : State} (h : state.Within p size) :
    State.Within p size { state with reached := max state.reached (state.mark + 1) } :=
  ⟨h.mark, Nat.max_le.mpr ⟨h.reached, h.mark⟩, h.memo⟩

theorem peek_cases (env : Env) (state : State) :
    (∃ reason, (env.token state.mark).kind = .failure reason ∧
      peek env state = (.stop (env.tokenReport (env.token state.mark) reason),
        { state with reached := max state.reached (state.mark + 1) })) ∨
    ((env.token state.mark).kind.isFailure = false ∧
      peek env state = (.value (env.token state.mark),
        { state with reached := max state.reached (state.mark + 1) })) := by
  unfold peek
  dsimp only
  cases hk : (env.token state.mark).kind with
  | failure reason => exact .inl ⟨reason, rfl, rfl⟩
  | _ => exact .inr ⟨rfl, rfl⟩

theorem State.Within.back {size : Nat} {state after : State} (h : state.Within p size)
    (ha : after.Within p size) : { after with mark := state.mark }.Within p size :=
  ⟨h.mark, ha.reached, ha.memo⟩

/-- A value that was kept is as good as one that is read. -/
theorem State.Within.of_lookup? {size : Nat} {state : State} (h : state.Within p size) {r : Rule}
    {mark : Nat} {outcome : Option (r.Out × Nat)}
    (hl : lookup? r ((state.memo[mark]?).getD []) = some outcome) :
    ∀ a n, outcome = some (a, n) → r.InLines p a ∧ n < size := by
  cases hm : state.memo[mark]? with
  | none => simp [hm, lookup?] at hl
  | some entries =>
    rw [hm, Option.getD_some] at hl
    exact h.memo mark entries hm _ (mem_of_lookup? hl)

theorem State.Within.keep {size : Nat} {state : State} (h : state.Within p size) (mark : Nat)
    {r : Rule} {outcome : Option (r.Out × Nat)}
    (ho : ∀ a n, outcome = some (a, n) → r.InLines p a ∧ n < size) :
    State.Within p size { state with memo := state.memo.modify mark (⟨r, outcome⟩ :: ·) } := by
  refine ⟨h.mark, h.reached, fun other entries hm kept hk a n hv => ?_⟩
  rw [Array.getElem?_modify] at hm
  split at hm
  next =>
    obtain ⟨before, hbefore, rfl⟩ := Option.map_eq_some_iff.mp hm
    rcases List.mem_cons.mp hk with rfl | hk
    · exact ho a n hv
    · exact h.memo other before hbefore kept hk a n hv
  next => exact h.memo other entries hm kept hk a n hv

namespace Yields

section

variable {α β : Type} {q : α → Prop} {r : β → Prop} {m : P α} {f : α → P β}

theorem pure {a : α} (h : q a) : Yields p q (pure a) := fun _ _ _ hs => ⟨h, hs⟩

theorem bind (hm : Yields p q m) (hf : ∀ a, q a → Yields p r (f a)) : Yields p r (m >>= f) := by
  intro env state he hs
  obtain ⟨hr, ha⟩ := hm env state he hs
  rw [bind_eq]
  rcases hv : m env state with ⟨_ | _ | _ | _, after⟩ <;> rw [hv] at hr ha
  · exact hf _ hr env after he ha
  · exact ⟨trivial, ha⟩
  · exact ⟨trivial, ha⟩
  · exact ⟨hr, ha⟩

theorem fail : Yields p q fail := fun _ _ _ hs => ⟨trivial, hs⟩

theorem giveUp : Yields p q giveUp := fun _ _ _ hs => ⟨trivial, hs⟩

theorem raiseAt {line : Nat} (h : p line) (fault : Fault) : Yields p q (raiseAt line fault) :=
  fun _ _ _ hs => ⟨h, hs⟩

theorem raiseLast (fault : Fault) : Yields p q (raiseLast fault) :=
  fun _ _ he hs => ⟨(he.lastToken hs.reached).line, hs⟩

theorem peek : Yields p (Token.InLines p) peek := by
  intro env state he hs
  have htoken := he.token hs.mark
  rcases peek_cases env state with ⟨reason, hk, hv⟩ | ⟨hk, hv⟩ <;> rw [hv]
  · exact ⟨Env.Within.tokenReport env htoken hk, hs.look⟩
  · exact ⟨htoken, hs.look⟩

/-- A token that passes a test is read: it is not the last one. -/
theorem peek_advance {test : Token → Bool} [ht : FindsMore test] {other : Token → P Token}
    (ho : ∀ token, token.InLines p → Yields p (Token.InLines p) (other token)) :
    Yields p (Token.InLines p) (Grammar.peek >>= fun token =>
      if test token then Grammar.advance >>= fun _ => Pure.pure token else other token) := by
  intro env state he hs
  have htoken := he.token hs.mark
  rcases peek_cases env state with ⟨reason, hk, hv⟩ | ⟨hk, hv⟩ <;> rw [bind_eq, hv]
  · exact ⟨Env.Within.tokenReport env htoken hk, hs.look⟩
  · dsimp only
    split
    next htest =>
      have hmore : ¬ (env.token state.mark).IsLast := by
        rintro (hfinish | hfailure)
        · rw [ht.not_finish _ hfinish] at htest
          cases htest
        · rw [hk] at hfailure
          cases hfailure
      exact ⟨htoken, he.succ_lt hs.mark hmore, hs.look.reached, hs.memo⟩
    next => exact ho _ htoken env _ he hs.look

theorem tokenThat (test : Token → Bool) [FindsMore test] :
    Yields p (Token.InLines p) (tokenThat test) :=
  peek_advance fun _ _ => fail

theorem require (t : Terminal) : Yields p (Token.InLines p) (require t) :=
  peek_advance fun _ h => raiseAt h.line _

theorem choice {ms : List (P α)} (h : ∀ m ∈ ms, Yields p q m) : Yields p q (choice ms) := by
  induction ms with
  | nil => exact fail
  | cons m ms ih =>
    rw [List.forall_mem_cons] at h
    intro env state he hs
    obtain ⟨hr, ha⟩ := h.1 env state he hs
    rw [choice_cons]
    rcases hv : m env state with ⟨_ | _ | _ | _, after⟩ <;> rw [hv] at hr ha
    · exact ⟨hr, ha⟩
    · exact ih h.2 env _ he (hs.back ha)
    · exact ⟨trivial, hs.back ha⟩
    · exact ⟨hr, ha⟩

theorem commit (h : Yields p q m) : Yields p q (commit m) := by
  intro env state he hs
  obtain ⟨hr, ha⟩ := h env state he hs
  rw [Grammar.commit]
  rcases hv : m env state with ⟨_ | _ | _ | _, after⟩ <;> rw [hv] at hr ha <;> exact ⟨hr, ha⟩

theorem ahead {s : Unit → Prop} (h : Yields p q m) (hs : s ()) : Yields p s (ahead m) := by
  intro env state he hw
  obtain ⟨hr, ha⟩ := h env state he hw
  rw [Grammar.ahead]
  rcases hv : m env state with ⟨_ | _ | _ | _, after⟩ <;> rw [hv] at hr ha
  · exact ⟨hs, hw.back ha⟩
  · exact ⟨trivial, hw.back ha⟩
  · exact ⟨trivial, hw.back ha⟩
  · exact ⟨hr, ha⟩

theorem notAhead {s : Unit → Prop} (h : Yields p q m) (hs : s ()) : Yields p s (notAhead m) := by
  intro env state he hw
  obtain ⟨hr, ha⟩ := h env state he hw
  rw [Grammar.notAhead]
  rcases hv : m env state with ⟨_ | _ | _ | _, after⟩ <;> rw [hv] at hr ha
  · exact ⟨trivial, hw.back ha⟩
  · exact ⟨hs, hw.back ha⟩
  · exact ⟨hs, hw.back ha⟩
  · exact ⟨hr, ha⟩

theorem withoutExplaining (h : Yields p q m) : Yields p q (withoutExplaining m) :=
  fun env state he hs => h { env with explaining := false } state he hs

/-- Parsers that try what only explains a fault give no value there. -/
theorem explain {s : Unit → Prop} {m : P Unit} (h : Yields p s m) :
    Yields p q (explain m : P α) := by
  intro env state he hs
  unfold Grammar.explain
  split
  · exact (bind h fun _ _ => fail) env state he hs
  · exact ⟨trivial, hs⟩

theorem optional (h : Yields p q m) : Yields p (fun a? => ∀ a ∈ a?, q a) (optional m) := by
  refine choice fun m' hm => ?_
  simp only [List.mem_cons, List.not_mem_nil, or_false] at hm
  rcases hm with rfl | rfl
  · exact bind h fun a ha => pure fun b hb => Option.mem_some_iff.mp hb ▸ ha
  · exact pure fun a ha => by cases ha

theorem iterate {step : α → P α} (h : ∀ a, q a → Yields p q (step a)) (steps : Nat) {a : α}
    (ha : q a) : Yields p q (iterate step steps a) := by
  induction steps generalizing a with
  | zero => exact pure ha
  | succ steps ih =>
    refine bind (h a ha).optional fun b? hb => ?_
    cases b? with
    | none => exact pure ha
    | some b => exact ih (hb b rfl)

theorem extend {step : α → P α} (h : ∀ a, q a → Yields p q (step a)) {a : α} (ha : q a) :
    Yields p q (extend a step) :=
  fun env state => iterate h (env.tokens.size + 1) ha env state

theorem many (h : Yields p q m) : Yields p (fun as => ∀ a ∈ as, q a) (many m) := by
  refine bind (q := fun as => ∀ a ∈ as, q a) (extend (fun as has => ?_) (by simp)) fun as has =>
    pure fun a ha => has a (List.mem_reverse.mp ha)
  exact bind h fun a ha => pure (List.forall_mem_cons.mpr ⟨ha, has⟩)

theorem many1 (h : Yields p q m) : Yields p (fun as => ∃ a rest, as = a :: rest ∧
    q a ∧ ∀ b ∈ rest, q b) (many1 m) :=
  bind h fun a ha => bind h.many fun rest hrest => pure ⟨a, rest, rfl, ha, hrest⟩

/-! ### Values that are kept -/

theorem memoize {r : Rule} {m : P r.Out} (h : Yields p (r.InLines p) m) :
    Yields p (r.InLines p) (memoize r m) := by
  intro env state he hs
  rw [Grammar.memoize]
  split
  · exact h env state he hs
  · split
    next a mark hl =>
      obtain ⟨ha, hmark⟩ := hs.of_lookup? hl a mark rfl
      exact ⟨ha, hmark, hs.reached, hs.memo⟩
    next => exact ⟨trivial, hs⟩
    next =>
      obtain ⟨hr, ha⟩ := h env state he hs
      dsimp only
      rcases hv : m env state with ⟨_ | _ | _ | _, after⟩ <;> rw [hv] at hr ha
      · refine ⟨hr, ha.keep state.mark fun a n ho => ?_⟩
        cases ho
        exact ⟨hr, ha.mark⟩
      · exact ⟨trivial, (hs.back ha).keep state.mark fun a n ho => by cases ho⟩
      · exact ⟨trivial, (hs.back ha).keep state.mark fun a n ho => by cases ho⟩
      · exact ⟨hr, ha⟩

end

end Yields

/-! ### Parsers that are put together -/

section

variable {α β : Type} [Lined α] [Lined β] {m : P α} {f : α → P β}

instance (a : α) [h : StartsIn p a] : Within p (pure a : P α) := ⟨.pure h.inLines⟩

instance [hm : Within p m] [hf : ∀ a : LinedValue p α, Within p (f a.value)] :
    Within p (m >>= f) :=
  ⟨hm.yields.bind fun a ha => (hf ⟨a, ha⟩).yields⟩

/-- The line at which a parser starts is one of which something holds. -/
instance (priority := high) {f : Nat → P α} [hf : ∀ line : LineOf p, Within p (f line.number)] :
    Within p (startLine >>= f) :=
  ⟨(Yields.bind .peek fun _ ht => .pure ht.line : Yields p p startLine).bind
    fun line hl => (hf ⟨line, hl⟩).yields⟩

instance (f : α → β) [Within p m] [∀ a : LinedValue p α, StartsIn p (f a.value)] :
    Within p (f <$> m) :=
  inferInstanceAs (Within p (m >>= fun a => pure (f a)))

instance : Within p (fail : P α) := ⟨.fail⟩

instance : Within p (giveUp : P α) := ⟨.giveUp⟩

instance (line : Nat) (fault : Fault) [h : Holds p line] : Within p (raiseAt line fault : P α) :=
  ⟨.raiseAt h.holds fault⟩

instance (fault : Fault) : Within p (raiseLast fault : P α) := ⟨.raiseLast fault⟩

instance {c : Prop} [Decidable c] {m m' : P α} [hm : Within p m] [hm' : Within p m'] :
    Within p (if c then m else m') := by
  split
  · exact hm
  · exact hm'

instance : Within p peek := ⟨.peek⟩

instance (test : Token → Bool) [FindsMore test] : Within p (tokenThat test) := ⟨.tokenThat test⟩

instance (t : Terminal) : Within p (accept t) := inferInstanceAs (Within p (tokenThat _))

instance (t : Terminal) : Within p (require t) := ⟨.require t⟩

instance : Within p nameToken := inferInstanceAs (Within p (tokenThat _))

instance (word : List Char) : Within p (softKeyword word) := by
  have : FindsMore fun t : Token => t.isName && t.text == word :=
    ⟨fun token h => by simp [Token.isName, h]⟩
  exact inferInstanceAs (Within p (tokenThat _))

instance (words : List (List Char)) : Within p (softKeywordStart words) := by
  have : FindsMore fun t : Token => t.isName && words.any t.text.isPrefixOf :=
    ⟨fun token h => by simp [Token.isName, h]⟩
  exact inferInstanceAs (Within p (tokenThat _))

instance : Within p newline := by
  have : FindsMore fun t : Token => match t.kind with | .newline => true | _ => false :=
    ⟨fun token h => by simp [h]⟩
  exact inferInstanceAs (Within p (tokenThat _))

instance : Within p indent := by
  have : FindsMore fun t : Token => match t.kind with | .indent => true | _ => false :=
    ⟨fun token h => by simp [h]⟩
  exact inferInstanceAs (Within p (tokenThat _))

instance : Within p dedent := by
  have : FindsMore fun t : Token => match t.kind with | .dedent => true | _ => false :=
    ⟨fun token h => by simp [h]⟩
  exact inferInstanceAs (Within p (tokenThat _))

instance : Within p depthBehind := ⟨fun _ _ _ hs => ⟨trivial, hs⟩⟩

instance (start : Token) : Within p (spanFrom start) := ⟨fun _ _ _ hs => ⟨trivial, hs⟩⟩

/-- All alternatives stop in lines of which something holds. -/
class AllWithin (p : Nat → Prop) {α : Type} [Lined α] (ms : List (P α)) : Prop where
  within : ∀ m ∈ ms, Within p m

instance : AllWithin p ([] : List (P α)) := ⟨by simp⟩

instance {ms : List (P α)} [hm : Within p m] [hms : AllWithin p ms] : AllWithin p (m :: ms) :=
  ⟨List.forall_mem_cons.mpr ⟨hm, hms.within⟩⟩

instance {ms ns : List (P α)} [hm : AllWithin p ms] [hn : AllWithin p ns] :
    AllWithin p (ms ++ ns) :=
  ⟨fun m h => (List.mem_append.mp h).elim (hm.within m) (hn.within m)⟩

instance {γ : Type} (f : γ → P α) (cs : List γ) [h : ∀ c, Within p (f c)] :
    AllWithin p (cs.map f) :=
  ⟨fun _ hm => (List.mem_map.mp hm).elim fun c hc => hc.2 ▸ h c⟩

theorem AllWithin.map {f : P α → P β} (hf : ∀ m, Within p m → Within p (f m)) {ms : List (P α)}
    [h : AllWithin p ms] : AllWithin p (ms.map f) :=
  ⟨fun _ hm => (List.mem_map.mp hm).elim fun m hm => hm.2 ▸ hf m (h.within m hm.1)⟩

instance {ms : List (P α)} [h : AllWithin p ms] : Within p (choice ms) :=
  ⟨.choice fun m hm => (h.within m hm).yields⟩

instance [h : Within p m] : Within p (commit m) := ⟨.commit h.yields⟩

instance [h : Within p m] : Within p (optional m) := ⟨.optional h.yields⟩

instance [h : Within p m] : Within p (ahead m) := ⟨.ahead h.yields trivial⟩

instance [h : Within p m] : Within p (notAhead m) := ⟨.notAhead h.yields trivial⟩

instance {m : P Unit} [h : Within p m] : Within p (explain m : P α) := ⟨.explain h.yields⟩

instance [h : Within p m] : Within p (withoutExplaining m) := ⟨.withoutExplaining h.yields⟩

instance (a : α) (step : α → P α) [ha : StartsIn p a]
    [hs : ∀ a : LinedValue p α, Within p (step a.value)] : Within p (extend a step) :=
  ⟨.extend (fun a h => (hs ⟨a, h⟩).yields) ha.inLines⟩

instance [h : Within p m] : Within p (many m) := ⟨.many h.yields⟩

instance [Within p m] : Within p (many1 m) := by
  unfold many1
  infer_instance

instance {separator : P β} [Within p separator] [Within p m] :
    Within p (separated separator m) := by
  unfold separated
  infer_instance

instance [Within p m] : Within p (commaSeparated m) := by
  unfold commaSeparated
  infer_instance

instance {m : P Form} [Within p m] : Within p (located m) := by
  unfold located
  infer_instance

instance [Within p m] : Within p (discard m) := inferInstanceAs (Within p ((fun _ => ()) <$> m))

instance (t : Terminal) [Within p m] : Within p (behind t m) := by
  unfold behind
  infer_instance

end

/-! ### Whole texts -/

/-- Over tokens in lines of which something holds, a fault of the parser is in such a line. -/
def Settles (p : Nat → Prop) {α : Type} (m : P α) : Prop :=
  ∀ env state, env.Within p → state.Within p env.tokens.size →
    (m env state).1.Within p (fun _ => True) ∧ (m env state).2.reached ≤ env.tokens.size

theorem Yields.settles {α : Type} {q : α → Prop} {m : P α} (h : Yields p q m) : Settles p m := by
  intro env state he hs
  obtain ⟨hr, ha⟩ := h env state he hs
  refine ⟨?_, ha.reached⟩
  cases hv : (m env state).1 <;> rw [hv] at hr <;> first | exact hr | trivial

theorem Settles.bind {α β : Type} {q : α → Prop} {m : P α} {f : α → P β} (hm : Yields p q m)
    (hf : ∀ a, q a → Settles p (f a)) : Settles p (m >>= f) := by
  intro env state he hs
  obtain ⟨hr, ha⟩ := hm env state he hs
  rw [bind_eq]
  rcases hv : m env state with ⟨_ | _ | _ | _, after⟩ <;> rw [hv] at hr ha
  · exact hf _ hr env after he ha
  · exact ⟨trivial, ha.reached⟩
  · exact ⟨trivial, ha.reached⟩
  · exact ⟨hr, ha.reached⟩

/-- Behind the end of a text there is no token. -/
theorem settles_finish {α : Type} (a : α) : Settles p (finish >>= fun _ => pure a) := by
  intro env state he hs
  have htoken := he.token hs.mark
  rw [finish, tokenThat, bind_eq, bind_eq]
  rcases peek_cases env state with ⟨reason, hk, hv⟩ | ⟨hk, hv⟩ <;> rw [hv]
  · exact ⟨Env.Within.tokenReport env htoken hk, hs.look.reached⟩
  · dsimp only
    cases (env.token state.mark).kind <;> exact ⟨trivial, hs.look.reached⟩

theorem State.within_start {size reached : Nat} (h : 0 < size) (hr : reached ≤ size) :
    State.Within p size { reached, memo := Array.replicate (size + 1) [] } where
  mark := h
  reached := hr
  memo mark entries hm kept hk := by
    obtain rfl := Array.eq_of_mem_replicate (Array.mem_of_getElem? hm)
    cases hk

theorem Env.Within.laterFault? {env : Env} (he : env.Within p) {state : State}
    {fault : SyntaxFault} (h : env.laterFault? state = some fault) : p fault.line := by
  unfold Env.laterFault? at h
  dsimp only at h
  split at h
  next => cases h
  next token htoken =>
    have hin : token.InLines p :=
      he.inLines token (List.mem_of_mem_drop (List.mem_of_getLast? htoken))
    split at h
    next reason hk =>
      obtain ⟨hline, hopening⟩ := hin.failure reason hk
      split at h
      · exact Option.some.inj h ▸ Env.Within.tokenReport env hin hk
      · split at h
        next bracket line ho =>
          split at h
          · exact Option.some.inj h ▸ hopening _ ho
          · cases h
        next => cases h
    next => cases h

theorem Env.Within.getD_laterFault? {env : Env} (he : env.Within p) (state : State)
    {fault : SyntaxFault} (h : p fault.line) : p ((env.laterFault? state).getD fault).line := by
  cases hl : env.laterFault? state with
  | none => exact h
  | some later => exact he.laterFault? hl

theorem Env.Within.parse {env : Env} (he : env.Within p) {α : Type} {m : P α} (hm : Settles p m)
    {fault : SyntaxFault} (h : env.parse m = .error fault) : p fault.line := by
  have hread (explaining : Bool) {reached : Nat} (hr : reached ≤ env.tokens.size) :=
    hm { env with explaining } _ he (State.within_start he.pos hr)
  unfold Env.parse at h
  dsimp only at h
  split at h
  next => cases h
  next after hfirst => 
    have hfault := (hread false (Nat.zero_le _)).1
    rw [hfirst] at hfault
    cases h
    exact he.getD_laterFault? _ hfault
  next first _ _ hfirst =>
    have hreached := (hread false (Nat.zero_le _)).2
    rw [hfirst] at hreached
    split at h
    next after hsecond =>
      have hfault := (hread true hreached).1
      rw [hsecond] at hfault
      cases h
      exact he.getD_laterFault? _ hfault
    next after _ hsecond =>
      have hafter := (hread true hreached).2
      rw [hsecond] at hafter
      split at h <;> cases h
      · exact (he.lastToken hafter).line
      · exact (he.lastToken hafter).line
      · exact he.getD_laterFault? _ (he.lastToken hreached).line

end

end Grammar

end DocSuite.Syntax
