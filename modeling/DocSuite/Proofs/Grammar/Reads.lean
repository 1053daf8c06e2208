import DocSuite.Proofs.Grammar.Extent
import DocSuite.Proofs.Shape

/-!
What a parser reads: a relation between the mark before it, the mark behind it and its value. Main
statement: the relation of a parser that is put together follows from those of its parts, and the
values that are kept for a mark are values that the rule could read there.
-/
namespace DocSuite.Syntax.Grammar

/-! ### Values of rules -/

section

variable (tokens : Array Token)

/-- Some tokens with text are read. -/
def Text (m n : Nat) : Prop := m < n ∧ AllText tokens m n

/-- Statements of a text take up the tokens between two marks. -/
structure Parsed (m n : Nat) (nodes : List Stmt) : Prop where
  read : ∀ i, m ≤ i → i < n → IsText tokens i ∨ IsLayout tokens i
  covers : Covers tokens m n nodes
  fresh : Fresh nodes
  whole : Whole nodes

/-- Some statements are read, up to the start of a line. -/
structure Lines (m n : Nat) (body : List Stmt) : Prop where
  lt : m < n
  lineStart : LineStart tokens n
  ne_nil : body ≠ []
  parsed : Parsed tokens m n (nodesOf body)

/-- A statement without blocks is read. -/
structure OneLine (m n : Nat) (stmt : Stmt) : Prop where
  text : Text tokens m n
  isSimple : ∃ form, stmt = .simple
    { span := ⟨(tokenAt tokens m).span.start, (tokenAt tokens (n - 1)).span.stop⟩ } form

/-- What the value of a rule says of the tokens that it was read from. -/
def Fits : (r : Rule) → (m n : Nat) → r.Out → Prop
  | .simpleStmt, m, n, stmt => OneLine tokens m n stmt
  | .elifStmt, m, n, stmt => Lines tokens m n [stmt]
  | .block, m, n, body => Lines tokens m n body
  | _, m, n, _ => Text tokens m n

/-- The values that are kept are values of their rules. -/
def KeptWell (memo : Array (List Kept)) : Prop :=
  ∀ mark entries, memo[mark]? = some entries → ∀ kept ∈ entries,
    ∀ a n, kept.outcome = some (a, n) → Fits tokens kept.rule mark n a

end

/-- The values of a parser over the tokens stand in a relation to the marks. -/
def Reads (tokens : Array Token) {α : Type} (p : P α) (Q : Nat → Nat → α → Prop) : Prop :=
  ∀ env state, env.tokens = tokens → env.explaining = false → KeptWell tokens state.memo →
    KeptWell tokens (p env state).2.memo ∧
      ∀ a, (p env state).1 = .value a → Q state.mark (p env state).2.mark a

variable {tokens : Array Token} {α β : Type}

/-! ### Parsers that are put together -/

theorem Reads.mono {p : P α} {Q R : Nat → Nat → α → Prop} (h : Reads tokens p Q)
    (hq : ∀ m n a, Q m n a → R m n a) : Reads tokens p R := by
  intro env state ht he hk
  obtain ⟨h1, h2⟩ := h env state ht he hk
  exact ⟨h1, fun a ha => hq _ _ a (h2 a ha)⟩

theorem Reads.pure (a : α) : Reads tokens (pure a : P α) fun m n b => n = m ∧ b = a := by
  intro env state ht he hk
  refine ⟨hk, fun b hb => ⟨rfl, ?_⟩⟩
  cases hb
  rfl

theorem Reads.bind {p : P α} {f : α → P β} {Q : Nat → Nat → α → Prop}
    {R : α → Nat → Nat → β → Prop} (hp : Reads tokens p Q) (hf : ∀ a, Reads tokens (f a) (R a)) :
    Reads tokens (p >>= f) fun m n b => ∃ k a, Q m k a ∧ R a k n b := by
  intro env state ht he hk
  change KeptWell tokens (P.bind p f env state).2.memo ∧
    ∀ b, (P.bind p f env state).1 = .value b → ∃ k a, _ ∧ R a k (P.bind p f env state).2.mark b
  obtain ⟨h1, h2⟩ := hp env state ht he hk
  unfold P.bind
  split
  next a after h =>
    rw [h] at h1 h2
    obtain ⟨h3, h4⟩ := hf a env after ht he h1
    exact ⟨h3, fun b hb => ⟨_, a, h2 a rfl, h4 b hb⟩⟩
  all_goals
    next h =>
    rw [h] at h1
    exact ⟨h1, fun b hb => by cases hb⟩

theorem Reads.map {p : P α} {Q : Nat → Nat → α → Prop} (f : α → β) (hp : Reads tokens p Q) :
    Reads tokens (f <$> p) fun m n b => ∃ a, Q m n a ∧ b = f a :=
  (hp.bind fun a => Reads.pure (f a)).mono fun _ _ _ ⟨_, a, h, hn, hb⟩ => ⟨a, hn ▸ h, hb⟩

/-- A parser that gives no value and keeps what is known. -/
theorem Reads.of_no_value {p : P α} (Q : Nat → Nat → α → Prop)
    (h : ∀ env state, env.explaining = false →
      (p env state).2.memo = state.memo ∧ ∀ a, (p env state).1 ≠ .value a) :
    Reads tokens p Q := by
  intro env state ht he hk
  obtain ⟨h1, h2⟩ := h env state he
  exact ⟨h1 ▸ hk, fun a ha => absurd ha (h2 a)⟩

theorem Reads.fail (Q : Nat → Nat → α → Prop) : Reads tokens fail Q :=
  .of_no_value Q fun _ _ _ => ⟨rfl, fun _ h => by cases h⟩

theorem Reads.giveUp (Q : Nat → Nat → α → Prop) : Reads tokens giveUp Q :=
  .of_no_value Q fun _ _ _ => ⟨rfl, fun _ h => by cases h⟩

theorem Reads.raiseAt (Q : Nat → Nat → α → Prop) (line : Nat) (fault : Fault) :
    Reads tokens (raiseAt line fault) Q :=
  .of_no_value Q fun _ _ _ => ⟨rfl, fun _ h => by cases h⟩

theorem Reads.raiseLast (Q : Nat → Nat → α → Prop) (fault : Fault) :
    Reads tokens (raiseLast fault) Q :=
  .of_no_value Q fun _ _ _ => ⟨rfl, fun _ h => by cases h⟩

theorem Reads.explain (Q : Nat → Nat → α → Prop) (p : P Unit) : Reads tokens (explain p) Q :=
  .of_no_value Q fun env state he => by simp [Grammar.explain, he]

/-- A parser that does nothing but look. -/
theorem Reads.of_stays {p : P α} (Q : α → Prop)
    (h : ∀ env state, (p env state).2.memo = state.memo ∧ (p env state).2.mark = state.mark ∧
      ∀ a, (p env state).1 = .value a → Q a) :
    Reads tokens p fun m n a => n = m ∧ Q a := by
  intro env state ht he hk
  obtain ⟨h1, h2, h3⟩ := h env state
  exact ⟨h1 ▸ hk, fun a ha => ⟨h2, h3 a ha⟩⟩

theorem Reads.peek : Reads tokens peek fun m n t => n = m ∧ t = tokenAt tokens m := by
  intro env state ht he hk
  subst ht
  unfold Grammar.peek
  dsimp only
  split
  · exact ⟨hk, fun a ha => by cases ha⟩
  · refine ⟨hk, fun a ha => ?_⟩
    cases ha
    exact ⟨rfl, rfl⟩

theorem Reads.advance : Reads tokens advance fun m n _ => n = m + 1 :=
  fun _ _ _ _ hk => ⟨hk, fun _ _ => rfl⟩

theorem Reads.ite {c : Prop} [Decidable c] {p q : P α} {Q : Nat → Nat → α → Prop}
    (hp : c → Reads tokens p Q) (hq : ¬ c → Reads tokens q Q) :
    Reads tokens (if c then p else q) Q := by
  split
  next h => exact hp h
  next h => exact hq h

theorem Reads.tokenThat (test : Token → Bool) : Reads tokens (tokenThat test) fun m n t =>
    n = m + 1 ∧ t = tokenAt tokens m ∧ test t = true := by
  refine (Reads.peek.bind fun t => Reads.ite (c := test t = true)
    (Q := fun m n a => n = m + 1 ∧ a = t ∧ test t = true) (fun h => ?_)
    fun _ => Reads.fail _).mono ?_
  · exact (Reads.advance.bind fun _ => Reads.pure t).mono
      fun m n a ⟨k, _, hk, hn, ha⟩ => ⟨hn.trans hk, ha, h⟩
  · rintro m n a ⟨k, t, ⟨rfl, rfl⟩, rfl, rfl, h⟩
    exact ⟨rfl, rfl, h⟩

theorem Reads.require (t : Terminal) : Reads tokens (require t) fun m n token =>
    n = m + 1 ∧ token = tokenAt tokens m ∧ token.isTerminal t = true := by
  refine (Reads.peek.bind fun token => Reads.ite (c := token.isTerminal t = true)
    (Q := fun m n a => n = m + 1 ∧ a = token ∧ token.isTerminal t = true) (fun h => ?_)
    fun _ => Reads.raiseAt _ _ _).mono ?_
  · exact (Reads.advance.bind fun _ => Reads.pure token).mono
      fun m n a ⟨k, _, hk, hn, ha⟩ => ⟨hn.trans hk, ha, h⟩
  · rintro m n a ⟨k, t, ⟨rfl, rfl⟩, rfl, rfl, h⟩
    exact ⟨rfl, rfl, h⟩

theorem Reads.choice {Q : Nat → Nat → α → Prop} : ∀ {ps : List (P α)},
    (∀ p ∈ ps, Reads tokens p Q) → Reads tokens (choice ps) Q
  | [], _ => Reads.fail Q
  | p :: ps, h => by
    intro env state ht he hk
    obtain ⟨h1, h2⟩ := h p List.mem_cons_self env state ht he hk
    have ih := Reads.choice fun q hq => h q (List.mem_cons_of_mem _ hq)
    unfold Grammar.choice
    split
    next after hv =>
      rw [hv] at h1
      exact ih env { after with mark := state.mark } ht he h1
    next after hv =>
      rw [hv] at h1
      exact ⟨h1, fun a ha => by cases ha⟩
    next => exact ⟨h1, h2⟩

theorem Reads.commit {p : P α} {Q : Nat → Nat → α → Prop} (h : Reads tokens p Q) :
    Reads tokens (commit p) Q := by
  intro env state ht he hk
  obtain ⟨h1, h2⟩ := h env state ht he hk
  unfold Grammar.commit
  split
  next after hv =>
    rw [hv] at h1
    exact ⟨h1, fun a ha => by cases ha⟩
  next => exact ⟨h1, h2⟩

theorem Reads.optional {p : P α} {Q : Nat → Nat → α → Prop} (h : Reads tokens p Q) :
    Reads tokens (optional p) fun m n found =>
      (found = none ∧ n = m) ∨ ∃ a, found = some a ∧ Q m n a := by
  refine Reads.choice fun q hq => ?_
  simp only [List.mem_cons, List.not_mem_nil, or_false] at hq
  rcases hq with rfl | rfl
  · exact (h.map some).mono fun m n found ⟨a, ha, hf⟩ => .inr ⟨a, hf, ha⟩
  · exact (Reads.pure none).mono fun m n found ⟨hn, hf⟩ => .inl ⟨hf, hn⟩

theorem Reads.ahead {p : P α} {Q : Nat → Nat → α → Prop} (h : Reads tokens p Q) :
    Reads tokens (ahead p) fun m n _ => n = m := by
  intro env state ht he hk
  obtain ⟨h1, h2⟩ := h env state ht he hk
  unfold Grammar.ahead
  split
  next hv =>
    rw [hv] at h1
    exact ⟨h1, fun _ _ => rfl⟩
  next hv =>
    rw [hv] at h1
    exact ⟨h1, fun a ha => by cases ha⟩
  next hv =>
    rw [hv] at h1
    exact ⟨h1, fun a ha => by cases ha⟩

theorem Reads.notAhead {p : P α} {Q : Nat → Nat → α → Prop} (h : Reads tokens p Q) :
    Reads tokens (notAhead p) fun m n _ => n = m := by
  intro env state ht he hk
  obtain ⟨h1, h2⟩ := h env state ht he hk
  unfold Grammar.notAhead
  split
  next hv =>
    rw [hv] at h1
    exact ⟨h1, fun a ha => by cases ha⟩
  next hv =>
    rw [hv] at h1
    exact ⟨h1, fun a ha => by cases ha⟩
  next hv =>
    rw [hv] at h1
    exact ⟨h1, fun _ _ => rfl⟩

theorem Reads.startLine : Reads tokens startLine fun m n _ => n = m :=
  (Reads.peek.map Token.line).mono fun _ _ _ ⟨_, ⟨h, _⟩, _⟩ => h

theorem Reads.depthBehind : Reads tokens depthBehind fun m n _ => n = m :=
  fun _ _ _ _ hk => ⟨hk, fun _ _ => rfl⟩

/-! ### Parsers that are repeated -/

section

variable {step : α → P α} {T : α → Nat → Nat → α → Prop}

theorem Reads.iterate (refl : ∀ a m, T a m m a)
    (trans : ∀ a b c m k n, T a m k b → T b k n c → T a m n c)
    (hs : ∀ a, Reads tokens (step a) (T a)) (steps : Nat) (a : α) :
    Reads tokens (iterate step steps a) (T a) := by
  induction steps generalizing a with
  | zero =>
    refine (Reads.pure a).mono ?_
    rintro m n b ⟨rfl, rfl⟩
    exact refl _ _
  | succ steps ih =>
    refine ((hs a).optional.bind
      (R := fun found m n c => T (found.getD a) m n c) fun found => ?_).mono ?_
    · cases found with
      | none =>
        refine (Reads.pure a).mono ?_
        rintro m n b ⟨rfl, rfl⟩
        exact refl _ _
      | some b => exact ih b
    · rintro m n c ⟨k, found, ⟨rfl, rfl⟩ | ⟨b, rfl, hb⟩, hc⟩
      · exact hc
      · exact trans a b c m k n hb hc

theorem Reads.extend (refl : ∀ a m, T a m m a)
    (trans : ∀ a b c m k n, T a m k b → T b k n c → T a m n c)
    (hs : ∀ a, Reads tokens (step a) (T a)) (a : α) : Reads tokens (extend a step) (T a) :=
  fun env state => Reads.iterate refl trans hs (env.tokens.size + 1) a env state

end

/-- Values that were read one behind the other. -/
inductive Row (Q : Nat → Nat → α → Prop) : Nat → Nat → List α → Prop
  | nil (m : Nat) : Row Q m m []
  | cons {m k n : Nat} {a : α} {as : List α} : Q m k a → Row Q k n as → Row Q m n (a :: as)

theorem Row.append {Q : Nat → Nat → α → Prop} {m k n : Nat} {as bs : List α} (ha : Row Q m k as)
    (hb : Row Q k n bs) : Row Q m n (as ++ bs) := by
  induction ha with
  | nil => exact hb
  | cons h _ ih => exact .cons h (ih hb)

theorem Reads.many {p : P α} {Q : Nat → Nat → α → Prop} (h : Reads tokens p Q) :
    Reads tokens (many p) (Row Q) := by
  refine ((Reads.extend
    (T := fun done m n after => ∃ more, after = more.reverse ++ done ∧ Row Q m n more)
    ?_ ?_ (fun done => ?_) []).map List.reverse).mono ?_
  · exact fun done m => ⟨[], rfl, .nil m⟩
  · rintro a b c m k n ⟨more, rfl, hm⟩ ⟨rest, rfl, hr⟩
    exact ⟨more ++ rest, by simp, hm.append hr⟩
  · refine (h.map (· :: done)).mono ?_
    rintro m n after ⟨a, ha, rfl⟩
    exact ⟨[a], rfl, .cons ha (.nil n)⟩
  · rintro m n l ⟨done, ⟨more, rfl, hm⟩, rfl⟩
    simpa using hm

theorem Reads.many1 {p : P α} {Q : Nat → Nat → α → Prop} (h : Reads tokens p Q) :
    Reads tokens (many1 p) fun m n as => as ≠ [] ∧ Row Q m n as := by
  refine (h.bind fun a => h.many.bind fun as => Reads.pure (a :: as)).mono ?_
  rintro m n l ⟨k, a, ha, k', as, has, rfl, rfl⟩
  exact ⟨by simp, .cons ha has⟩

/-! ### Values that are kept -/

theorem keptWell_replicate (size : Nat) : KeptWell tokens (Array.replicate size []) := by
  intro mark entries h kept hm
  rw [Array.getElem?_replicate] at h
  split at h
  · cases h
    cases hm
  · cases h

theorem KeptWell.modify {memo : Array (List Kept)} {mark : Nat} {kept : Kept}
    (h : KeptWell tokens memo)
    (hv : ∀ a n, kept.outcome = some (a, n) → Fits tokens kept.rule mark n a) :
    KeptWell tokens (memo.modify mark (kept :: ·)) := by
  intro i entries hi other hm a n ho
  rw [Array.getElem?_modify] at hi
  split at hi
  next he =>
    subst he
    obtain ⟨before, hb, rfl⟩ := Option.map_eq_some_iff.mp hi
    rcases List.mem_cons.mp hm with rfl | hm
    · exact hv a n ho
    · exact h mark before hb other hm a n ho
  next => exact h i entries hi other hm a n ho

theorem mem_of_lookup? {r : Rule} {entries : List Kept} {outcome : Option (r.Out × Nat)}
    (h : lookup? r entries = some outcome) : (⟨r, outcome⟩ : Kept) ∈ entries := by
  obtain ⟨⟨rule, found⟩, hm, hf⟩ := List.exists_of_findSome?_eq_some h
  dsimp only at hf
  split at hf
  next he =>
    subst he
    cases hf
    exact hm
  next => cases hf

theorem Reads.memoize {r : Rule} {p : P r.Out} (h : Reads tokens p (Fits tokens r)) :
    Reads tokens (memoize r p) (Fits tokens r) := by
  intro env state ht he hk
  unfold Grammar.memoize
  split
  · exact h env state ht he hk
  · split
    next a mark hl =>
      refine ⟨hk, fun b hb => ?_⟩
      cases hb
      cases hs : state.memo[state.mark]? with
      | none => simp [hs, lookup?] at hl
      | some entries =>
        rw [hs, Option.getD_some] at hl
        exact hk state.mark entries hs _ (mem_of_lookup? hl) a mark rfl
    next => exact ⟨hk, fun b hb => by cases hb⟩
    next hl =>
      obtain ⟨h1, h2⟩ := h env state ht he hk
      dsimp only
      split
      next a after hv =>
        rw [hv] at h1 h2
        refine ⟨h1.modify fun b n ho => ?_, h2⟩
        cases ho
        exact h2 a rfl
      next hv =>
        rw [hv] at h1
        exact ⟨h1, fun b hb => by cases hb⟩
      next hv =>
        rw [hv] at h1
        exact ⟨h1.modify fun b n ho => (by cases ho), fun b hb => by cases hb⟩

end DocSuite.Syntax.Grammar
