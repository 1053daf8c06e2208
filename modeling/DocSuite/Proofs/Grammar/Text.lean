import DocSuite.Proofs.Grammar.Reads

/-!
Parsers of expressions and of other parts of a line. Main statement: all tokens that such a parser
reads have text, so that no line ends in between.
-/
namespace DocSuite.Syntax.Grammar

/-- The parser reads no layout. -/
class Spans (tokens : Array Token) {α : Type} (p : P α) : Prop where
  reads : Reads tokens p fun m n _ => m ≤ n ∧ AllText tokens m n

/-- The parser reads a token at least, and no layout. -/
class Consumes (tokens : Array Token) {α : Type} (p : P α) : Prop where
  reads : Reads tokens p fun m n _ => Text tokens m n

/-- A test that only tokens with text pass. -/
class FindsText (test : Token → Bool) : Prop where
  isText : ∀ token, test token = true → token.isLayout = false ∧ token.kind.isFailure = false

/-- Rules that read what is said of their values. -/
class Rules.Sound (tokens : Array Token) (g : Rules) : Prop where
  reads : ∀ r, Reads tokens (g.read r) (Fits tokens r)

section

variable {tokens : Array Token} {α β : Type} {p : P α} {q : P β} {f : α → P β}

theorem Text.of_token {m n : Nat} {token : Token} (hn : n = m + 1) (ht : token = tokenAt tokens m)
    (h : token.isLayout = false ∧ token.kind.isFailure = false) : Text tokens m n := by
  subst hn ht
  exact ⟨Nat.lt_succ_self m, fun i _ _ => by rwa [show i = m by omega]⟩

theorem AllText.of_eq {m n : Nat} (h : n = m) : m ≤ n ∧ AllText tokens m n := by
  subst h
  exact ⟨Nat.le_refl n, AllText.refl n⟩

theorem AllText.append_text {m k n : Nat} (h : AllText tokens m k) (hm : m ≤ k)
    (ht : Text tokens k n) : Text tokens m n :=
  ⟨Nat.lt_of_le_of_lt hm ht.1, h.append ht.2⟩

theorem Text.append_allText {m k n : Nat} (h : Text tokens m k) (hk : k ≤ n)
    (ht : AllText tokens k n) : Text tokens m n :=
  ⟨Nat.lt_of_lt_of_le h.1 hk, h.2.append ht⟩

theorem Spans.of_stays {Q : Nat → α → Prop} (h : Reads tokens p fun m n a => n = m ∧ Q m a) :
    Spans tokens p :=
  ⟨h.mono fun _ _ _ hn => AllText.of_eq hn.1⟩

theorem Spans.of_eq (h : Reads tokens p fun m n _ => n = m) : Spans tokens p :=
  ⟨h.mono fun _ _ _ hn => AllText.of_eq hn⟩

instance (priority := low) [h : Consumes tokens p] : Spans tokens p :=
  ⟨h.reads.mono fun _ _ _ ht => ⟨Nat.le_of_lt ht.1, ht.2⟩⟩

/-! ### Parsers that are put together -/

instance (a : α) : Spans tokens (pure a : P α) := .of_stays (Reads.pure a)

instance Spans.bind [hp : Spans tokens p] [hf : ∀ a, Spans tokens (f a)] :
    Spans tokens (p >>= f) :=
  ⟨(hp.reads.bind fun a => (hf a).reads).mono fun _ _ _ ⟨_, _, ⟨hm, hmk⟩, hk, hkn⟩ =>
    ⟨Nat.le_trans hm hk, hmk.append hkn⟩⟩

instance [hp : Consumes tokens p] [hf : ∀ a, Spans tokens (f a)] : Consumes tokens (p >>= f) :=
  ⟨(hp.reads.bind fun a => (hf a).reads).mono fun _ _ _ ⟨_, _, hm, hk, hkn⟩ =>
    hm.append_allText hk hkn⟩

instance [hp : Spans tokens p] [hf : ∀ a, Consumes tokens (f a)] : Consumes tokens (p >>= f) :=
  ⟨(hp.reads.bind fun a => (hf a).reads).mono fun _ _ _ ⟨_, _, ⟨hm, hmk⟩, hk⟩ =>
    hmk.append_text hm hk⟩

instance (f : α → β) [hp : Spans tokens p] : Spans tokens (f <$> p) :=
  ⟨(hp.reads.map f).mono fun _ _ _ ⟨_, h, _⟩ => h⟩

instance (f : α → β) [hp : Consumes tokens p] : Consumes tokens (f <$> p) :=
  ⟨(hp.reads.map f).mono fun _ _ _ ⟨_, h, _⟩ => h⟩

instance {c : Prop} [Decidable c] {p q : P α} [hp : Spans tokens p] [hq : Spans tokens q] :
    Spans tokens (if c then p else q) :=
  ⟨Reads.ite (fun _ => hp.reads) fun _ => hq.reads⟩

instance {c : Prop} [Decidable c] {p q : P α} [hp : Consumes tokens p] [hq : Consumes tokens q] :
    Consumes tokens (if c then p else q) :=
  ⟨Reads.ite (fun _ => hp.reads) fun _ => hq.reads⟩

instance : Consumes tokens (fail : P α) := ⟨Reads.fail _⟩

instance : Consumes tokens (giveUp : P α) := ⟨Reads.giveUp _⟩

instance (line : Nat) (fault : Fault) : Consumes tokens (raiseAt line fault : P α) :=
  ⟨Reads.raiseAt _ line fault⟩

instance (fault : Fault) : Consumes tokens (raiseLast fault : P α) := ⟨Reads.raiseLast _ fault⟩

instance (p : P Unit) : Consumes tokens (explain p : P α) := ⟨Reads.explain _ p⟩

instance : Spans tokens peek := .of_stays Reads.peek

instance (test : Token → Bool) [ht : FindsText test] : Consumes tokens (tokenThat test) :=
  ⟨(Reads.tokenThat test).mono fun _ _ t ⟨hn, hm, h⟩ => .of_token hn hm (ht.isText t h)⟩

instance (t : Terminal) : FindsText (·.isTerminal t) :=
  ⟨fun token h => by
    cases hk : token.kind <;>
      simp_all [Token.isTerminal, Token.isLayout, TokenKind.isLayout, TokenKind.isFailure]⟩

instance : FindsText Token.isName :=
  ⟨fun token h => by
    cases hk : token.kind <;>
      simp_all [Token.isName, Token.isLayout, TokenKind.isLayout, TokenKind.isFailure]⟩

instance : FindsText Token.isNumber :=
  ⟨fun token h => by
    cases hk : token.kind <;>
      simp_all [Token.isNumber, Token.isLayout, TokenKind.isLayout, TokenKind.isFailure]⟩

instance : FindsText Token.isString :=
  ⟨fun token h => by
    cases hk : token.kind <;>
      simp_all [Token.isString, Token.isLayout, TokenKind.isLayout, TokenKind.isFailure]⟩

instance (test test' : Token → Bool) [h : FindsText test] :
    FindsText fun t => test t && test' t :=
  ⟨fun token ht => h.isText token (Bool.and_eq_true_iff.mp ht).1⟩

instance (t : Terminal) : Consumes tokens (accept t) :=
  inferInstanceAs (Consumes tokens (tokenThat _))

instance : Consumes tokens nameToken := inferInstanceAs (Consumes tokens (tokenThat _))

instance (word : List Char) : FindsText fun t => t.isName && t.text == word :=
  inferInstanceAs (FindsText fun t => Token.isName t && (fun t => t.text == word) t)

instance (word : List Char) : Consumes tokens (softKeyword word) :=
  inferInstanceAs (Consumes tokens (tokenThat _))

instance (t : Terminal) : Consumes tokens (require t) :=
  ⟨(Reads.require t).mono fun _ _ token ⟨hn, hm, h⟩ =>
    .of_token hn hm (@FindsText.isText (·.isTerminal t) _ token h)⟩

/-! ### Alternatives -/

/-- All alternatives read no layout. -/
class AllSpan (tokens : Array Token) {α : Type} (ps : List (P α)) : Prop where
  spans : ∀ p ∈ ps, Spans tokens p

/-- All alternatives read a token at least, and no layout. -/
class AllConsume (tokens : Array Token) {α : Type} (ps : List (P α)) : Prop where
  consumes : ∀ p ∈ ps, Consumes tokens p

variable {ps qs : List (P α)}

instance : AllSpan tokens ([] : List (P α)) := ⟨by simp⟩

instance [hp : Spans tokens p] [hps : AllSpan tokens ps] : AllSpan tokens (p :: ps) :=
  ⟨List.forall_mem_cons.mpr ⟨hp, hps.spans⟩⟩

instance : AllConsume tokens ([] : List (P α)) := ⟨by simp⟩

instance [hp : Consumes tokens p] [hps : AllConsume tokens ps] : AllConsume tokens (p :: ps) :=
  ⟨List.forall_mem_cons.mpr ⟨hp, hps.consumes⟩⟩

instance [hp : AllConsume tokens ps] [hq : AllConsume tokens qs] : AllConsume tokens (ps ++ qs) :=
  ⟨fun p h => (List.mem_append.mp h).elim (hp.consumes p) (hq.consumes p)⟩

instance {γ : Type} (f : γ → P α) (cs : List γ) [h : ∀ c, Consumes tokens (f c)] :
    AllConsume tokens (cs.map f) :=
  ⟨fun _ hp => (List.mem_map.mp hp).elim fun c hc => hc.2 ▸ h c⟩

instance [h : AllSpan tokens ps] : Spans tokens (choice ps) :=
  ⟨Reads.choice fun p hp => (h.spans p hp).reads⟩

instance [h : AllConsume tokens ps] : Consumes tokens (choice ps) :=
  ⟨Reads.choice fun p hp => (h.consumes p hp).reads⟩

instance [h : Spans tokens p] : Spans tokens (commit p) := ⟨h.reads.commit⟩

instance [h : Consumes tokens p] : Consumes tokens (commit p) := ⟨h.reads.commit⟩

instance [h : Spans tokens p] : Spans tokens (optional p) :=
  ⟨h.reads.optional.mono fun _ _ _ hf => hf.elim (fun hn => AllText.of_eq hn.2) fun ⟨_, _, h⟩ => h⟩

instance [h : Spans tokens p] : Spans tokens (ahead p) := .of_eq h.reads.ahead

instance [h : Spans tokens p] : Spans tokens (notAhead p) := .of_eq h.reads.notAhead

instance : Spans tokens startLine := .of_eq Reads.startLine

instance : Spans tokens depthBehind := .of_eq Reads.depthBehind

/-! ### Repetition -/

instance (step : α → P α) (a : α) [h : ∀ a, Spans tokens (step a)] :
    Spans tokens (extend a step) :=
  ⟨Reads.extend (fun _ m => ⟨Nat.le_refl m, AllText.refl m⟩)
    (fun _ _ _ _ _ _ h h' => ⟨Nat.le_trans h.1 h'.1, h.2.append h'.2⟩) (fun a => (h a).reads) a⟩

instance [h : Spans tokens p] : Spans tokens (many p) :=
  inferInstanceAs (Spans tokens (List.reverse <$> extend [] fun done => (· :: done) <$> p))

instance [h : Spans tokens p] : Spans tokens (many1 p) := by
  unfold many1
  infer_instance

instance [h : Consumes tokens p] : Consumes tokens (many1 p) := by
  unfold many1
  infer_instance

instance {separator : P β} [Spans tokens separator] [Consumes tokens p] :
    Consumes tokens (separated separator p) := by
  unfold separated
  infer_instance

instance [Consumes tokens p] : Consumes tokens (commaSeparated p) := by
  unfold commaSeparated
  infer_instance

instance {p : P Form} [Consumes tokens p] : Consumes tokens (located p) := by
  unfold located
  infer_instance

end

end DocSuite.Syntax.Grammar
