import DocSuite.Proofs.Grammar.Compound
import DocSuite.Proofs.Token.Span

/-!
Where the statements of a text stand. Main statement: statements start in the order in which they
are listed, and each starts and ends at a character of the text.
-/
namespace DocSuite.Syntax.Grammar

open DocSuite.Text

/-! ### Tokens of a text -/

def tokensIn (text : List Char) : Array Token := (tokensOf 1 text).toArray

/-- Numbers of characters in front of the tokens and behind them. -/
structure Spots (text : List Char) (tokens : Array Token) (first stop : Nat → Nat) : Prop where
  lt : ∀ i, IsText tokens i → first i < stop i
  le : ∀ i, IsText tokens i → stop i ≤ text.length
  span : ∀ i, IsText tokens i → (tokenAt tokens i).span =
    ⟨bytePlace (text.take (first i)), bytePlace (text.take (stop i))⟩
  inOrder : ∀ i j, IsText tokens i → IsText tokens j → i < j → stop i ≤ first j

theorem tokenAt_cons_zero (token : Token) (rest : List Token) :
    tokenAt (token :: rest).toArray 0 = token := rfl

theorem tokenAt_cons_succ (token : Token) (rest : List Token) (i : Nat) :
    tokenAt (token :: rest).toArray (i + 1) = tokenAt rest.toArray i := by
  simp [tokenAt]

theorem isText_cons_succ {token : Token} {rest : List Token} {i : Nat} :
    IsText (token :: rest).toArray (i + 1) ↔ IsText rest.toArray i := by
  rw [IsText, IsText, tokenAt_cons_succ]

/-- A token without text takes up no characters. -/
theorem Spots.cons_other {text : List Char} {token : Token} {rest : List Token}
    {first stop : Nat → Nat} (h : Spots text rest.toArray first stop)
    (ht : ¬ IsText (token :: rest).toArray 0) :
    Spots text (token :: rest).toArray (fun i => first (i - 1)) (fun i => stop (i - 1)) := by
  refine ⟨fun i hi => ?_, fun i hi => ?_, fun i hi => ?_, fun i j hi hj hij => ?_⟩
  · cases i with
    | zero => exact absurd hi ht
    | succ i => exact h.lt i (isText_cons_succ.mp hi)
  · cases i with
    | zero => exact absurd hi ht
    | succ i => exact h.le i (isText_cons_succ.mp hi)
  · cases i with
    | zero => exact absurd hi ht
    | succ i =>
      rw [tokenAt_cons_succ]
      exact h.span i (isText_cons_succ.mp hi)
  · cases i with
    | zero => exact absurd hi ht
    | succ i =>
      cases j with
      | zero => omega
      | succ j =>
        exact h.inOrder i j (isText_cons_succ.mp hi) (isText_cons_succ.mp hj) (by omega)

/-- A sequence with a number in front. -/
def inFront (a : Nat) (f : Nat → Nat) : Nat → Nat
  | 0 => a
  | i + 1 => f i

theorem exists_spots_of_spells {text : List Char} {n : Nat} {tokens : List Token}
    (h : Spells text n tokens) : ∃ first stop, Spots text tokens.toArray first stop ∧
      ∀ i, IsText tokens.toArray i → n ≤ first i := by
  induction h with
  | nil n =>
    have hno (i : Nat) : ¬ IsText #[] i := fun h => by simp [IsText, tokenAt, endToken,
      Token.isLayout, TokenKind.isLayout] at h
    exact ⟨id, id, ⟨fun i hi => absurd hi (hno i), fun i hi => absurd hi (hno i),
      fun i hi => absurd hi (hno i), fun i _ hi => absurd hi (hno i)⟩,
      fun i hi => absurd hi (hno i)⟩
  | @other n token tokens ht _ ih =>
    obtain ⟨first, stop, hs, hn⟩ := ih
    have hno : ¬ IsText (token :: tokens).toArray 0 := fun h => by
      rw [IsText, tokenAt_cons_zero] at h
      rcases ht with ht | ht <;> simp [ht] at h
    refine ⟨_, _, hs.cons_other hno, fun i hi => ?_⟩
    cases i with
    | zero => exact absurd hi hno
    | succ i => exact hn i (isText_cons_succ.mp hi)
  | @text n a b token tokens ha hab hb hs _ ih =>
    obtain ⟨first, stop, hrest, hn⟩ := ih
    refine ⟨inFront a first, inFront b stop,
      ⟨fun i hi => ?_, fun i hi => ?_, fun i hi => ?_, fun i j hi hj hij => ?_⟩, fun i hi => ?_⟩
    · cases i with
      | zero => exact hab
      | succ i => exact hrest.lt i (isText_cons_succ.mp hi)
    · cases i with
      | zero => exact hb
      | succ i => exact hrest.le i (isText_cons_succ.mp hi)
    · cases i with
      | zero => exact hs
      | succ i =>
        rw [tokenAt_cons_succ]
        exact hrest.span i (isText_cons_succ.mp hi)
    · cases j with
      | zero => omega
      | succ j =>
        cases i with
        | zero => exact hn j (isText_cons_succ.mp hj)
        | succ i =>
          exact hrest.inOrder i j (isText_cons_succ.mp hi) (isText_cons_succ.mp hj) (by omega)
    · cases i with
      | zero => exact ha
      | succ i =>
        have := hn i (isText_cons_succ.mp hi)
        exact Nat.le_trans ha (Nat.le_trans (Nat.le_of_lt hab) this)

theorem exists_spots (text : List Char) :
    ∃ first stop, Spots text (tokensIn text) first stop := by
  obtain ⟨first, stop, h, -⟩ := exists_spots_of_spells (spells_tokensOf text)
  exact ⟨first, stop, h⟩

theorem length_tokens_of_finish {steps i : Nat} {lexer : Lexer} {token : Token}
    (h : (lexer.tokens steps)[i]? = some token) (hk : token.kind = .finish) :
    (lexer.tokens steps).length = i + 1 := by
  induction steps generalizing lexer i with
  | zero => simp [Lexer.tokens] at h
  | succ steps ih =>
    have alone {first : Token} (h : [first][i]? = some token) : [first].length = i + 1 := by
      cases i with
      | zero => rfl
      | succ i => simp at h
    rcases hs : lexer.step with ⟨found, next⟩
    cases found with
    | none =>
      simp only [Lexer.tokens, hs] at h ⊢
      exact ih h
    | some first =>
      cases hf : first.kind with
      | finish | failure reason =>
        simp only [Lexer.tokens, hs, hf] at h ⊢
        exact alone h
      | _ =>
        simp only [Lexer.tokens, hs, hf] at h ⊢
        cases i with
        | zero =>
          simp only [List.getElem?_cons_zero, Option.some.injEq] at h
          rw [h, hk] at hf
          cases hf
        | succ i =>
          rw [List.length_cons, ih (by simpa using h)]

theorem lt_size_of_isText {tokens : Array Token} {i : Nat} (h : IsText tokens i) :
    i < tokens.size := by
  rcases Nat.lt_or_ge i tokens.size with hi | hi
  · exact hi
  · have hnone : tokens[i]? = none := Array.getElem?_eq_none hi
    have hl := h.1
    simp [tokenAt, hnone, endToken, Token.isLayout, TokenKind.isLayout] at hl

theorem Spots.stop_le {text : List Char} {tokens : Array Token} {first stop : Nat → Nat}
    (h : Spots text tokens first stop) {i j : Nat} (hi : IsText tokens i) (hj : IsText tokens j)
    (hij : i ≤ j) : stop i ≤ stop j := by
  rcases Nat.eq_or_lt_of_le hij with rfl | hlt
  · exact Nat.le_refl _
  · exact Nat.le_trans (h.inOrder i j hi hj hlt) (Nat.le_of_lt (h.lt j hj))

theorem Spots.first_le {text : List Char} {tokens : Array Token} {first stop : Nat → Nat}
    (h : Spots text tokens first stop) {i j : Nat} (hi : IsText tokens i) (hj : IsText tokens j)
    (hij : i ≤ j) : first i ≤ first j := by
  rcases Nat.eq_or_lt_of_le hij with rfl | hlt
  · exact Nat.le_refl _
  · exact Nat.le_trans (Nat.le_of_lt (h.lt i hi)) (h.inOrder i j hi hj hlt)

/-! ### Statements of a text -/

/-- Statements take up the tokens of a text. -/
structure Fills (text : List Char) (nodes : List Stmt) (entries : List (Extent × Stmt)) : Prop where
  nodes : entries.map Prod.snd = nodes
  laid : ∃ n, (tokensIn text).size ≤ n ∧ Laid (tokensIn text) 0 n entries
  read : ∀ i, i < (tokensIn text).size → IsText (tokensIn text) i ∨ IsLayout (tokensIn text) i

theorem parseText_ok {source : List Char} {body : List Stmt} (h : parseText source = .ok body) :
    Fresh (nodesOf body) ∧ Whole (nodesOf body) ∧
      ∃ entries, Fills (Source.normalize source) (nodesOf body) entries := by
  unfold parseText at h
  obtain ⟨k, hk, hp⟩ := parse_ok h
  dsimp only at hk hp
  rw [← tokensIn] at hk hp
  obtain ⟨entries, hl, hn⟩ := hp.covers
  have hsize : (tokensIn (Source.normalize source)).size ≤ k + 1 := by
    rcases Nat.lt_or_ge k (tokensOf 1 (Source.normalize source)).length with hlt | hge
    · have ht : (tokensOf 1 (Source.normalize source))[k]? =
          some (tokenAt (tokensIn (Source.normalize source)) k) := by
        simp [tokenAt, tokensIn, hlt]
      exact Nat.le_of_eq (length_tokens_of_finish ht hk)
    · exact Nat.le_succ_of_le (by simpa [tokensIn] using hge)
  exact ⟨hp.fresh, hp.whole, entries, hn, ⟨k + 1, hsize, hl⟩,
    fun i hi => hp.read i (Nat.zero_le i) (Nat.lt_of_lt_of_le hi hsize)⟩

/-- Statements start in the order in which they are listed. -/
theorem Fills.ordered {text : List Char} {nodes : List Stmt} {entries : List (Extent × Stmt)}
    (h : Fills text nodes entries) :
    nodes.Pairwise fun a b => a.site.span.start.before b.site.span.start = true := by
  obtain ⟨first, stop, hs⟩ := exists_spots text
  obtain ⟨n, -, hl⟩ := h.laid
  rw [← h.nodes, List.pairwise_map]
  refine List.Pairwise.imp_of_mem ?_ hl.ordered
  intro a b ha hb hab
  have hta := (hl.isOf a ha).first_isText
  have htb := (hl.isOf b hb).first_isText
  rw [(hl.isOf a ha).start, (hl.isOf b hb).start, hs.span _ hta, hs.span _ htb]
  have h1 := hs.lt _ hta
  have h2 := hs.inOrder _ _ hta htb hab
  have h3 := hs.lt _ htb
  have h4 := hs.le _ htb
  exact placeBehind_take_before Utf8.width_pos text (by omega) (by omega)

/-- Each statement starts and ends at a character. -/
theorem Fills.span {text : List Char} {nodes : List Stmt} {entries : List (Extent × Stmt)}
    (h : Fills text nodes entries) {node : Stmt} (hn : node ∈ nodes) : ∃ a b,
      a < b ∧ b ≤ text.length ∧
        node.site.span = ⟨bytePlace (text.take a), bytePlace (text.take b)⟩ := by
  obtain ⟨first, stop, hs⟩ := exists_spots text
  obtain ⟨n, -, hl⟩ := h.laid
  rw [← h.nodes] at hn
  obtain ⟨entry, he, rfl⟩ := List.mem_map.mp hn
  have hof := hl.isOf entry he
  refine ⟨first entry.1.first, stop entry.1.last, ?_, hs.le _ hof.last_isText, ?_⟩
  · exact Nat.lt_of_lt_of_le (hs.lt _ hof.first_isText)
      (hs.stop_le hof.first_isText hof.last_isText hof.le)
  · have h1 := hof.start
    have h2 := hof.stop
    rw [hs.span _ hof.first_isText] at h1
    rw [hs.span _ hof.last_isText] at h2
    rw [← show (⟨entry.2.site.span.start, entry.2.site.span.stop⟩ : Span) = entry.2.site.span
      from rfl, h1, h2]

end DocSuite.Syntax.Grammar
