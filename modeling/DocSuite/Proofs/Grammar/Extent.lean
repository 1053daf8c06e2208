import DocSuite.Proofs.Forest
import DocSuite.Syntax.Grammar.Compound

/-!
Where statements stand among the tokens of a text. Main statement: a token that is neither layout,
nor a semicolon, nor part of a clause header or a decorator belongs to a statement that starts at or
before it, and no statement ends between that start and the token.
-/
namespace DocSuite.Syntax.Grammar

/-! ### Tokens -/

def tokenAt (tokens : Array Token) (i : Nat) : Token := (tokens[i]?).getD endToken

section

variable (tokens : Array Token)

/-- The token is an end or an indentation. -/
def IsLayout (i : Nat) : Prop := (tokenAt tokens i).isLayout = true

/-- The token has text of its own. -/
def IsText (i : Nat) : Prop :=
  (tokenAt tokens i).isLayout = false ∧ (tokenAt tokens i).kind.isFailure = false

/-- All tokens from one mark up to another have text of their own. -/
def AllText (m n : Nat) : Prop := ∀ i, m ≤ i → i < n → IsText tokens i

/-- A line of code can start at the mark. -/
def LineStart (m : Nat) : Prop := ∀ i, i + 1 = m → IsLayout tokens i

/-- The last token with text before a mark. -/
structure IsLastText (n last : Nat) : Prop where
  lt : last < n
  isText : IsText tokens last
  layout : ∀ i, last < i → i < n → IsLayout tokens i

end

/-- Whether a line that the token starts is a clause header or a decorator, if it is no
statement. -/
def opensClause (token : Token) : Bool :=
  token.isTerminal .kwElse || token.isTerminal .kwExcept || token.isTerminal .kwFinally ||
    token.isTerminal .atSign || (token.isName && token.text == ['c', 'a', 's', 'e'])

section

variable (tokens : Array Token)

/-- The token is in a line that a clause header or a decorator starts. -/
def InClause (i : Nat) : Prop :=
  ∃ m ≤ i, LineStart tokens m ∧ opensClause (tokenAt tokens m) = true ∧ AllText tokens m (i + 1)

/-- The token can stand between statements. -/
def IsFree (i : Nat) : Prop :=
  IsLayout tokens i ∨ (tokenAt tokens i).isTerminal .semicolon = true ∨ InClause tokens i

end

/-! ### Statements among tokens -/

/-- The first and the last token of a statement. -/
structure Extent where
  first : Nat
  last : Nat

structure Extent.IsOf (tokens : Array Token) (extent : Extent) (stmt : Stmt) : Prop where
  le : extent.first ≤ extent.last
  first_isText : IsText tokens extent.first
  last_isText : IsText tokens extent.last
  start : stmt.site.span.start = (tokenAt tokens extent.first).span.start
  stop : stmt.site.span.stop = (tokenAt tokens extent.last).span.stop

/-- The statements with the tokens that they take up between two marks: each other token there is
free, or belongs to a statement that goes on at least to that token, as does each statement that
starts behind that one. -/
structure Laid (tokens : Array Token) (m n : Nat) (entries : List (Extent × Stmt)) : Prop where
  isOf : ∀ entry ∈ entries, entry.1.IsOf tokens entry.2
  inside : ∀ entry ∈ entries, m ≤ entry.1.first ∧ entry.1.last < n
  ordered : entries.Pairwise fun a b => a.1.first < b.1.first
  owned : ∀ i, m ≤ i → i < n → IsFree tokens i ∨
    ∃ owner ∈ entries, owner.1.first ≤ i ∧
      ∀ entry ∈ entries, entry.1.last < owner.1.first ∨ i ≤ entry.1.last

/-- Statements take up the tokens between two marks. -/
def Covers (tokens : Array Token) (m n : Nat) (nodes : List Stmt) : Prop :=
  ∃ entries, Laid tokens m n entries ∧ entries.map Prod.snd = nodes

section

variable {tokens : Array Token} {m n : Nat}

theorem AllText.mono {m' n' : Nat} (h : AllText tokens m n) (hm : m ≤ m') (hn : n' ≤ n) :
    AllText tokens m' n' := fun i hi hi' => h i (Nat.le_trans hm hi) (Nat.lt_of_lt_of_le hi' hn)

theorem AllText.append {k : Nat} (h : AllText tokens m k) (h' : AllText tokens k n) :
    AllText tokens m n := by
  intro i hi hn
  rcases Nat.lt_or_ge i k with hk | hk
  · exact h i hi hk
  · exact h' i hk hn

theorem AllText.refl (m : Nat) : AllText tokens m m := fun _ _ _ => by omega

/-- The tokens of a line that a clause header starts are free. -/
theorem AllText.isFree (h : AllText tokens m n) (hs : LineStart tokens m)
    (ho : opensClause (tokenAt tokens m) = true) :
    ∀ i, m ≤ i → i < n → IsFree tokens i :=
  fun _ hi hn => .inr (.inr ⟨m, hi, hs, ho, h.mono (Nat.le_refl _) hn⟩)

theorem IsLayout.not_isText {i : Nat} (h : IsLayout tokens i) : ¬ IsText tokens i := fun ht => by
  simp [IsLayout, ht.1] at h

theorem isText_of_isTerminal {i : Nat} {t : Terminal}
    (h : (tokenAt tokens i).isTerminal t = true) : IsText tokens i := by
  cases hk : (tokenAt tokens i).kind <;>
    simp_all [IsText, Token.isTerminal, Token.isLayout, TokenKind.isLayout, TokenKind.isFailure]

theorem IsFree.isText_or {i : Nat} (h : IsFree tokens i) : IsText tokens i ∨ IsLayout tokens i := by
  rcases h with h | h | ⟨m, hm, -, -, ht⟩
  · exact .inr h
  · exact .inl (isText_of_isTerminal h)
  · exact .inl (ht i hm (Nat.lt_succ_self i))

theorem exists_isLastText (hr : ∀ i, m ≤ i → i < n → IsText tokens i ∨ IsLayout tokens i)
    (hm : m < n) (ht : IsText tokens m) : ∃ last, IsLastText tokens n last := by
  induction n with
  | zero => omega
  | succ n ih =>
    rcases hr n (by omega) (Nat.lt_succ_self n) with hn | hn
    · exact ⟨n, Nat.lt_succ_self n, hn, fun i hi hi' => by omega⟩
    · have hmn : m ≠ n := fun he => hn.not_isText (he ▸ ht)
      obtain ⟨last, hl⟩ := ih (fun i hi hi' => hr i hi (by omega)) (by omega)
      refine ⟨last, by have := hl.lt; omega, hl.isText, fun j hj hj' => ?_⟩
      by_cases hjn : j = n
      · exact hjn ▸ hn
      · exact hl.layout j hj (by omega)

theorem Covers.free (h : ∀ i, m ≤ i → i < n → IsFree tokens i) : Covers tokens m n [] :=
  ⟨[], ⟨by simp, by simp, .nil, fun i hi hn => .inl (h i hi hn)⟩, rfl⟩

theorem Covers.append {k : Nat} {as bs : List Stmt} (ha : Covers tokens m k as)
    (hb : Covers tokens k n bs) (hm : m ≤ k) (hn : k ≤ n) : Covers tokens m n (as ++ bs) := by
  obtain ⟨es, he, rfl⟩ := ha
  obtain ⟨fs, hf, rfl⟩ := hb
  refine ⟨es ++ fs, ⟨?_, ?_, ?_, ?_⟩, by simp⟩
  · intro entry h
    exact (List.mem_append.mp h).elim (he.isOf entry) (hf.isOf entry)
  · intro entry h
    rcases List.mem_append.mp h with h | h
    · have := he.inside entry h
      omega
    · have := hf.inside entry h
      omega
  · refine List.pairwise_append.mpr ⟨he.ordered, hf.ordered, fun a ha b hb => ?_⟩
    have h1 := he.inside a ha
    have h2 := (he.isOf a ha).le
    have h3 := hf.inside b hb
    omega
  · intro i hi hin
    rcases Nat.lt_or_ge i k with hk | hk
    · refine (he.owned i hi hk).imp_right ?_
      rintro ⟨owner, ho, hoi, hall⟩
      refine ⟨owner, List.mem_append_left _ ho, hoi, fun entry h => ?_⟩
      rcases List.mem_append.mp h with h | h
      · exact hall entry h
      · have h1 := hf.inside entry h
        have h2 := (hf.isOf entry h).le
        exact .inr (by omega)
    · refine (hf.owned i hk hin).imp_right ?_
      rintro ⟨owner, ho, hoi, hall⟩
      refine ⟨owner, List.mem_append_right _ ho, hoi, fun entry h => ?_⟩
      rcases List.mem_append.mp h with h | h
      · have h1 := he.inside entry h
        have h2 := hf.inside owner ho
        exact .inl (by omega)
      · exact hall entry h

/-- A statement that no other is inside of. -/
theorem Covers.simple {stmt : Stmt} (h : m < n) (ht : AllText tokens m n)
    (hs : stmt.site.span = ⟨(tokenAt tokens m).span.start, (tokenAt tokens (n - 1)).span.stop⟩) :
    Covers tokens m n [stmt] := by
  refine ⟨[(⟨m, n - 1⟩, stmt)], ⟨?_, ?_, List.pairwise_singleton _ _, ?_⟩, rfl⟩
  · intro entry he
    rw [List.mem_singleton] at he
    subst he
    refine ⟨Nat.le_sub_one_of_lt h, ht m (Nat.le_refl _) h, ht (n - 1) (by omega) (by omega),
      ?_, ?_⟩
    · simp [hs]
    · simp [hs]
  · intro entry he
    rw [List.mem_singleton] at he
    subst he
    exact ⟨(Nat.le_refl _), by simp only; omega⟩
  · intro i hi hn
    refine .inr ⟨_, List.mem_singleton_self _, hi, fun entry he => ?_⟩
    rw [List.mem_singleton] at he
    subst he
    exact .inr (by simp only; omega)

/-- A statement whose head ends at a mark, with those inside it. -/
theorem Covers.compound {stmt : Stmt} {nodes : List Stmt} {k last : Nat} (h : m < k)
    (ht : AllText tokens m k) (hc : Covers tokens k n nodes) (hl : IsLastText tokens n last)
    (hk : k ≤ last)
    (hs : stmt.site.span = ⟨(tokenAt tokens m).span.start, (tokenAt tokens last).span.stop⟩) :
    Covers tokens m n (stmt :: nodes) := by
  obtain ⟨es, he, rfl⟩ := hc
  have hln := hl.lt
  refine ⟨(⟨m, last⟩, stmt) :: es, ⟨?_, ?_, ?_, ?_⟩, rfl⟩
  · intro entry hm
    rcases List.mem_cons.mp hm with rfl | hm
    · refine ⟨by simp only; omega, ht m (Nat.le_refl _) h, hl.isText, ?_, ?_⟩
      · simp [hs]
      · simp [hs]
    · exact he.isOf entry hm
  · intro entry hm
    rcases List.mem_cons.mp hm with rfl | hm
    · exact ⟨(Nat.le_refl _), hln⟩
    · have := he.inside entry hm
      omega
  · refine List.pairwise_cons.mpr ⟨fun entry hm => ?_, he.ordered⟩
    have := he.inside entry hm
    simp only
    omega
  · intro i hi hn
    rcases Nat.lt_or_ge i k with hik | hik
    · refine .inr ⟨_, List.mem_cons_self, hi, fun entry hm => .inr ?_⟩
      rcases List.mem_cons.mp hm with rfl | hm
      · simp only
        omega
      · have h1 := he.inside entry hm
        have h2 := (he.isOf entry hm).le
        omega
    · rcases he.owned i hik hn with hf | ⟨owner, ho, hoi, hall⟩
      · exact .inl hf
      · rcases Nat.lt_or_ge last i with hli | hli
        · exact .inl (.inl (hl.layout i hli hn))
        · refine .inr ⟨owner, List.mem_cons_of_mem _ ho, hoi, fun entry hm => ?_⟩
          rcases List.mem_cons.mp hm with rfl | hm
          · exact .inr hli
          · exact hall entry hm

/-- Statements with text end before the last text. -/
theorem Covers.exists_isText {nodes : List Stmt} (hc : Covers tokens m n nodes) (hn : nodes ≠ []) :
    ∃ i, m ≤ i ∧ i < n ∧ IsText tokens i := by
  obtain ⟨es, he, rfl⟩ := hc
  cases es with
  | nil => simp at hn
  | cons entry es =>
    have h1 := he.inside entry List.mem_cons_self
    have h2 := he.isOf entry List.mem_cons_self
    have h3 := h2.le
    exact ⟨entry.1.first, h1.1, by omega, h2.first_isText⟩

end

end DocSuite.Syntax.Grammar
