import DocSuite.Proofs.Place
import DocSuite.Proofs.Token.Step

/-!
Where tokens stand. Main statement: the tokens with text are parts of the text that follow each
other, and the span of each reaches from the place of its first character to the place behind its
last one.
-/
namespace DocSuite.Syntax

open DocSuite.Text

namespace Lexer

/-- The place of the character that is read next. -/
def place (lexer : Lexer) : Position :=
  if lexer.broken then ⟨lexer.line + 1, 0⟩ else lexer.here

/-- A number of characters of the text were read. -/
structure At (text : List Char) (n : Nat) (lexer : Lexer) : Prop where
  le : n ≤ text.length
  rest : text.drop n = lexer.rest
  place : lexer.place = bytePlace (text.take n)

variable {text : List Char} {n : Nat} {lexer next : Lexer} {between : Bool}

/-! ### Reading characters -/

@[simp] theorem place_load : (lexer.load between).place = lexer.place := by
  unfold load
  split
  next h =>
    have hb := (Bool.and_eq_true_iff.mp h).1
    simp [place, here, hb]
  next => rfl

theorem place_readChar {c : Char} (h : lexer.rest ≠ []) :
    (lexer.readChar between c).place = lexer.place.past Utf8.width c := by
  have hp : (lexer.load between).here = lexer.place := by
    rw [← @place_load lexer between, place, broken_load h]
    rfl
  rw [Position.past, ← hp, place]
  by_cases hc : c = '\n' <;> simp [readChar, hc, here]

theorem place_foldl_readChar {read rest : List Char} (h : lexer.rest = read ++ rest) :
    (read.foldl (readChar between) lexer).place =
      read.foldl (Position.past Utf8.width) lexer.place := by
  induction read generalizing lexer with
  | nil => rfl
  | cons c read ih =>
    have hne : lexer.rest ≠ [] := by simp [h]
    rw [List.foldl_cons, ih (by simp [readChar, h]), place_readChar hne, List.foldl_cons]

theorem At.readTo (h : At text n lexer) {read rest : List Char} (hr : lexer.rest = read ++ rest) :
    At text (n + read.length) (lexer.readTo between rest) := by
  have hd : text.drop n = read ++ rest := h.rest.trans hr
  have hlen := congrArg List.length hd
  simp only [List.length_drop, List.length_append] at hlen
  have htake : text.take (n + read.length) = text.take n ++ read := by
    rw [List.take_add, hd, List.take_left' rfl]
  refine ⟨by have := h.le; omega, ?_, ?_⟩
  · rw [rest_readTo, ← List.drop_drop, hd, List.drop_left' rfl]
  · rw [htake, bytePlace, placeBehind_append]
    have hp : lexer.place = placeBehind Utf8.width (text.take n) := h.place
    rw [readTo_eq read rest hr, ← hp]
    exact place_foldl_readChar hr

theorem At.moves (h : At text n lexer) (hm : Moves lexer next) : ∃ m, n ≤ m ∧ At text m next := by
  induction hm with
  | refl => exact ⟨n, Nat.le_refl n, h⟩
  | load between _ ih =>
    obtain ⟨m, hnm, hat⟩ := ih
    exact ⟨m, hnm, hat.le, by rw [rest_load, hat.rest], by rw [place_load, hat.place]⟩
  | readTo between _ hr ih =>
    obtain ⟨m, hnm, hat⟩ := ih
    exact ⟨_, by omega, hat.readTo hr⟩
  | note _ _ _ _ _ _ ih =>
    obtain ⟨m, hnm, hat⟩ := ih
    exact ⟨m, hnm, hat.le, hat.rest, hat.place⟩

/-- A lexer in the middle of a line stands at the place of the next character. -/
theorem At.here (h : At text n lexer) (hb : lexer.broken = false) :
    lexer.here = bytePlace (text.take n) := by
  rw [← h.place, Lexer.place, hb]
  rfl

end Lexer

/-- The tokens with text are parts of the text, one behind the other. -/
inductive Spells (text : List Char) : Nat → List Token → Prop
  | nil (n : Nat) : Spells text n []
  | other {n : Nat} {token : Token} {tokens : List Token}
      (ht : token.isLayout = true ∨ token.kind.isFailure = true) (h : Spells text n tokens) :
      Spells text n (token :: tokens)
  | text {n a b : Nat} {token : Token} {tokens : List Token} (ha : n ≤ a) (hab : a < b)
      (hb : b ≤ text.length)
      (hs : token.span = ⟨bytePlace (text.take a), bytePlace (text.take b)⟩)
      (h : Spells text b tokens) : Spells text n (token :: tokens)

theorem Spells.mono {text : List Char} {m n : Nat} {tokens : List Token}
    (h : Spells text m tokens) (hm : n ≤ m) : Spells text n tokens := by
  induction h with
  | nil => exact .nil n
  | other ht _ ih => exact .other ht (ih hm)
  | text ha hab hb hs h _ => exact .text (Nat.le_trans hm ha) hab hb hs h

theorem spells_tokens {text : List Char} {n : Nat} {lexer : Lexer} (steps : Nat)
    (h : lexer.At text n) (hr : lexer.Ready) : Spells text n (lexer.tokens steps) := by
  induction steps generalizing n lexer with
  | zero => exact .nil n
  | succ steps ih =>
    have hg := Lexer.goes_step hr
    unfold Lexer.tokens
    split
    next next hs =>
      rw [hs] at hg
      cases hg with
      | silent hm hr =>
        obtain ⟨m, hnm, hat⟩ := h.moves hm
        exact (ih hat hr).mono hnm
    next token next hs =>
      rw [hs] at hg
      -- The end and a failure are the last token, all others are followed by more.
      cases hg with
      | layout hk hm hm' hr =>
        obtain ⟨m, hnm, hat⟩ := h.moves (hm.trans hm')
        split
        · exact .other (.inl hk) (.nil n)
        · exact .other (.inl hk) (.nil n)
        · exact .other (.inl hk) ((ih hat hr).mono hnm)
      | finish => exact .other (.inl rfl) (.nil n)
      | failure => exact .other (.inr rfl) (.nil n)
      | text _ hm hb hr' hl hstop =>
        rename_i mid kind between read rest last _ _ _ _
        obtain ⟨a, hna, hat⟩ := h.moves hm
        have hbroken : next.broken = false := hstop ▸ Lexer.broken_readTo hr' hl
        have hbehind : next.At text (a + (read.length + 1)) := by
          have hread := @Lexer.At.readTo _ _ _ between hat (read ++ [last]) rest (by simp [hr'])
          rw [List.length_append, List.length_singleton] at hread
          exact hstop ▸ ⟨hread.le, hread.rest, hread.place⟩
        have hspan : (mid.token kind (read ++ [last]) next).span =
            ⟨bytePlace (text.take a), bytePlace (text.take (a + (read.length + 1)))⟩ := by
          rw [← hat.here hb, ← hbehind.here hbroken]
          rfl
        have htokens := ih hbehind fun _ _ => hbroken
        split
        · exact .text hna (by omega) hbehind.le hspan (.nil _)
        · exact .text hna (by omega) hbehind.le hspan (.nil _)
        · exact .text hna (by omega) hbehind.le hspan htokens

theorem spells_tokensOf (text : List Char) : Spells text 0 (tokensOf 1 text) :=
  spells_tokens _ ⟨Nat.zero_le _, rfl, rfl⟩ fun h => by cases h

end DocSuite.Syntax
