import DocSuite.Proofs.Split
import DocSuite.Proofs.Utf8
import DocSuite.Sample.Trailing
import DocSuite.Syntax.Token

/-!
Places in a text. Main statement: the place behind the first characters of a text, counted in
bytes, is the one behind the same characters, counted in characters.
-/
namespace DocSuite.Syntax

open DocSuite.Text

/-! ### The order of places -/

namespace Position

variable {a b c : Position}

theorem before_iff : a.before b = true ↔
    a.line < b.line ∨ (a.line = b.line ∧ a.column < b.column) := by
  simp [before]

theorem upTo_iff : a.upTo b = true ↔
    a.line < b.line ∨ (a.line = b.line ∧ a.column ≤ b.column) := by
  simp only [upTo, Bool.not_eq_true', ← Bool.not_eq_true, before_iff]
  omega

theorem before_trans (h : a.before b = true) (h' : b.before c = true) : a.before c = true := by
  rw [before_iff] at *
  omega

theorem upTo_refl (a : Position) : a.upTo a = true := by
  rw [upTo_iff]
  omega

theorem upTo_of_before (h : a.before b = true) : a.upTo b = true := by
  rw [before_iff] at h
  rw [upTo_iff]
  omega

theorem before_of_upTo_of_before (h : a.upTo b = true) (h' : b.before c = true) :
    a.before c = true := by
  rw [upTo_iff] at h
  rw [before_iff] at *
  omega

theorem not_upTo_of_before (h : a.before b = true) : ¬ b.upTo a = true := by
  simp [upTo, h]

end Position

/-! ### Places behind characters -/

section

variable (width : Char → Nat)

/-- The place behind a character that stands at a place. -/
def Position.past (place : Position) (c : Char) : Position :=
  if c = '\n' then ⟨place.line + 1, 0⟩ else ⟨place.line, place.column + width c⟩

/-- The place behind the first characters of a text. -/
def placeBehind (read : List Char) : Position := read.foldl (Position.past width) ⟨1, 0⟩

end

/-- Columns count bytes. -/
def bytePlace (read : List Char) : Position := placeBehind Utf8.width read

/-- Columns count characters. -/
def charPlace (read : List Char) : Position := placeBehind (fun _ => 1) read

section

variable {width : Char → Nat}

theorem placeBehind_append (as bs : List Char) :
    placeBehind width (as ++ bs) = bs.foldl (Position.past width) (placeBehind width as) :=
  List.foldl_append

theorem foldl_past_before (hw : ∀ c, 0 < width c) (place : Position) {more : List Char}
    (h : more ≠ []) : place.before (more.foldl (Position.past width) place) = true := by
  have one (place : Position) (c : Char) : place.before (place.past width c) = true := by
    rw [Position.before_iff, Position.past]
    split
    · exact .inl (Nat.lt_succ_self _)
    · exact .inr ⟨rfl, Nat.lt_add_of_pos_right (hw c)⟩
  induction more generalizing place with
  | nil => exact absurd rfl h
  | cons c more ih =>
    by_cases hm : more = []
    · subst hm
      exact one place c
    · exact Position.before_trans (one place c) (ih (place.past width c) hm)

theorem placeBehind_take_before (hw : ∀ c, 0 < width c) (text : List Char) {a b : Nat}
    (h : a < b) (hb : b ≤ text.length) :
    (placeBehind width (text.take a)).before (placeBehind width (text.take b)) = true := by
  have he : text.take a ++ (text.take b).drop a = text.take b := by
    have := List.take_append_drop a (text.take b)
    rwa [List.take_take, Nat.min_eq_left (by omega)] at this
  rw [← he, placeBehind_append]
  refine foldl_past_before hw _ fun hn => ?_
  have := congrArg List.length hn
  simp only [List.length_drop, List.length_take, List.length_nil] at this
  omega

theorem placeBehind_take_upTo (hw : ∀ c, 0 < width c) (text : List Char) {a b : Nat}
    (h : a ≤ b) (hb : b ≤ text.length) :
    (placeBehind width (text.take a)).upTo (placeBehind width (text.take b)) = true := by
  rcases Nat.eq_or_lt_of_le h with rfl | h
  · exact Position.upTo_refl _
  · exact Position.upTo_of_before (placeBehind_take_before hw text h hb)

theorem charPlace_take_before (text : List Char) {a b : Nat} (h : a < b) (hb : b ≤ text.length) :
    (charPlace (text.take a)).before (charPlace (text.take b)) = true :=
  placeBehind_take_before (fun _ => Nat.one_pos) text h hb

theorem charPlace_take_upTo (text : List Char) {a b : Nat} (h : a ≤ b) (hb : b ≤ text.length) :
    (charPlace (text.take a)).upTo (charPlace (text.take b)) = true :=
  placeBehind_take_upTo (fun _ => Nat.one_pos) text h hb

/-- The columns that a line takes up. -/
def lineWidth (width : Char → Nat) : List Char → Nat
  | [] => 0
  | c :: cs => width c + lineWidth width cs

theorem foldl_past_line (place : Position) {line : List Char} (h : '\n' ∉ line) :
    line.foldl (Position.past width) place =
      ⟨place.line, place.column + lineWidth width line⟩ := by
  induction line generalizing place with
  | nil => rfl
  | cons c line ih =>
    simp only [List.mem_cons, not_or] at h
    rw [List.foldl_cons, ih _ h.2, Position.past, if_neg (Ne.symm h.1)]
    simp [lineWidth, Nat.add_assoc]

theorem line_foldl_past (place : Position) (read : List Char) :
    (read.foldl (Position.past width) place).line = place.line + read.count '\n' := by
  induction read generalizing place with
  | nil => rfl
  | cons c read ih =>
    rw [List.foldl_cons, ih, Position.past, List.count_cons]
    split
    next h =>
      subst h
      simp only [beq_self_eq_true, if_pos]
      omega
    next h => simp [h]

end

/-! ### Lines -/

/-- Everything up to a place in a text: whole lines, and the start of the line of the place. -/
theorem exists_line (read : List Char) : ∃ line, '\n' ∉ line ∧
    (∀ width, placeBehind width read = ⟨read.count '\n' + 1, lineWidth width line⟩) ∧
    ∀ post, ∃ tail, (splitAt '\n' (read ++ post))[read.count '\n']? = some (line ++ tail) := by
  by_cases h : '\n' ∈ read
  · obtain ⟨rev, before, hr, hb⟩ := List.eq_append_cons_of_mem (List.mem_reverse.mpr h)
    have he : read = before.reverse ++ '\n' :: rev.reverse := by
      have := congrArg List.reverse hr
      simpa using this
    have hline : '\n' ∉ rev.reverse := by simpa using hb
    have hcount : read.count '\n' = before.reverse.count '\n' + 1 := by
      rw [he, List.count_append, List.count_cons_self, List.count_eq_zero_of_not_mem hline]
    refine ⟨rev.reverse, hline, fun width => ?_, fun post => ?_⟩
    · rw [hcount, he, placeBehind_append, List.foldl_cons, foldl_past_line _ hline, Position.past,
        if_pos rfl, placeBehind, line_foldl_past]
      simp only [Nat.zero_add, Position.mk.injEq, and_true]
      omega
    · obtain ⟨tail, rest, hs⟩ := splitAt_line_append hline post
      refine ⟨tail, ?_⟩
      rw [hcount, he, List.append_assoc, List.cons_append, splitAt_append_break, hs,
        List.getElem?_append_right (Nat.le_of_eq (length_splitAt _)), length_splitAt]
      simp
  · refine ⟨read, h, fun width => ?_, fun post => ?_⟩
    · rw [placeBehind, foldl_past_line _ h, List.count_eq_zero_of_not_mem h]
      simp
    · obtain ⟨tail, rest, hs⟩ := splitAt_line_append h post
      exact ⟨tail, by rw [hs, List.count_eq_zero_of_not_mem h]; rfl⟩

/-! ### Bytes and characters -/

theorem size_eq_lineWidth (cs : List Char) : Utf8.size cs = lineWidth Utf8.width cs := by
  induction cs with
  | nil => rfl
  | cons c cs ih => rw [Utf8.size_cons, ih, lineWidth]

theorem lineWidth_one (cs : List Char) : lineWidth (fun _ => 1) cs = cs.length := by
  induction cs with
  | nil => rfl
  | cons c cs ih => rw [lineWidth, ih, List.length_cons, Nat.add_comm]

theorem characterPosition_of_line {lines : List (List Char)} {line tail : List Char} {n : Nat}
    (h : lines[n]? = some (line ++ tail)) :
    characterPosition lines ⟨n + 1, lineWidth Utf8.width line⟩ = .ok ⟨n + 1, line.length⟩ := by
  have htake : (Utf8.encode (line ++ tail)).take (lineWidth Utf8.width line) =
      Utf8.encode line := by
    rw [Utf8.encode_append, ← size_eq_lineWidth]
    exact List.take_left' rfl
  simp only [characterPosition, h, htake, Utf8.decode_encode]
  rfl

/-- The place behind the first characters of a source, or of a source with a line end put behind
it. -/
theorem characterPosition_bytePlace {source read : List Char}
    (h : read <+: source ∨ read = source ++ ['\n']) :
    characterPosition (splitAt '\n' source) (bytePlace read) = .ok (charPlace read) := by
  obtain ⟨line, hline, hplace, hsplit⟩ := exists_line read
  rw [bytePlace, charPlace, hplace, hplace]
  rcases h with ⟨post, rfl⟩ | rfl
  · obtain ⟨tail, ht⟩ := hsplit post
    rw [characterPosition_of_line ht, lineWidth_one]
  · -- The source has no such line, and the place is at its start.
    have hend : line = [] := by
      have h1 := hplace (fun _ => 1)
      rw [placeBehind_append] at h1
      simp only [List.foldl_cons, List.foldl_nil, Position.past, if_pos, Position.mk.injEq,
        lineWidth_one] at h1
      exact List.length_eq_zero_iff.mp h1.2.symm
    subst hend
    have hnone : (splitAt '\n' source)[(source ++ ['\n']).count '\n']? = none := by
      rw [List.getElem?_eq_none_iff, length_splitAt]
      simp
    simp only [characterPosition, hnone, lineWidth]

/-- Normal line ends put at most a line end behind a text without carriage returns. -/
theorem normalize_eq_or {source : List Char} (h : '\r' ∉ source) :
    Source.normalize source = source ∨ Source.normalize source = source ++ ['\n'] := by
  fun_induction Source.normalize source with
  | case1 => exact .inr rfl
  | case2 => exact .inl rfl
  | case3 => simp at h
  | case4 => simp at h
  | case5 => simp at h
  | case6 => simp at h
  | case7 => exact .inr rfl
  | case8 c cs =>
    rename_i ih
    rcases ih fun hm => h (List.mem_cons_of_mem _ hm) with hn | hn
    · exact .inl (by rw [hn])
    · exact .inr (by rw [hn, List.cons_append])

theorem characterPosition_take {source : List Char} (h : '\r' ∉ source) (n : Nat) :
    characterPosition (splitAt '\n' source) (bytePlace ((Source.normalize source).take n)) =
      .ok (charPlace ((Source.normalize source).take n)) := by
  refine characterPosition_bytePlace ?_
  have hp := List.take_prefix n (Source.normalize source)
  rcases normalize_eq_or h with hn | hn
  · rw [hn] at hp ⊢
    exact .inl hp
  · rw [hn] at hp ⊢
    exact (List.prefix_concat_iff.mp hp).symm

end DocSuite.Syntax
