import DocSuite.Proofs.Trailing

/-!
Where the comments of a text stand. Main statement: each comment stands behind a hash of the text,
and its place is that of the hash.
-/
namespace DocSuite

open DocSuite.Syntax DocSuite.Text

namespace CommentReader

/-! ### What the readers leave -/

theorem closing?_suffix {quote : Char} {triple : Bool} {fuel : Nat} {cs rest : List Char}
    (h : closing? quote triple fuel cs = some rest) : rest <:+ cs := by
  -- Each branch fails, or leaves what is behind the first characters.
  fun_induction closing? quote triple fuel cs <;> grind [List.suffix_cons, List.IsSuffix.trans]

theorem single_suffix {quote : Char} {fuel : Nat} {cs rest : List Char}
    (h : single quote fuel cs = .closed rest) : rest <:+ cs := by
  fun_induction single quote fuel cs <;> grind [List.suffix_cons, List.IsSuffix.trans]

theorem digitsRest_suffix (ok : Char → Bool) (cs : List Char) : digitsRest ok cs <:+ cs := by
  fun_induction digitsRest ok cs <;> grind [List.suffix_cons, List.IsSuffix.trans]

theorem exponentRest_suffix (cs : List Char) : exponentRest cs <:+ cs := by
  fun_cases exponentRest cs <;>
    grind [digitsRest_suffix, List.suffix_cons, List.IsSuffix.trans]

theorem imaginaryRest_suffix (cs : List Char) : imaginaryRest cs <:+ cs := by
  fun_cases imaginaryRest cs <;> grind [List.suffix_cons]

theorem radixRest?_suffix {ok : Char → Bool} {cs rest : List Char}
    (h : radixRest? ok cs = some rest) : rest <:+ cs := by
  fun_cases radixRest? ok cs <;>
    grind [radixRest?, digitsRest_suffix, List.suffix_cons, List.IsSuffix.trans]

theorem decimalRest_suffix (zero : Bool) (cs : List Char) : decimalRest zero cs <:+ cs := by
  have hwhole := digitsRest_suffix isDigit cs
  fun_cases decimalRest zero cs <;>
    grind [digitsRest_suffix, exponentRest_suffix, imaginaryRest_suffix, List.suffix_cons,
      List.IsSuffix.trans]

/-- A number has at least one character. -/
theorem numberRest?_suffix {cs rest : List Char} (h : numberRest? cs = some rest) :
    rest <:+ cs.tail := by
  unfold numberRest? at h
  split at h
  next d behind =>
    split at h <;> cases h
    refine (imaginaryRest_suffix _).trans ((exponentRest_suffix _).trans ?_)
    exact (digitsRest_suffix _ _).trans (List.suffix_cons d behind)
  next x behind =>
    dsimp only at h
    rw [Option.some.injEq] at h
    subst h
    generalize hradix : (if x = 'x' ∨ x = 'X' then _ else _ : Option (List Char)) = radix
    cases radix with
    | none => exact decimalRest_suffix true (x :: behind)
    | some rest =>
      have hrest : rest <:+ behind := by
        split at hradix
        · exact radixRest?_suffix hradix
        · split at hradix
          · exact radixRest?_suffix hradix
          · split at hradix
            · exact radixRest?_suffix hradix
            · cases hradix
      exact hrest.trans (List.suffix_cons x behind)
  next c behind _ _ =>
    split at h <;> cases h
    exact decimalRest_suffix _ behind
  next => cases h

/-- What a part of a line that starts at a character leaves; a comment is a hash with its text. -/
def Lexeme.Leaves (c : Char) (cs : List Char) : Lexeme → Prop
  | comment text rest => c = '#' ∧ cs = text ++ rest
  | bracket _ rest | other rest => rest <:+ cs
  | openString _ _ | continued => True

theorem leaves_stringLexeme (c quote : Char) {cs body : List Char} (h : body <:+ cs) :
    (stringLexeme quote body).Leaves c cs := by
  unfold stringLexeme
  extract_lets short
  have hshort : short.Leaves c cs := by
    dsimp only [short]
    split
    next rest hs => exact (single_suffix hs).trans h
    next => trivial
    next => exact h
  split
  next d e inner =>
    split
    · split
      next rest hc =>
        have hinner : inner <:+ d :: e :: inner :=
          (List.suffix_cons e inner).trans (List.suffix_cons d _)
        exact (closing?_suffix hc).trans (hinner.trans h)
      next => trivial
    · exact hshort
  next => exact hshort

theorem leaves_lexeme (c : Char) (cs : List Char) : (lexeme c cs).Leaves c cs := by
  unfold lexeme
  split
  next hc => exact ⟨hc, (List.prefix_iff_eq_append.mp (List.takeWhile_prefix _)).symm⟩
  split
  next => exact leaves_stringLexeme c c List.suffix_rfl
  split
  next => trivial
  split
  next => exact List.suffix_rfl
  split
  next => exact List.suffix_rfl
  split
  next rest hn => exact numberRest?_suffix hn
  split
  next =>
    have hword := List.dropWhile_suffix (l := cs) isWordChar
    dsimp only
    split
    next quote body hd =>
      rw [hd] at hword
      split
      · exact leaves_stringLexeme c quote ((List.suffix_cons quote body).trans hword)
      · exact hword
    next => exact List.nil_suffix
  next => exact List.suffix_rfl

theorem measure_suffix (column : Nat) (cs : List Char) : (measure column cs).2 <:+ cs := by
  fun_induction measure column cs with
  | case1 _ cs ih | case2 _ cs ih | case3 _ cs ih => exact ih.trans (List.suffix_cons _ cs)
  | case4 => exact List.suffix_rfl

/-! ### Comments of a line -/

/-- A comment that starts at a hash of a line. -/
def InLine (number : Nat) (line : List Char) (comment : Comment) : Prop :=
  ∃ body rest, '#' :: (body ++ rest) <:+ line ∧
    comment = ⟨String.ofList body, number, line.length - ('#' :: (body ++ rest)).length⟩

/-- Every comment was there before, or starts at a hash of the line. -/
def Adds (number : Nat) (line : List Char) (before after : List Comment) : Prop :=
  ∀ comment ∈ after, comment ∈ before ∨ InLine number line comment

section

variable {number : Nat} {line : List Char} {before after : List Comment} {comment : Comment}

theorem adds_refl (comments : List Comment) : Adds number line comments comments :=
  fun _ h => .inl h

theorem Adds.of_cons (h : Adds number line (comment :: before) after)
    (hc : InLine number line comment) : Adds number line before after := by
  intro other ho
  rcases h other ho with hm | hl
  · rcases List.mem_cons.mp hm with rfl | hm
    · exact .inr hc
    · exact .inl hm
  · exact .inr hl

theorem adds_readCode (fuel : Nat) (state : State) {cs : List Char} (h : cs <:+ line) :
    Adds number line state.comments (readCode number line.length fuel state cs).comments := by
  -- By the fuel. What is left of the line says in which column it starts.
  induction fuel generalizing state cs with
  | zero => exact adds_refl _
  | succ fuel ih =>
    cases cs with
    | nil => exact adds_refl _
    | cons c cs =>
      have hleaves := leaves_lexeme c cs
      rw [readCode]
      dsimp only
      split
      next text rest hl =>
        rw [hl] at hleaves
        obtain ⟨rfl, rfl⟩ := hleaves
        have hrest : rest <:+ '#' :: (text ++ rest) :=
          (List.suffix_append text rest).trans (List.suffix_cons '#' _)
        exact (ih _ (hrest.trans h)).of_cons ⟨text, rest, h, rfl⟩
      next change rest hl =>
        rw [hl] at hleaves
        exact ih _ (hleaves.trans ((List.suffix_cons c cs).trans h))
      next => exact adds_refl _
      next => exact adds_refl _
      next rest hl =>
        rw [hl] at hleaves
        exact ih _ (hleaves.trans ((List.suffix_cons c cs).trans h))

theorem adds_readStart {state next : State} (h : readStart number state line = .ok next) :
    Adds number line state.comments next.comments := by
  have hmeasure := measure_suffix 0 line
  unfold readStart at h
  dsimp only at h
  split at h
  next => cases h; exact adds_refl _
  next cs hm =>
    -- Line ends do not belong to the comment; all else up to the end of the line does.
    cases h
    rw [hm] at hmeasure ⊢
    have hbody : (cs.reverse.dropWhile fun c => c == '\r' || c == '\n').reverse <+: cs := by
      rw [← List.reverse_suffix, List.reverse_reverse]
      exact List.dropWhile_suffix _
    obtain ⟨rest, hrest⟩ := hbody
    refine (adds_refl _).of_cons (?_ : InLine number line ⟨String.ofList _, _, _⟩)
    exact ⟨_, rest, by rwa [hrest], by rw [hrest]⟩
  next c cs _ hm =>
    rw [hm] at hmeasure h
    split at h
    · cases h; exact adds_refl _
    · split at h
      · cases h
        exact adds_readCode _ _ hmeasure
      · split at h <;> cases h
        exact adds_readCode _ _ hmeasure

theorem adds_readString (state : State) (string : OpenString) :
    Adds number line state.comments (readString number state string line).comments := by
  unfold readString
  split
  next rest hc => exact adds_readCode _ _ (closing?_suffix hc)
  next => split <;> exact adds_refl _

end

/-- What a run over lines adds. -/
theorem adds_readLines {number : Nat} {state last : State} {lines : List (List Char)}
    (h : readLines number state lines = .ok last) : ∀ comment ∈ last.comments,
      comment ∈ state.comments ∨
        ∃ i line, lines[i]? = some line ∧ InLine (number + i) line comment := by
  induction lines generalizing number state with
  | nil =>
    rw [readLines] at h
    split at h
    · cases h
    · split at h <;> cases h
      exact fun comment hc => .inl hc
  | cons line lines ih =>
    have hstep {next : State} (hadds : Adds number line state.comments next.comments)
        (h : readLines (number + 1) next lines = .ok last) : ∀ comment ∈ last.comments,
          comment ∈ state.comments ∨
            ∃ i other, (line :: lines)[i]? = some other ∧ InLine (number + i) other comment := by
      intro comment hc
      rcases ih h comment hc with hn | ⟨i, other, hi, hl⟩
      · rcases hadds comment hn with hs | hl
        · exact .inl hs
        · exact .inr ⟨0, line, rfl, hl⟩
      · refine .inr ⟨i + 1, other, hi, ?_⟩
        rwa [Nat.add_right_comm] at hl
    rw [readLines] at h
    split at h
    next string _ => exact hstep (adds_readString state string) h
    next =>
      split at h
      · cases hs : readStart number state line with
        | error fault =>
          rw [hs] at h
          cases h
        | ok next =>
          rw [hs] at h
          exact hstep (adds_readStart hs) h
      · exact hstep (adds_readCode _ { state with continued := false } List.suffix_rfl) h

end CommentReader

/-! ### Comments of a text -/

/-- What is in front of a line of a text: `i` lines with their ends. Nothing is in front of the
first line, so the column from which the reading starts plays no part. -/
structure InFront (i : Nat) (read : List Char) : Prop where
  first : i = 0 → read = []
  later : 0 < i → ∀ place : Position,
    read.foldl (Position.past fun _ => 1) place = ⟨place.line + i, 0⟩

namespace InFront

variable {i : Nat} {read : List Char}

theorem nil : InFront 0 [] := ⟨fun _ => rfl, fun hi => absurd hi (Nat.lt_irrefl 0)⟩

theorem cons_break (h : InFront i read) : InFront (i + 1) ('\n' :: read) := by
  refine ⟨fun hi => absurd hi (Nat.succ_ne_zero i), fun _ place => ?_⟩
  rw [List.foldl_cons, Position.past, if_pos rfl]
  rcases Nat.eq_zero_or_pos i with rfl | hi
  · rw [h.first rfl]
    rfl
  · rw [h.later hi, Position.mk.injEq]
    exact ⟨Nat.add_right_comm place.line 1 i, rfl⟩

theorem cons {c : Char} (hc : c ≠ '\n') (h : InFront (i + 1) read) :
    InFront (i + 1) (c :: read) := by
  refine ⟨fun hi => absurd hi (Nat.succ_ne_zero i), fun hi place => ?_⟩
  rw [List.foldl_cons, h.later hi, Position.past, if_neg hc]

theorem charPlace_eq (h : InFront i read) : charPlace read = ⟨1 + i, 0⟩ := by
  rcases Nat.eq_zero_or_pos i with rfl | hi
  · rw [h.first rfl]
    rfl
  · exact h.later hi ⟨1, 0⟩

end InFront

/-- Only the last character of a line ends it. -/
theorem exists_inFront {source line : List Char} {i : Nat}
    (h : (linesWithEnds source)[i]? = some line) : ∃ read post,
      source = read ++ (line ++ post) ∧ InFront i read ∧ '\n' ∉ line.dropLast := by
  induction source generalizing i line with
  | nil => simp [linesWithEnds] at h
  | cons c cs ih =>
    rw [linesWithEnds] at h
    split at h
    next hc =>
      subst hc
      cases i with
      | zero =>
        cases h
        exact ⟨[], cs, rfl, .nil, by simp⟩
      | succ i =>
        obtain ⟨read, post, rfl, hfront, hline⟩ := ih h
        exact ⟨'\n' :: read, post, rfl, hfront.cons_break, hline⟩
    next hc =>
      split at h
      next =>
        cases i with
        | zero =>
          cases h
          exact ⟨[], cs, rfl, .nil, by simp⟩
        | succ i => simp at h
      next first lines hlines =>
        cases i with
        | zero =>
          -- The character is put in front of the first line, before which nothing stands.
          cases h
          obtain ⟨read, post, rfl, hfront, hline⟩ := ih (i := 0) (by rw [hlines]; rfl)
          obtain rfl := hfront.first rfl
          refine ⟨[], post, rfl, hfront, ?_⟩
          cases first with
          | nil => simp
          | cons d ds => simpa [List.dropLast, Ne.symm hc] using hline
        | succ i =>
          obtain ⟨read, post, rfl, hfront, hline⟩ := ih (i := i + 1) (by rw [hlines]; exact h)
          exact ⟨c :: read, post, rfl, hfront.cons hc, hline⟩

/-- A comment starts at the hash behind the first characters of a text. -/
structure StartsAt (source : List Char) (comment : Comment) (hash : Nat) : Prop where
  lt : hash < source.length
  text : ∃ rest, source.drop hash = '#' :: (comment.text.toList ++ rest)
  place : comment.place = charPlace (source.take hash)

theorem exists_startsAt_of_inLine {source line : List Char} {i : Nat} {comment : Comment}
    (hline : (linesWithEnds source)[i]? = some line)
    (h : CommentReader.InLine (1 + i) line comment) : ∃ hash, StartsAt source comment hash := by
  obtain ⟨read, post, rfl, hfront, hinner⟩ := exists_inFront hline
  obtain ⟨body, rest, ⟨before, rfl⟩, rfl⟩ := h
  have hbefore : '\n' ∉ before := by
    rw [List.dropLast_append_of_ne_nil (by simp)] at hinner
    exact fun hm => hinner (List.mem_append_left _ hm)
  have hsplit : read ++ (before ++ '#' :: (body ++ rest) ++ post) =
      (read ++ before) ++ '#' :: (body ++ (rest ++ post)) := by simp
  rw [hsplit]
  refine ⟨(read ++ before).length, by simp, ⟨rest ++ post, ?_⟩, ?_⟩
  · rw [List.drop_left, String.toList_ofList]
  · rw [List.take_left, charPlace, placeBehind_append, ← charPlace, hfront.charPlace_eq,
      foldl_past_line _ hbefore, lineWidth_one]
    simp [Comment.place]

/-- Each comment of a text starts at a hash of it, and has the place of the hash. -/
theorem exists_startsAt {source : List Char} {comments : List Comment}
    (h : readComments source = .ok comments) :
    ∀ comment ∈ comments, ∃ hash, StartsAt source comment hash := by
  intro comment hc
  unfold readComments at h
  cases hr : CommentReader.readLines 1 {} (linesWithEnds source) with
  | error fault =>
    rw [hr] at h
    cases h
  | ok last =>
    rw [hr] at h
    cases h
    have hlast := List.mem_reverse.mp hc
    rcases CommentReader.adds_readLines hr comment hlast with hm | ⟨i, line, hi, hl⟩
    · cases hm
    · exact exists_startsAt_of_inLine hi hl

end DocSuite
