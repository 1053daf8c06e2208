import DocSuite.Toml.Read

/-!
Integers with too many digits. All readers leave an end of the text that they read, so what they
refuse stands in the text. Main statement: a document is refused for a long integer only if more
digits than an integer may have follow each other in it.
-/
namespace DocSuite.Toml

open DocSuite.Text

/-- A text holds a number of digits in a row, with nothing but underscores between them. -/
def HoldsRun (text : List Char) (digits : Nat) : Prop :=
  ∃ run, run <:+: text ∧ (∀ c ∈ run, isDigit c = true ∨ c = '_') ∧ run.countP isDigit = digits

/-- What is read fulfils a condition, and an integer that is refused stands in the text. -/
def Reads {α : Type} (text : List Char) (condition : α → Prop) : Except Fault α → Prop
  | .ok a => condition a
  | .error (.malformed ..) => True
  | .error (.longInteger digits) => longestInteger < digits ∧ HoldsRun text digits

/-- What is left behind a value is an end of the text. -/
abbrev Leaves {α : Type} (text : List Char) (read : Except Fault (α × List Char)) : Prop :=
  Reads text (fun result => result.2 <:+ text) read

namespace Reads

variable {α β : Type} {text : List Char} {condition : α → Prop}

theorem pure {a : α} (h : condition a) : Reads text condition (Pure.pure a) := h

theorem bind {next : β → Prop} {read : Except Fault α} {rest : α → Except Fault β}
    (h : Reads text condition read) (hrest : ∀ a, condition a → Reads text next (rest a)) :
    Reads text next (read >>= rest) := by
  cases read with
  | ok a => exact hrest a h
  | error fault =>
    cases fault with
    | malformed reason left => trivial
    | longInteger digits => exact h

end Reads

variable {text cs : List Char}

theorem suffix_of_cons {c : Char} (h : c :: cs <:+ text) : cs <:+ text :=
  (List.suffix_cons c cs).trans h

theorem dropWhile_suffix_of {p : Char → Bool} (h : cs <:+ text) : cs.dropWhile p <:+ text :=
  (List.dropWhile_suffix p).trans h

theorem drop_suffix_of (n : Nat) (h : cs <:+ text) : cs.drop n <:+ text :=
  (List.drop_suffix n cs).trans h

theorem skipSpaces_suffix (h : cs <:+ text) : skipSpaces cs <:+ text := dropWhile_suffix_of h

theorem checked_reads (isRefused : Char → Bool) (cs behind : List Char) :
    Reads text (fun _ => True) (checked isRefused cs behind) := by
  unfold checked
  split <;> trivial

theorem skipComment_reads (h : cs <:+ text) : Reads text (· <:+ text) (skipComment cs) := by
  unfold skipComment
  split
  next rest =>
    exact (checked_reads ..).bind fun _ _ => .pure (dropWhile_suffix_of (suffix_of_cons h))
  next => exact h

theorem skipGaps_reads (fuel : Nat) (h : cs <:+ text) :
    Reads text (· <:+ text) (skipGaps fuel cs) := by
  induction fuel generalizing cs with
  | zero => exact h
  | succ fuel ih =>
    refine (skipComment_reads (dropWhile_suffix_of h)).bind fun rest hrest => ?_
    split
    · exact h
    · exact ih hrest

/-! ### Texts and keys -/

theorem readScalar_leaves (size : Nat) (h : cs <:+ text) : Leaves text (readScalar size cs) := by
  unfold readScalar
  dsimp only
  split
  · trivial
  · split
    · exact drop_suffix_of size h
    · trivial

theorem readEscape_leaves (isLong : Bool) (h : cs <:+ text) :
    Leaves text (readEscape isLong cs) := by
  unfold readEscape
  split
  next => trivial
  next c rest =>
    have hrest := suffix_of_cons h
    split
    next =>
      split
      next => exact dropWhile_suffix_of hrest
      next =>
        have hspaces := skipSpaces_suffix hrest
        split
        next => exact List.nil_suffix
        next heq =>
          rw [heq] at hspaces
          exact dropWhile_suffix_of (suffix_of_cons hspaces)
        next => trivial
    next =>
      split
      case h_8 => exact readScalar_leaves 4 hrest
      case h_9 => exact readScalar_leaves 8 hrest
      case h_10 => trivial
      all_goals exact hrest

theorem readQuoted_leaves (isLong : Bool) (fuel : Nat) (read : List Char) (h : cs <:+ text) :
    Leaves text (readQuoted isLong fuel read cs) := by
  fun_induction readQuoted isLong fuel read cs with
  | case1 => trivial
  | case2 => trivial
  | case3 => exact suffix_of_cons h
  | case4 => exact suffix_of_cons (suffix_of_cons (suffix_of_cons h))
  | case5 _ _ _ _ _ ih => exact ih (suffix_of_cons h)
  | case6 _ _ _ ih =>
    exact (readEscape_leaves _ (suffix_of_cons h)).bind fun result hresult => ih _ _ hresult
  | case7 => trivial
  | case8 _ _ _ _ _ _ _ ih => exact ih (suffix_of_cons h)

theorem upTo_suffix {mark before behind : List Char} (h : upTo mark cs = (before, some behind)) :
    behind <:+ cs := by
  induction cs generalizing before with
  | nil => cases h
  | cons c cs ih =>
    rw [upTo] at h
    split at h
    next =>
      obtain ⟨-, rfl⟩ := Prod.mk.inj (by simpa using h)
      exact List.drop_suffix ..
    next =>
      obtain ⟨-, htail⟩ := Prod.mk.inj h
      exact (ih (Prod.ext rfl htail)).trans (List.suffix_cons c cs)

theorem readLiteral_leaves (mark : List Char) (isRefused : Char → Bool) (h : cs <:+ text) :
    Leaves text (readLiteral mark isRefused cs) := by
  unfold readLiteral
  split
  next => trivial
  next heq => exact (checked_reads ..).bind fun _ _ => .pure ((upTo_suffix heq).trans h)

theorem readLong_leaves (quote : Char) (h : cs <:+ text) : Leaves text (readLong quote cs) := by
  have hbehind (result : List Char × List Char) (hrest : result.2 <:+ text) :
      Leaves text (Pure.pure (withQuotes quote result.1 result.2)) := drop_suffix_of _ hrest
  unfold readLong
  split
  next =>
    have hrest := suffix_of_cons h
    split
    · exact (readQuoted_leaves true _ _ hrest).bind hbehind
    · exact (readLiteral_leaves _ _ hrest).bind hbehind
  next =>
    split
    · exact (readQuoted_leaves true _ _ h).bind hbehind
    · exact (readLiteral_leaves _ _ h).bind hbehind

theorem readText?_leaves {read : Except Fault (List Char × List Char)}
    (hread : readText? cs = some read) (h : cs <:+ text) : Leaves text read := by
  have hthree {a b c : Char} {rest : List Char} (h : a :: b :: c :: rest <:+ text) :
      rest <:+ text := suffix_of_cons (suffix_of_cons (suffix_of_cons h))
  unfold readText? at hread
  split at hread
  next =>
    obtain rfl := Option.some.inj hread
    exact readLong_leaves _ (hthree h)
  next =>
    obtain rfl := Option.some.inj hread
    exact readQuoted_leaves _ _ _ (suffix_of_cons h)
  next =>
    obtain rfl := Option.some.inj hread
    exact readLong_leaves _ (hthree h)
  next =>
    obtain rfl := Option.some.inj hread
    exact readLiteral_leaves _ _ (suffix_of_cons h)
  next => cases hread

theorem readKeyPart_leaves (h : cs <:+ text) : Leaves text (readKeyPart cs) := by
  unfold readKeyPart
  split
  next => exact (readQuoted_leaves _ _ _ (suffix_of_cons h)).bind fun _ hrest => hrest
  next => exact (readLiteral_leaves _ _ (suffix_of_cons h)).bind fun _ hrest => hrest
  next =>
    split
    · exact dropWhile_suffix_of h
    · trivial
  next => trivial

theorem readKey_leaves (fuel : Nat) (h : cs <:+ text) : Leaves text (readKey fuel cs) := by
  induction fuel generalizing cs with
  | zero => trivial
  | succ fuel ih =>
    refine (readKeyPart_leaves h).bind fun (part, rest) hrest => ?_
    have hspaces := skipSpaces_suffix hrest
    dsimp only at hspaces ⊢
    split
    next heq =>
      rw [heq] at hspaces
      exact (ih (skipSpaces_suffix (suffix_of_cons hspaces))).bind fun _ hrest => hrest
    next => exact hspaces

/-! ### Numbers and dates -/

theorem digitRun_spec (isDigit : Char → Bool) (cs : List Char) :
    (digitRun isDigit cs).1 ++ (digitRun isDigit cs).2 = cs ∧
      ∀ c ∈ (digitRun isDigit cs).1, isDigit c = true ∨ c = '_' := by
  fun_induction digitRun isDigit cs with
  | case1 c cs hc run rest heq ih =>
    rw [heq] at ih
    refine ⟨by simpa using ih.1, fun d hd => ?_⟩
    rcases List.mem_cons.mp hd with rfl | hd
    · exact .inr rfl
    · rcases List.mem_cons.mp hd with rfl | hd
      · exact .inl hc
      · exact ih.2 d hd
  | case2 => exact ⟨rfl, by simp⟩
  | case3 c cs _ hc run rest heq ih =>
    rw [heq] at ih
    refine ⟨by simpa using ih.1, fun d hd => ?_⟩
    rcases List.mem_cons.mp hd with rfl | hd
    · exact .inl hc
    · exact ih.2 d hd
  | case4 => exact ⟨rfl, by simp⟩
  | case5 => exact ⟨rfl, by simp⟩

theorem digits?_spec {isDigit : Char → Bool} {run rest : List Char}
    (h : digits? isDigit cs = some (run, rest)) :
    run ++ rest = cs ∧ ∀ c ∈ run, isDigit c = true ∨ c = '_' := by
  unfold digits? at h
  split at h
  next c tail =>
    split at h
    next =>
      have hspec := digitRun_spec isDigit (c :: tail)
      rwa [Option.some.inj h] at hspec
    next => cases h
  next => cases h

theorem digits?_suffix {isDigit : Char → Bool} {run rest : List Char}
    (h : digits? isDigit cs = some (run, rest)) : rest <:+ cs :=
  ⟨run, (digits?_spec h).1⟩

theorem splitSign_suffix (cs : List Char) : (splitSign cs).2 <:+ cs := by
  unfold splitSign
  split
  · exact List.suffix_cons ..
  · exact List.suffix_cons ..
  · exact List.suffix_rfl

theorem fraction_suffix (cs : List Char) : (fraction cs).2 <:+ cs := by
  unfold fraction
  split
  next =>
    split
    next heq => exact (digits?_suffix heq).trans (List.suffix_cons ..)
    next => exact List.suffix_rfl
  next => exact List.suffix_rfl

theorem exponent_suffix (cs : List Char) : (exponent cs).2 <:+ cs := by
  unfold exponent
  split
  next e rest =>
    split
    next =>
      dsimp only
      split
      next heq =>
        exact ((digits?_suffix heq).trans (splitSign_suffix rest)).trans (List.suffix_cons ..)
      next => exact List.suffix_rfl
    next => exact List.suffix_rfl
  next => exact List.suffix_rfl

theorem basedInteger?_suffix {n : Nat} {rest : List Char}
    (h : basedInteger? cs = some (n, rest)) : rest <:+ cs := by
  have hbase {isDigit : Char → Bool} {base : Nat} {a b : Char} {behind : List Char}
      (h : (digits? isDigit behind).map (fun found => (numberOf base found.1, found.2)) =
        some (n, rest)) : rest <:+ a :: b :: behind := by
    obtain ⟨found, hrun, heq⟩ := Option.map_eq_some_iff.mp h
    obtain ⟨-, rfl⟩ := Prod.mk.inj heq
    exact (digits?_suffix hrun).trans (suffix_of_cons (List.suffix_cons ..))
  unfold basedInteger? at h
  dsimp only at h
  split at h
  · exact hbase h
  · exact hbase h
  · exact hbase h
  · cases h

theorem readNumber?_leaves {read : Except Fault (Value × List Char)}
    (hread : readNumber? cs = some read) (h : cs <:+ text) : Leaves text read := by
  unfold readNumber? at hread
  split at hread
  next n rest heq =>
    obtain rfl := Option.some.inj hread
    exact (basedInteger?_suffix heq).trans h
  next =>
    obtain ⟨⟨run, rest⟩, hwhole, rfl⟩ := Option.map_eq_some_iff.mp hread
    have hspec : run ++ rest = (splitSign cs).2 ∧ ∀ c ∈ run, isDigit c = true ∨ c = '_' := by
      split at hwhole
      next rest' heq =>
        obtain ⟨rfl, rfl⟩ := Prod.mk.inj (Option.some.inj hwhole)
        exact ⟨heq.symm, List.forall_mem_singleton.mpr (.inl rfl)⟩
      next => exact digits?_spec hwhole
    have hunsigned : (splitSign cs).2 <:+ text := (splitSign_suffix cs).trans h
    have hrest : rest <:+ text := (hspec.1 ▸ List.suffix_append run rest).trans hunsigned
    dsimp only
    split
    next =>
      split
      -- The one place where an integer is refused: its digits are the run that was just read.
      next hlong =>
        refine ⟨hlong, run, ?_, hspec.2, List.countP_eq_length_filter⟩
        exact (hspec.1 ▸ List.prefix_append run rest).isInfix.trans hunsigned.isInfix
      next => exact ((exponent_suffix _).trans (fraction_suffix _)).trans hrest
    next => exact ((exponent_suffix _).trans (fraction_suffix _)).trans hrest

theorem fixedDigits?_suffix {size low high n : Nat} {rest : List Char}
    (h : fixedDigits? size low high cs = some (n, rest)) : rest <:+ cs := by
  unfold fixedDigits? at h
  dsimp only at h
  split at h
  next =>
    obtain ⟨-, rfl⟩ := Prod.mk.inj (Option.some.inj h)
    exact List.drop_suffix ..
  next => cases h

theorem mark?_suffix {c : Char} {rest : List Char} (h : mark? c cs = some rest) : rest <:+ cs := by
  unfold mark? at h
  split at h
  next =>
    split at h
    next =>
      obtain rfl := Option.some.inj h
      exact List.suffix_cons ..
    next => cases h
  next => cases h

/-- A number of a fixed count of digits behind a mark. -/
theorem fixedDigits?_mark?_suffix {c : Char} {size low high n : Nat} {rest behind : List Char}
    (hmark : mark? c cs = some rest) (h : fixedDigits? size low high rest = some (n, behind)) :
    behind <:+ cs := (fixedDigits?_suffix h).trans (mark?_suffix hmark)

theorem timeRest?_suffix {rest : List Char} (h : timeRest? cs = some rest) : rest <:+ cs := by
  unfold timeRest? at h
  simp only [Option.bind_eq_bind, Option.bind_eq_some_iff, Prod.exists] at h
  obtain ⟨_, afterHour, hhour, _, hmark, _, afterMinute, hminute, _, hmark', _, afterSecond,
    hsecond, hrest⟩ := h
  have hbehind : afterSecond <:+ cs :=
    ((fixedDigits?_mark?_suffix hmark' hsecond).trans
      (fixedDigits?_mark?_suffix hmark hminute)).trans (fixedDigits?_suffix hhour)
  split at hrest
  next =>
    obtain rfl := Option.some.inj hrest
    split
    · exact dropWhile_suffix_of (suffix_of_cons (suffix_of_cons hbehind))
    · exact hbehind
  next =>
    obtain rfl := Option.some.inj hrest
    exact hbehind

theorem getD_suffix {found : Option (List Char)} (h : ∀ rest, found = some rest → rest <:+ cs) :
    found.getD cs <:+ cs := by
  cases found with
  | none => exact List.suffix_rfl
  | some rest => exact h rest rfl

theorem zoneRest_suffix (cs : List Char) : zoneRest cs <:+ cs := by
  refine getD_suffix fun behind hbehind => ?_
  split at hbehind
  next c rest =>
    split at hbehind
    next =>
      obtain rfl := Option.some.inj hbehind
      exact List.suffix_cons ..
    next =>
      split at hbehind
      next =>
        simp only [Option.bind_eq_bind, Option.bind_eq_some_iff, Prod.exists] at hbehind
        obtain ⟨_, _, hhour, _, hmark, _, _, hminute, heq⟩ := hbehind
        obtain rfl := Option.some.inj heq
        exact ((fixedDigits?_mark?_suffix hmark hminute).trans (fixedDigits?_suffix hhour)).trans
          (List.suffix_cons ..)
      next => cases hbehind
  next => cases hbehind

theorem readDate?_leaves {read : Except Fault (Value × List Char)}
    (hread : readDate? cs = some read) (h : cs <:+ text) : Leaves text read := by
  unfold readDate? at hread
  simp only [Option.bind_eq_bind, Option.bind_eq_some_iff, Prod.exists] at hread
  obtain ⟨_, afterYear, hyear, _, hmark, _, afterMonth, hmonth, _, hmark', _, afterDay, hday,
    hread⟩ := hread
  have hbehind : afterDay <:+ cs :=
    ((fixedDigits?_mark?_suffix hmark' hday).trans
      (fixedDigits?_mark?_suffix hmark hmonth)).trans (fixedDigits?_suffix hyear)
  split at hread
  next =>
    obtain rfl := Option.some.inj hread
    trivial
  next =>
    obtain rfl := Option.some.inj hread
    refine (getD_suffix fun rest hrest => ?_).trans (hbehind.trans h)
    split at hrest
    next =>
      split at hrest
      next =>
        obtain ⟨stop, hstop, rfl⟩ := Option.map_eq_some_iff.mp hrest
        exact ((zoneRest_suffix stop).trans (timeRest?_suffix hstop)).trans (List.suffix_cons ..)
      next => cases hrest
    next => cases hrest

theorem readTime?_leaves {read : Except Fault (Value × List Char)}
    (hread : readTime? cs = some read) (h : cs <:+ text) : Leaves text read := by
  obtain ⟨rest, hrest, rfl⟩ := Option.map_eq_some_iff.mp hread
  exact (timeRest?_suffix hrest).trans h

theorem readSpecial?_leaves {read : Except Fault (Value × List Char)}
    (hread : readSpecial? cs = some read) (h : cs <:+ text) : Leaves text read := by
  unfold readSpecial? at hread
  dsimp only at hread
  split at hread
  next =>
    obtain rfl := Option.some.inj hread
    exact drop_suffix_of 3 ((splitSign_suffix cs).trans h)
  next => cases hread

theorem readBoolean?_leaves {read : Except Fault (Value × List Char)}
    (hread : readBoolean? cs = some read) (h : cs <:+ text) : Leaves text read := by
  unfold readBoolean? at hread
  split at hread
  next =>
    obtain rfl := Option.some.inj hread
    exact drop_suffix_of 4 h
  next =>
    split at hread
    next =>
      obtain rfl := Option.some.inj hread
      exact drop_suffix_of 5 h
    next => cases hread

/-! ### Values -/

theorem readItems_leaves {reader : Reader}
    (hreader : ∀ cs, cs <:+ text → Leaves text (reader cs)) (fuel : Nat) (items : List Value)
    (h : cs <:+ text) : Leaves text (readItems reader fuel items cs) := by
  induction fuel generalizing items cs with
  | zero => trivial
  | succ fuel ih =>
    refine (hreader cs h).bind fun (value, rest) hrest => ?_
    refine (skipGaps_reads _ hrest).bind fun rest hrest => ?_
    split
    next => exact suffix_of_cons hrest
    next =>
      refine (skipGaps_reads _ (suffix_of_cons hrest)).bind fun rest hrest => ?_
      split
      next => exact suffix_of_cons hrest
      next => exact ih _ hrest
    next => trivial

theorem readPair_leaves {reader : Reader}
    (hreader : ∀ cs, cs <:+ text → Leaves text (reader cs)) (h : cs <:+ text) :
    Leaves text (readPair reader cs) := by
  refine (readKey_leaves _ h).bind fun (key, rest) hrest => ?_
  dsimp only at hrest ⊢
  split
  next =>
    exact (hreader _ (skipSpaces_suffix (suffix_of_cons hrest))).bind fun _ hbehind => hbehind
  next => trivial

theorem readEntries_leaves {reader : Reader}
    (hreader : ∀ cs, cs <:+ text → Leaves text (reader cs)) (fuel : Nat) (table : Table)
    (marks : Marks) (h : cs <:+ text) : Leaves text (readEntries reader fuel table marks cs) := by
  induction fuel generalizing table marks cs with
  | zero => trivial
  | succ fuel ih =>
    refine (readPair_leaves hreader h).bind fun ((key, value), rest) hrest => ?_
    have hspaces := skipSpaces_suffix hrest
    dsimp only at hspaces ⊢
    split
    next => trivial
    next =>
      split
      next => trivial
      next =>
        split
        next => trivial
        next =>
          split
          next heq =>
            rw [heq] at hspaces
            exact suffix_of_cons hspaces
          next heq =>
            rw [heq] at hspaces
            exact ih _ _ (skipSpaces_suffix (suffix_of_cons hspaces))
          next => trivial

theorem readValue_leaves (fuel : Nat) (h : cs <:+ text) : Leaves text (readValue fuel cs) := by
  induction fuel generalizing cs with
  | zero => trivial
  | succ fuel ih =>
    unfold readValue
    split
    next hread => exact (readText?_leaves hread h).bind fun _ hrest => hrest
    next =>
      split
      next =>
        refine (skipGaps_reads _ (suffix_of_cons h)).bind fun rest hrest => ?_
        split
        next => exact suffix_of_cons hrest
        next => exact readItems_leaves (fun _ h => ih h) _ _ hrest
      next =>
        have hspaces := skipSpaces_suffix (suffix_of_cons h)
        split
        next heq =>
          rw [heq] at hspaces
          exact suffix_of_cons hspaces
        next => exact readEntries_leaves (fun _ h => ih h) _ _ _ hspaces
      next =>
        split
        next hread =>
          simp only [Option.or_eq_some_iff] at hread
          obtain ((((hread | ⟨-, hread⟩) | ⟨-, hread⟩) | ⟨-, hread⟩) | ⟨-, hread⟩) := hread
          · exact readBoolean?_leaves hread h
          · exact readDate?_leaves hread h
          · exact readTime?_leaves hread h
          · exact readNumber?_leaves hread h
          · exact readSpecial?_leaves hread h
        next => trivial

/-! ### Documents -/

namespace State

theorem declareTable_leaves (state : State) (h : cs <:+ text) :
    Leaves text (state.declareTable cs) := by
  refine (readKey_leaves _ (skipSpaces_suffix h)).bind fun (key, rest) hrest => ?_
  dsimp only at hrest ⊢
  split
  next => trivial
  next =>
    split
    next => trivial
    next =>
      split
      next => exact suffix_of_cons hrest
      next => trivial

theorem declareItem_leaves (state : State) (h : cs <:+ text) :
    Leaves text (state.declareItem cs) := by
  refine (readKey_leaves _ (skipSpaces_suffix h)).bind fun (key, rest) hrest => ?_
  dsimp only at hrest ⊢
  split
  next => trivial
  next =>
    split
    next => trivial
    next =>
      split
      next => exact suffix_of_cons (suffix_of_cons hrest)
      next => trivial

theorem setPair_leaves (state : State) (h : cs <:+ text) : Leaves text (state.setPair cs) := by
  refine (readPair_leaves (fun _ h => readValue_leaves _ h) h).bind
    fun ((key, value), rest) hrest => ?_
  dsimp only at hrest ⊢
  split
  next => trivial
  next =>
    split
    next => trivial
    next =>
      split
      next => trivial
      next => exact hrest

theorem readStatement_leaves (state : State) (h : cs <:+ text) :
    Leaves text (state.readStatement cs) := by
  unfold readStatement
  split
  next => exact declareItem_leaves _ (suffix_of_cons (suffix_of_cons h))
  next => exact declareTable_leaves _ (suffix_of_cons h)
  next => exact h
  next =>
    split
    · exact setPair_leaves state h
    · trivial
  next => exact h

theorem readLines_reads (fuel : Nat) (state : State) (h : cs <:+ text) :
    Reads text (fun _ => True) (readLines fuel state cs) := by
  induction fuel generalizing state cs with
  | zero => trivial
  | succ fuel ih =>
    have hspaces := skipSpaces_suffix h
    unfold readLines
    split
    next => trivial
    next heq =>
      rw [heq] at hspaces
      exact ih _ (suffix_of_cons hspaces)
    next =>
      refine (readStatement_leaves state hspaces).bind fun (state, rest) hrest => ?_
      refine (skipComment_reads (skipSpaces_suffix hrest)).bind fun rest hrest => ?_
      split
      next => trivial
      next => exact ih _ (suffix_of_cons hrest)
      next => trivial

end State

theorem prefix_of_joinBreaks {run : List Char} (hrun : '\n' ∉ run) (h : run <+: joinBreaks cs) :
    run <+: cs := by
  fun_induction joinBreaks cs generalizing run with
  | case1 cs ih =>
    cases run with
    | nil => exact List.nil_prefix
    | cons c run =>
      obtain ⟨rfl, -⟩ := List.cons_prefix_cons.mp h
      exact absurd (List.mem_cons_self ..) hrun
  | case2 c cs _ ih =>
    cases run with
    | nil => exact List.nil_prefix
    | cons d run =>
      obtain ⟨rfl, hprefix⟩ := List.cons_prefix_cons.mp h
      have hrest : '\n' ∉ run := fun hd => hrun (List.mem_cons_of_mem _ hd)
      exact List.cons_prefix_cons.mpr ⟨rfl, ih hrest hprefix⟩
  | case3 => exact h

theorem infix_of_joinBreaks {run : List Char} (hrun : '\n' ∉ run) (h : run <:+: joinBreaks cs) :
    run <:+: cs := by
  fun_induction joinBreaks cs with
  | case1 cs ih =>
    rcases List.infix_cons_iff.mp h with h | h
    · have hprefix : run <+: joinBreaks ('\r' :: '\n' :: cs) := h
      exact (prefix_of_joinBreaks hrun hprefix).isInfix
    · exact List.infix_cons (List.infix_cons (ih h))
  | case2 c cs hc ih =>
    have heq : joinBreaks (c :: cs) = c :: joinBreaks cs := by rw [joinBreaks]; exact hc
    rcases List.infix_cons_iff.mp h with h | h
    · exact (prefix_of_joinBreaks hrun (heq ▸ h)).isInfix
    · exact List.infix_cons (ih h)
  | case3 => exact h

/-- A run of digits holds no line break. -/
theorem HoldsRun.of_joinBreaks {digits : Nat} (h : HoldsRun (joinBreaks text) digits) :
    HoldsRun text digits := by
  obtain ⟨run, hinfix, hrun, hcount⟩ := h
  have hbreak : '\n' ∉ run := fun hmem => absurd (hrun _ hmem) (by decide)
  exact ⟨run, infix_of_joinBreaks hbreak hinfix, hrun, hcount⟩

/-- A document is refused for a long integer only if it holds more digits in a row than an
integer may have. -/
theorem holdsRun_of_read {digits : Nat} (h : read text = .error (.longInteger digits)) :
    longestInteger < digits ∧ HoldsRun text digits := by
  have hread : Reads (joinBreaks text) (fun _ => True) (read text) :=
    (State.readLines_reads _ _ List.suffix_rfl).bind fun _ _ => trivial
  rw [h] at hread
  exact ⟨hread.1, hread.2.of_joinBreaks⟩

end DocSuite.Toml
