import DocSuite.Syntax.Token.Lexer

/-!
What the parts of a token take from a text. Main statement: a number or a string is the start of
the text, and it does not end with a line break.
-/
namespace DocSuite.Syntax

open DocSuite.Text

/-- Some characters are taken from the start of a text; no line ends among them. -/
def Taken (cs rest : List Char) : Prop := ∃ read, cs = read ++ rest ∧ '\n' ∉ read

namespace Taken

variable {cs rest more : List Char}

theorem refl (cs : List Char) : Taken cs cs := ⟨[], rfl, List.not_mem_nil⟩

theorem cons {c : Char} (hc : c ≠ '\n') (h : Taken cs rest) : Taken (c :: cs) rest := by
  obtain ⟨read, rfl, hr⟩ := h
  exact ⟨c :: read, rfl, fun hm => (List.mem_cons.mp hm).elim (fun he => hc he.symm) hr⟩

theorem trans (h : Taken cs rest) (h' : Taken rest more) : Taken cs more := by
  obtain ⟨read, rfl, hr⟩ := h
  obtain ⟨read', rfl, hr'⟩ := h'
  exact ⟨read ++ read', by rw [List.append_assoc],
    fun hm => (List.mem_append.mp hm).elim hr hr'⟩

theorem dropWhile {test : Char → Bool} (h : test '\n' = false) (cs : List Char) :
    Taken cs (cs.dropWhile test) := by
  induction cs with
  | nil => exact refl []
  | cons c cs ih =>
    rw [List.dropWhile_cons]
    split
    next hc => exact cons (fun he => by simp [he, h] at hc) ih
    next => exact refl _

end Taken

/-! ### Numbers -/

theorem taken_digitTail {kind : NumberKind} {ok : Char → Bool} (hn : ok '\n' = false)
    {needed : Bool} {cs rest : List Char} (h : digitTail kind ok needed cs = .ok rest) :
    Taken cs rest := by
  induction cs generalizing needed with
  | nil =>
    simp only [digitTail] at h
    split at h
    · cases h
    · cases h
      exact .refl []
  | cons c cs ih =>
    simp only [digitTail] at h
    split at h
    next hc => exact .cons (fun he => by simp [he, hn] at hc) (ih h)
    next =>
      split at h
      · split at h <;> cases h
      · split at h
        next hc => exact .cons (by simp [hc]) (ih h)
        next =>
          cases h
          exact .refl _

theorem numberEnd_eq {kind : NumberKind} {cs rest : List Char} (h : numberEnd kind cs = .ok rest) :
    rest = cs := by
  unfold numberEnd at h
  dsimp only at h
  split at h
  · cases h
  · cases h
    rfl

theorem taken_imaginaryEnd {cs rest : List Char} (h : imaginaryEnd cs = .ok rest) :
    Taken cs rest := by
  unfold imaginaryEnd at h
  split at h
  · rw [numberEnd_eq h]
    exact .cons (by decide) (.refl _)
  · rw [numberEnd_eq h]
    exact .cons (by decide) (.refl _)
  · rw [numberEnd_eq h]
    exact .refl _

/-- Both of two steps take from the start of what is left. -/
theorem taken_bind {f : Except Fault (List Char)} {g : List Char → Except Fault (List Char)}
    {cs rest : List Char} (hf : ∀ more, f = .ok more → Taken cs more)
    (hg : ∀ more, g more = .ok rest → Taken more rest) (h : f >>= g = .ok rest) :
    Taken cs rest := by
  cases hm : f with
  | error fault => rw [hm] at h; cases h
  | ok more =>
    rw [hm] at h
    exact (hf more hm).trans (hg more h)

theorem taken_exponentDigits {cs rest : List Char}
    (h : digitTail .decimal isDigit true cs >>= imaginaryEnd = .ok rest) : Taken cs rest :=
  taken_bind (fun _ => taken_digitTail (by decide)) (fun _ => taken_imaginaryEnd) h

theorem taken_exponentEnd {cs rest : List Char} (h : exponentEnd cs = .ok rest) :
    Taken cs rest := by
  unfold exponentEnd at h
  dsimp only at h
  split at h
  next e more =>
    split at h
    next he =>
      have hn : e ≠ '\n' := by rcases he with rfl | rfl <;> decide
      split at h
      · exact .cons hn (.cons (by decide) (taken_exponentDigits h))
      · exact .cons hn (.cons (by decide) (taken_exponentDigits h))
      · split at h
        · exact .cons hn (taken_exponentDigits h)
        · rw [numberEnd_eq h]
          exact .refl _
      · rw [numberEnd_eq h]
        exact .refl _
    next => exact taken_imaginaryEnd h
  next =>
    cases h
    exact .refl []

theorem taken_fractionEnd {cs rest : List Char} (h : fractionEnd cs = .ok rest) :
    Taken cs rest := by
  unfold fractionEnd at h
  split at h
  · split at h
    · exact taken_bind (fun _ => taken_digitTail (by decide)) (fun _ => taken_exponentEnd) h
    · exact taken_exponentEnd h
  · cases h
    exact .refl []

theorem taken_radixDigits {kind : NumberKind} {ok : Char → Bool} (hn : ok '\n' = false)
    {cs rest : List Char} (h : (digitTail kind ok true cs >>= fun rest =>
      match rest with
      | c :: _ => if isDigit c then .error (.invalidDigit c kind) else numberEnd kind rest
      | [] => .ok []) = .ok rest) : Taken cs rest := by
  refine taken_bind (fun _ => taken_digitTail hn) (fun more hm => ?_) h
  split at hm
  · split at hm
    · cases hm
    · rw [numberEnd_eq hm]
      exact .refl _
  · cases hm
    exact .refl []

theorem taken_radixEnd {kind : NumberKind} {ok : Char → Bool} (hn : ok '\n' = false)
    {cs rest : List Char} (h : radixEnd kind ok cs = .ok rest) : Taken cs rest := by
  unfold radixEnd at h
  dsimp only at h
  split at h
  · exact .cons (by decide) (taken_radixDigits hn h)
  · exact taken_radixDigits hn h

theorem taken_zeroTail {cs rest : List Char} (h : zeroTail cs = .ok rest) : Taken cs rest := by
  fun_induction zeroTail cs with
  | case1 cs ih => exact .cons (by decide) (ih h)
  | case2 cs ih => exact .cons (by decide) (.cons (by decide) (ih h))
  | case3 c cs =>
    cases h
    exact .cons (by decide) (.refl _)
  | case4 => cases h
  | case5 => cases h
  | case6 =>
    cases h
    exact .refl _

/-- What can follow a zero, with or without further digits. -/
theorem taken_behindZeros {last : Except Fault (List Char)} {cs rest : List Char}
    (hl : last = .ok rest → rest = cs) (h : (match cs with
      | '.' :: rest => fractionEnd rest
      | 'e' :: _ => exponentEnd cs
      | 'E' :: _ => exponentEnd cs
      | 'j' :: _ => imaginaryEnd cs
      | 'J' :: _ => imaginaryEnd cs
      | _ => last) = .ok rest) :
    Taken cs rest := by
  split at h
  · exact .cons (by decide) (taken_fractionEnd h)
  · exact taken_exponentEnd h
  · exact taken_exponentEnd h
  · exact taken_imaginaryEnd h
  · exact taken_imaginaryEnd h
  · rw [hl h]
    exact .refl _

theorem taken_numberRest {first : Char} {cs rest : List Char}
    (h : numberRest first cs = .ok rest) : Taken cs rest := by
  unfold numberRest at h
  split at h
  · split at h
    · exact .cons (by decide) (taken_radixEnd (by decide) h)
    · exact .cons (by decide) (taken_radixEnd (by decide) h)
    · exact .cons (by decide) (taken_radixEnd (by decide) h)
    · exact .cons (by decide) (taken_radixEnd (by decide) h)
    · exact .cons (by decide) (taken_radixEnd (by decide) h)
    · exact .cons (by decide) (taken_radixEnd (by decide) h)
    · refine taken_bind (fun _ => taken_zeroTail) (fun zeros hz => ?_) h
      cases zeros with
      | nil =>
        cases hz
        exact .refl []
      | cons c zeros =>
        dsimp only at hz
        split at hz
        · have hn : isDigit '\n' = false := by decide
          exact taken_bind (fun _ => taken_digitTail hn)
            (fun _ => taken_behindZeros fun h => by cases h) hz
        · exact taken_behindZeros (@numberEnd_eq .decimal _ _) hz
  · refine taken_bind (fun _ => taken_digitTail (by decide)) (fun more hm => ?_) h
    split at hm
    · exact .cons (by decide) (taken_fractionEnd hm)
    · exact taken_exponentEnd hm

/-! ### Strings -/

theorem stringRest_closed {quote : Char} {triple : Bool} {seen : Nat} {cs rest : List Char}
    (h : stringRest quote triple seen cs = (rest, true)) :
    ∃ read, cs = read ++ quote :: rest := by
  fun_induction stringRest quote triple seen cs with
  | case1 => cases h
  | case2 => cases h
  | case3 =>
    cases h
    exact ⟨[], by simp_all⟩
  | case4 c cs _ _ ih =>
    obtain ⟨read, rfl⟩ := ih h
    exact ⟨_ :: read, rfl⟩
  | case5 => cases h
  | case6 _ d cs _ _ ih =>
    obtain ⟨read, rfl⟩ := ih h
    exact ⟨_ :: d :: read, rfl⟩
  | case7 seen c cs _ _ _ ih =>
    obtain ⟨read, rfl⟩ := ih h
    exact ⟨c :: read, rfl⟩

theorem stringStart?_eq {cs body : List Char} {quote : Char}
    (h : stringStart? cs = some (quote, body)) :
    (quote = '\'' ∨ quote = '"') ∧ ∃ letters, cs = letters ++ quote :: body := by
  obtain ⟨letters, -, hl⟩ := List.exists_of_findSome?_eq_some h
  split at hl
  · split at hl
    next hd =>
      cases hl
      exact ⟨.inl rfl, cs.take letters.length, by rw [← hd, List.take_append_drop]⟩
    next hd =>
      cases hl
      exact ⟨.inr rfl, cs.take letters.length, by rw [← hd, List.take_append_drop]⟩
    next => cases hl
  · cases hl

/-! ### Operators -/

theorem operator?_spelling {cs : List Char} {t : Terminal} (h : Terminal.operator? cs = some t) :
    t.spelling ≠ [] ∧ '\n' ∉ t.spelling ∧ ∃ rest, cs = t.spelling ++ rest := by
  have hs : ∀ t ∈ Terminal.operators, t.spelling ≠ [] ∧ '\n' ∉ t.spelling := by decide
  have ht := hs t (List.mem_of_find?_eq_some h)
  have hp : t.spelling.isPrefixOf cs = true := by simpa using List.find?_some h
  obtain ⟨rest, hr⟩ := List.isPrefixOf_iff_prefix.mp hp
  exact ⟨ht.1, ht.2, rest, hr.symm⟩

end DocSuite.Syntax
