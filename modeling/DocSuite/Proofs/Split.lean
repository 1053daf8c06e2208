import DocSuite.Text.Ranges

/-!
Splitting a text at a separator. Main statement: parts that do not hold the separator, joined by
it, are split into the same parts.
-/
namespace DocSuite.Text

variable {sep : Char}

theorem splitAt_cons_ne {c : Char} (h : c ≠ sep) (cs : List Char) : ∃ first rest,
    splitAt sep cs = first :: rest ∧ splitAt sep (c :: cs) = (c :: first) :: rest := by
  have hne : splitAt sep cs ≠ [] := by
    cases cs with
    | nil => simp [splitAt]
    | cons d ds =>
      simp only [splitAt]
      split
      · simp
      · split <;> simp
  obtain ⟨first, rest, hs⟩ := List.exists_cons_of_ne_nil hne
  refine ⟨first, rest, hs, ?_⟩
  rw [splitAt, if_neg h, hs]

theorem splitAt_append_break (as bs : List Char) :
    splitAt sep (as ++ sep :: bs) = splitAt sep as ++ splitAt sep bs := by
  induction as with
  | nil => simp [splitAt]
  | cons a as ih =>
    by_cases h : a = sep
    · subst h
      simp [splitAt, ih]
    · obtain ⟨first, rest, h1, h2⟩ := splitAt_cons_ne h as
      obtain ⟨first', rest', h3, h4⟩ := splitAt_cons_ne h (as ++ sep :: bs)
      rw [List.cons_append, h4, h2]
      rw [h3, h1, List.cons_append, List.cons.injEq] at ih
      rw [ih.1, ih.2, List.cons_append]

theorem splitAt_line_append {line : List Char} (h : sep ∉ line) (post : List Char) :
    ∃ tail rest, splitAt sep (line ++ post) = (line ++ tail) :: rest := by
  induction line with
  | nil =>
    cases post with
    | nil => exact ⟨[], [], rfl⟩
    | cons c cs =>
      by_cases hc : c = sep
      · exact ⟨[], splitAt sep cs, by simp [splitAt, hc]⟩
      · obtain ⟨first, rest, -, h2⟩ := splitAt_cons_ne hc cs
        exact ⟨c :: first, rest, h2⟩
  | cons c line ih =>
    simp only [List.mem_cons, not_or] at h
    obtain ⟨tail, rest, ih⟩ := ih h.2
    obtain ⟨first, rest', h1, h2⟩ := splitAt_cons_ne (Ne.symm h.1) (line ++ post)
    rw [ih, List.cons.injEq] at h1
    exact ⟨tail, rest', by rw [List.cons_append, h2, ← h1.1, List.cons_append]⟩

theorem length_splitAt (cs : List Char) : (splitAt sep cs).length = cs.count sep + 1 := by
  induction cs with
  | nil => rfl
  | cons c cs ih =>
    by_cases h : c = sep
    · subst h
      simp [splitAt, ih]
    · obtain ⟨first, rest, h1, h2⟩ := splitAt_cons_ne h cs
      rw [h1] at ih
      rw [h2, List.count_cons_of_ne h]
      exact ih

theorem mem_of_mem_splitAt {c : Char} {source : List Char} :
    ∀ text ∈ splitAt sep source, c ∈ text → c ∈ source := by
  induction source with
  | nil => simp [splitAt]
  | cons d ds ih =>
    intro text ht hc
    rw [List.mem_cons]
    simp only [splitAt] at ht
    split at ht
    · rcases List.mem_cons.mp ht with rfl | ht
      · cases hc
      · exact .inr (ih text ht hc)
    · split at ht
      · rw [List.mem_singleton.mp ht] at hc
        exact .inl (List.mem_singleton.mp hc)
      · next first rest hsplit =>
        rw [hsplit] at ih
        rcases List.mem_cons.mp ht with rfl | ht
        · exact (List.mem_cons.mp hc).imp_right (ih first List.mem_cons_self)
        · exact .inr (ih text (List.mem_cons_of_mem _ ht) hc)

theorem not_mem_of_mem_splitAt {source : List Char} : ∀ line ∈ splitAt sep source, sep ∉ line := by
  induction source with
  | nil => simp [splitAt]
  | cons c cs ih =>
    intro line hl
    simp only [splitAt] at hl
    split at hl
    · rcases List.mem_cons.mp hl with rfl | hl
      · exact List.not_mem_nil
      · exact ih line hl
    · next hc =>
      split at hl
      · rw [List.mem_singleton.mp hl, List.mem_singleton]
        exact Ne.symm hc
      · next first rest hs =>
        rw [hs] at ih
        rcases List.mem_cons.mp hl with rfl | hl
        · have hfirst := ih first List.mem_cons_self
          simp [hfirst, Ne.symm hc]
        · exact ih line (List.mem_cons_of_mem _ hl)

theorem splitAt_of_not_mem {part : List Char} (h : sep ∉ part) : splitAt sep part = [part] := by
  induction part with
  | nil => rfl
  | cons c cs ih =>
    simp only [List.mem_cons, not_or] at h
    rw [splitAt, if_neg (Ne.symm h.1), ih h.2]

theorem splitAt_intercalate {parts : List (List Char)} (hne : parts ≠ [])
    (h : ∀ part ∈ parts, sep ∉ part) : splitAt sep ([sep].intercalate parts) = parts := by
  induction parts with
  | nil => exact absurd rfl hne
  | cons part rest ih =>
    rw [List.forall_mem_cons] at h
    cases rest with
    | nil => rw [List.intercalate_singleton, splitAt_of_not_mem h.1]
    | cons next rest =>
      rw [List.intercalate_cons_cons, List.append_assoc, List.singleton_append,
        splitAt_append_break, splitAt_of_not_mem h.1, ih (List.cons_ne_nil _ _) h.2,
        List.singleton_append]

theorem map_ofList_toList (texts : List String) :
    (texts.map String.toList).map String.ofList = texts := by
  simp

/-- Another separator in place of each one. -/
theorem map_intercalate {other : Char} {parts : List (List Char)}
    (h : ∀ part ∈ parts, sep ∉ part) :
    ([sep].intercalate parts).map (fun c => if c = sep then other else c) =
      [other].intercalate parts := by
  have hkeep (part : List Char) (hp : sep ∉ part) :
      part.map (fun c => if c = sep then other else c) = part := by
    refine (List.map_congr_left fun c hc => ?_).trans (List.map_id part)
    exact if_neg (ne_of_mem_of_not_mem hc hp)
  induction parts with
  | nil => rfl
  | cons part rest ih =>
    rw [List.forall_mem_cons] at h
    cases rest with
    | nil => rw [List.intercalate_singleton, List.intercalate_singleton, hkeep part h.1]
    | cons next rest =>
      rw [List.intercalate_cons_cons, List.intercalate_cons_cons, List.map_append, List.map_append,
        hkeep part h.1, ih h.2]
      simp

end DocSuite.Text
