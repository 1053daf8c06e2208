import DocSuite.Proofs.Fences

/-!
Where the lines of samples stand in a document. Main statement: a fence opens in the line that it
is given, and each line behind it holds the next line of the sample at its end, behind marks of
quotes and lists and indentation.
-/
namespace DocSuite.Text

/-- A line of a text, counted from one. -/
def line? (text : List Char) : (number : Nat) → Option (List Char)
  | 0 => none
  | n + 1 => (splitAt '\n' text)[n]?

end DocSuite.Text

namespace DocSuite.Markdown

open DocSuite.Text

/-- Indentation, the mark of a quote, or a part of the marker of a list item. -/
def isMark (c : Char) : Bool :=
  isSpace c || ['>', '-', '+', '*', '.', ')'].contains c || c.isDigit

/-- All characters belong to marks. -/
def AllMarks (cs : List Char) : Prop := ∀ c ∈ cs, isMark c = true

@[simp] theorem allMarks_nil : AllMarks [] := by simp [AllMarks]

@[simp] theorem allMarks_append {as bs : List Char} :
    AllMarks (as ++ bs) ↔ AllMarks as ∧ AllMarks bs := by
  simp [AllMarks, or_imp, forall_and]

theorem AllMarks.mono {as bs : List Char} (h : AllMarks bs) (hs : as ⊆ bs) : AllMarks as :=
  fun c hc => h c (hs hc)

theorem allMarks_of_isSpace {cs : List Char} (h : ∀ c ∈ cs, isSpace c = true) : AllMarks cs :=
  fun c hc => by simp [isMark, h c hc]

/-- The marks are followed by the text. -/
def Behind (whole text : List Char) : Prop := ∃ marks, AllMarks marks ∧ whole = marks ++ text

theorem Behind.trans {a b c : List Char} (h : Behind a b) (h' : Behind b c) : Behind a c := by
  obtain ⟨marks, hm, rfl⟩ := h
  obtain ⟨marks', hm', rfl⟩ := h'
  exact ⟨marks ++ marks', allMarks_append.mpr ⟨hm, hm'⟩, by rw [List.append_assoc]⟩

theorem Behind.refl (cs : List Char) : Behind cs cs := ⟨[], allMarks_nil, rfl⟩

theorem behind_drop {cs : List Char} {n : Nat} (h : AllMarks (cs.take n)) : Behind cs (cs.drop n) :=
  ⟨cs.take n, h, (List.take_append_drop n cs).symm⟩

/-! ### Lines inside quotes and lists -/

theorem isSpace_take_measure (column : Nat) (cs : List Char) :
    ∀ c ∈ cs.take (Line.measure column cs).1, isSpace c = true := by
  induction cs generalizing column with
  | nil => simp
  | cons d ds ih =>
    simp only [Line.measure]
    split
    next hd =>
      simp only [List.take_succ_cons, List.mem_cons, forall_eq_or_imp]
      exact ⟨hd, ih _⟩
    next => simp

section

variable (texts : List (List Char))

/-- A line of the document with an index, less marks of quotes in front of its text and of lists in
front of its content. -/
structure Stands (n : Nat) (line : Line) : Prop where
  number : line.number = n + 1
  text : ∃ whole, texts[n]? = some whole ∧ Behind whole line.text
  shift : AllMarks (line.text.take line.shift)
  /-- A line is followed by others or does not end. -/
  ended : line.ended = true ↔ n + 1 < texts.length

/-- Lines of the document, one behind the other. -/
def Run : (n : Nat) → List Line → Prop
  | _, [] => True
  | n, line :: lines => Stands texts n line ∧ Run (n + 1) lines

end

section

variable {texts : List (List Char)} {n : Nat} {line : Line} {lines : List Line}

theorem Run.drop (h : Run texts n lines) (count : Nat) :
    Run texts (n + count) (lines.drop count) := by
  induction lines generalizing n count with
  | nil => simp [Run]
  | cons line lines ih =>
    cases count with
    | zero => exact h
    | succ count =>
      have hrest := ih h.2 count
      rwa [Nat.add_right_comm, Nat.add_assoc] at hrest

theorem Run.take (h : Run texts n lines) (count : Nat) : Run texts n (lines.take count) := by
  induction lines generalizing n count with
  | nil => simp [Run]
  | cons line lines ih =>
    cases count with
    | zero => simp [Run]
    | succ count => exact ⟨h.1, ih h.2 count⟩

/-- The content of a line stands behind marks. -/
theorem Stands.content (h : Stands texts n line) :
    ∃ whole, texts[n]? = some whole ∧ Behind whole line.content := by
  obtain ⟨whole, hw, hb⟩ := h.text
  exact ⟨whole, hw, hb.trans (behind_drop h.shift)⟩

theorem stands_ofText {text : List Char} {ended : Bool} (ht : texts[n]? = some text)
    (he : ended = true ↔ n + 1 < texts.length) : Stands texts n (Line.ofText (n + 1) text ended) :=
  ⟨rfl, ⟨text, ht, .refl text⟩, allMarks_of_isSpace (isSpace_take_measure 0 text), he⟩

theorem run_ofTexts {rest : List (List Char)} (h : texts.drop n = rest) :
    Run texts n (Line.ofTexts (n + 1) rest) := by
  induction rest generalizing n with
  | nil => trivial
  | cons text rest ih =>
    have ht : texts[n]? = some text := by
      rw [← List.head?_drop, h, List.head?_cons]
    have hrest : texts.drop (n + 1) = rest := by
      rw [← List.tail_drop, h, List.tail_cons]
    have hlength := congrArg List.length hrest
    rw [List.length_drop] at hlength
    cases rest with
    | nil =>
      simp only [Line.ofTexts]
      split
      · trivial
      · refine ⟨stands_ofText ht ?_, trivial⟩
        simp only [List.length_nil] at hlength
        simp only [Bool.false_eq_true, false_iff]
        omega
    | cons next rest =>
      refine ⟨stands_ofText ht ?_, ih hrest⟩
      simp only [List.length_cons] at hlength
      simp only [true_iff]
      omega

theorem run_readAll (source : List Char) :
    Run (splitAt '\n' source) 0 (Line.readAll source) :=
  run_ofTexts rfl

theorem behind_of_isQuote (h : line.isQuote = true) : Behind line.content line.unquote.text := by
  obtain ⟨cs, hc⟩ : ∃ cs, line.content = '>' :: cs := by
    rw [Line.isQuote, beq_iff_eq, List.head?_eq_some_iff] at h
    exact h
  have hquote : Behind line.content cs := ⟨['>'], by simp [AllMarks, isMark], by rw [hc]; rfl⟩
  refine hquote.trans ?_
  have hd : line.content.drop 1 = cs := by rw [hc]; rfl
  unfold Line.unquote
  rw [hd]
  dsimp only
  split
  next cs => exact ⟨[' '], by simp [AllMarks, isMark, isSpace], rfl⟩
  next cs =>
    split
    · exact ⟨['\t'], by simp [AllMarks, isMark, isSpace], rfl⟩
    · exact .refl _
  next => exact .refl _

theorem shift_unquote (line : Line) :
    ∃ column, line.unquote.shift = (Line.measure column line.unquote.text).1 := ⟨_, rfl⟩

theorem Stands.unquote (h : Stands texts n line) (hq : line.isQuote = true) :
    Stands texts n line.unquote where
  number := h.number
  text := by
    obtain ⟨whole, hw, hb⟩ := h.content
    exact ⟨whole, hw, hb.trans (behind_of_isQuote hq)⟩
  shift := by
    obtain ⟨column, hs⟩ := shift_unquote line
    rw [hs]
    exact allMarks_of_isSpace (isSpace_take_measure _ _)
  ended := h.ended

theorem Run.quoteLines (h : Run texts n lines) (frame : Frame) (isLastEmpty : Bool) :
    Run texts n (quoteLines frame isLastEmpty lines) := by
  induction lines generalizing n isLastEmpty with
  | nil => trivial
  | cons line lines ih =>
    simp only [Markdown.quoteLines]
    split
    · trivial
    · split
      next hq =>
        rw [Bool.and_eq_true] at hq
        exact ⟨h.1.unquote hq.1, ih h.2 _⟩
      · split
        · trivial
        · exact ⟨⟨h.1.number, h.1.text, h.1.shift, h.1.ended⟩, ih h.2 _⟩

theorem allMarks_of_ordered {marker : ListMarker} (h : line.ordered? = some marker) :
    AllMarks (line.content.take marker.size) := by
  unfold Line.ordered? at h
  dsimp only at h
  split at h
  next mark cs hcs =>
    split at h
    next hmark =>
      cases h
      simp only [Bool.and_eq_true, Bool.or_eq_true, beq_iff_eq] at hmark
      have hdigits : ∀ c ∈ line.content.takeWhile Char.isDigit, c.isDigit = true :=
        fun c hc => List.all_eq_true.mp List.all_takeWhile c hc
      have hsplit := List.takeWhile_append_dropWhile (p := Char.isDigit) (l := line.content)
      rw [hcs] at hsplit
      generalize line.content.takeWhile Char.isDigit = digits at hdigits hsplit
      dsimp only
      rw [← hsplit, List.take_length_add_append, List.take_succ_cons, List.take_zero,
        allMarks_append]
      refine ⟨fun c hc => by simp [isMark, hdigits c hc], ?_⟩
      rcases hmark.1.1.1 with rfl | rfl <;> simp [AllMarks, isMark]
    next => cases h
  next => cases h

theorem allMarks_of_bullet {marker : ListMarker} (h : line.bullet? = some marker) :
    AllMarks (line.content.take marker.size) := by
  unfold Line.bullet? at h
  split at h
  next mark cs hcs =>
    split at h
    next hmark =>
      cases h
      rw [Bool.and_eq_true, List.contains_iff_mem] at hmark
      have hmem := hmark.1
      simp only [List.mem_cons, List.not_mem_nil, or_false] at hmem
      rw [hcs, List.take_succ_cons, List.take_zero]
      rcases hmem with rfl | rfl | rfl <;> simp [AllMarks, isMark]
    next => cases h
  next => cases h

theorem Stands.enterItem {marker : ListMarker} (h : Stands texts n line)
    (hm : line.ordered? = some marker ∨ line.bullet? = some marker) :
    Stands texts n (line.enterItem marker).1 where
  number := h.number
  text := h.text
  shift := by
    have hmarker : AllMarks (line.content.take marker.size) :=
      hm.elim allMarks_of_ordered allMarks_of_bullet
    simp only [Line.enterItem]
    rw [List.take_add, List.take_add, allMarks_append, allMarks_append]
    refine ⟨⟨h.shift, hmarker⟩, ?_⟩
    rw [← List.drop_drop]
    exact allMarks_of_isSpace (isSpace_take_measure _ _)
  ended := h.ended

/-! ### The text of lines -/

/-- Less leading spaces, the row is the end of the line; behind marks, unless the row is empty. -/
def Ends (whole row : List Char) : Prop :=
  ∃ blanks marks rest, row = List.replicate blanks ' ' ++ rest ∧ whole = marks ++ rest ∧
    (row ≠ [] → AllMarks marks)

theorem ends_nil (whole : List Char) : Ends whole [] :=
  ⟨0, whole, [], rfl, (List.append_nil whole).symm, fun h => absurd rfl h⟩

theorem Behind.ends {whole text row : List Char} (h : Behind whole text) (hr : Ends text row) :
    Ends whole row := by
  obtain ⟨marks, hm, rfl⟩ := h
  obtain ⟨blanks, marks', rest, hrow, rfl, hm'⟩ := hr
  exact ⟨blanks, marks ++ marks', rest, hrow, (List.append_assoc ..).symm,
    fun hne => allMarks_append.mpr ⟨hm, hm' hne⟩⟩

theorem ends_cutFrom (width base shift column index : Nat) {text : List Char}
    (h : AllMarks (text.take (shift - index))) :
    Ends text (Line.cutFrom width base shift column index text) := by
  have hblanks (cs : List Char) (count : Nat) : Ends cs (List.replicate count ' ' ++ cs) :=
    ⟨count, [], cs, rfl, rfl, fun _ => allMarks_nil⟩
  induction text generalizing column index with
  | nil => simpa [Line.cutFrom] using hblanks [] (column - width)
  | cons c cs ih =>
    have hbehind (hc : isMark c = true) : Behind (c :: cs) cs := ⟨[c], by simpa [AllMarks], rfl⟩
    have hrest : AllMarks (cs.take (shift - (index + 1))) := by
      refine h.mono fun d hd => ?_
      by_cases hlt : index < shift
      · rw [show shift - index = shift - (index + 1) + 1 by omega, List.take_succ_cons]
        exact List.mem_cons_of_mem _ hd
      · rw [show shift - (index + 1) = 0 by omega, List.take_zero] at hd
        cases hd
    simp only [Line.cutFrom]
    split
    · exact hblanks (c :: cs) _
    · split
      next hs => exact (hbehind (by simp [isMark, hs])).ends (ih _ _ hrest)
      · split
        next hlt =>
          rw [show shift - index = shift - (index + 1) + 1 by omega, List.take_succ_cons] at h
          exact (hbehind (h c List.mem_cons_self)).ends (ih _ _ hrest)
        · exact hblanks (c :: cs) 0

theorem Stands.ends_cut (h : Stands texts n line) (width : Nat) :
    ∃ whole, texts[n]? = some whole ∧ Ends whole (line.cut width) := by
  obtain ⟨whole, hw, hb⟩ := h.text
  exact ⟨whole, hw, hb.ends (ends_cutFrom width line.base line.shift 0 0 h.shift)⟩

theorem Stands.not_mem_cut (h : Stands texts n line) (hb : ∀ text ∈ texts, '\n' ∉ text)
    (width : Nat) : '\n' ∉ line.cut width := by
  obtain ⟨whole, hw, blanks, marks, rest, hrow, rfl, -⟩ := h.ends_cut width
  have hwhole := hb _ (List.mem_of_getElem? hw)
  rw [List.mem_append, not_or] at hwhole
  rw [hrow, List.mem_append, List.mem_replicate]
  rintro (⟨-, hc⟩ | hc)
  · exact absurd hc (by decide)
  · exact hwhole.2 hc

/-- Each row of the text of lines stands in the line that is as far behind the first one. -/
theorem Run.exists_ends (h : Run texts n lines) (hb : ∀ text ∈ texts, '\n' ∉ text) (width : Nat)
    (hne : Line.textOf width lines ≠ []) {k : Nat} {row : List Char}
    (hrow : (splitAt '\n' (Line.textOf width lines))[k]? = some row) :
    ∃ whole, texts[n + k]? = some whole ∧ Ends whole row := by
  induction lines generalizing n k with
  | nil => exact absurd rfl hne
  | cons line lines ih =>
    obtain ⟨hline, hlines⟩ := h
    have hcut := splitAt_of_not_mem (hline.not_mem_cut hb width)
    rw [Line.textOf, List.flatMap_cons, ← Line.textOf] at hrow
    split at hrow
    next hended =>
      rw [List.append_assoc, List.singleton_append, splitAt_append_break, hcut,
        List.singleton_append] at hrow
      cases k with
      | zero =>
        cases hrow
        exact hline.ends_cut width
      | succ k =>
        rw [List.getElem?_cons_succ] at hrow
        rw [Nat.add_comm k, ← Nat.add_assoc]
        by_cases hempty : Line.textOf width lines = []
        · -- the line feed of the last line leaves an empty row
          rw [hempty] at hrow
          have hlength := hline.ended.mp hended
          obtain ⟨rfl, rfl⟩ : k = 0 ∧ row = [] := by
            cases k <;> simp_all [splitAt]
          exact ⟨_, List.getElem?_eq_getElem hlength, ends_nil _⟩
        · exact ih hlines hempty hrow
    next hended =>
      have hlength : ¬ n + 1 < texts.length := fun hl => hended (hline.ended.mpr hl)
      cases lines with
      | nil =>
        rw [List.append_nil, Line.textOf, List.flatMap_nil, List.append_nil, hcut] at hrow
        cases k with
        | zero =>
          cases hrow
          exact hline.ends_cut width
        | succ k => simp at hrow
      | cons next lines =>
        obtain ⟨whole, hw, -⟩ := hlines.1.text
        exact absurd (List.getElem?_eq_some_iff.mp hw).1 hlength

end

/-! ### Fences -/

/-- Behind marks, the line opens a fence with a text behind it. -/
def Opens (whole info : List Char) : Prop :=
  ∃ mark size, (mark = '`' ∨ mark = '~') ∧ 3 ≤ size ∧
    Behind whole (List.replicate size mark ++ info)

theorem exists_content_of_fence {line : Line} {fence : FenceStart}
    (h : line.fence? = some fence) : ∃ mark size, (mark = '`' ∨ mark = '~') ∧ 3 ≤ size ∧
      line.content = List.replicate size mark ++ fence.info := by
  unfold Line.fence? at h
  split at h
  · cases h
  next mark cs hcs =>
    dsimp only at h
    split at h
    next hmark =>
      cases h
      refine ⟨mark, _, hmark.1.symm.imp_left And.left, hmark.2, ?_⟩
      have hreplicate : cs.takeWhile (· == mark) =
          List.replicate (cs.takeWhile (· == mark)).length mark :=
        List.eq_replicate_of_mem fun c hc =>
          eq_of_beq (List.all_eq_true.mp (List.all_takeWhile (p := (· == mark))) c hc)
      rw [hcs, Nat.add_comm 1, List.replicate_succ, List.cons_append, ← hreplicate,
        List.takeWhile_append_dropWhile]
    next => cases h

/-- The fence opens in its line, and its content stands at the ends of the lines behind that. -/
structure FenceAt (source info content : List Char) (number : Nat) : Prop where
  opening : ∃ whole, line? source number = some whole ∧ Opens whole info
  rows : content ≠ [] → ∀ k row, line? content k = some row →
    ∃ whole, line? source (number + k) = some whole ∧ Ends whole row

theorem carries_line (source : List Char) :
    Carries (fun lines => ∃ n, Run (splitAt '\n' source) n lines) (FenceAt source) where
  drop count h := by
    obtain ⟨n, h⟩ := h
    exact ⟨n + count, h.drop count⟩
  quote frame h hq := by
    obtain ⟨n, hline, hothers⟩ := h
    exact ⟨n, hline.unquote hq, hothers.quoteLines frame _⟩
  item h hm := by
    obtain ⟨n, hline, hothers⟩ := h
    exact ⟨n, hline.enterItem hm, hothers⟩
  fence count h hfence := by
    obtain ⟨n, hline, hothers⟩ := h
    obtain ⟨mark, size, hmark, hsize, hcontent⟩ := exists_content_of_fence hfence
    obtain ⟨whole, hw, hb⟩ := hline.content
    rw [hline.number]
    refine ⟨⟨whole, hw, mark, size, hmark, hsize, hcontent ▸ hb⟩, fun hne k row hrow => ?_⟩
    cases k with
    | zero => cases hrow
    | succ k =>
      obtain ⟨whole', hw', he⟩ :=
        (hothers.take count).exists_ends not_mem_of_mem_splitAt _ hne hrow
      exact ⟨whole', hw', he⟩

end DocSuite.Markdown

namespace DocSuite

open DocSuite.Markdown DocSuite.Text

/-- The sample opens in a line of a document with its language, and its source stands at the ends
of the lines behind that one. -/
structure Sample.StandsAt (document : List Char) (number : Nat) (sample : Sample) : Prop where
  opening : ∃ whole info, line? document number = some whole ∧ Opens whole info ∧
    fenceLanguage (String.ofList info) = sample.language
  rows : sample.source ≠ "" → ∀ k row, line? sample.source.toList k = some row →
    ∃ whole, line? document (number + k) = some whole ∧ Ends whole row

/-- Samples stand where their lines say. -/
theorem standsAt_of_mem_scan {source : String} {languages : List String} {sample : Sample}
    (h : sample ∈ scan source languages) : ∃ number : Nat, sample.line = some (number : Int) ∧
      sample.StandsAt (normalize source.toList) number := by
  simp only [scan, List.mem_filterMap] at h
  obtain ⟨fence, hf, h⟩ := h
  split at h
  · cases h
    obtain ⟨⟨whole, hw, ho⟩, hrows⟩ :=
      (carries_line (normalize source.toList)).outline ⟨0, run_readAll _⟩ none fence hf
    refine ⟨fence.line, rfl, ⟨whole, fence.info, hw, ho, rfl⟩, fun hne => ?_⟩
    rw [String.toList_ofList]
    exact hrows fun hc => hne (by rw [hc])
  · cases h

end DocSuite
