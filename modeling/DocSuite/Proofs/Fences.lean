import DocSuite.Proofs.Split
import DocSuite.Sample.Scan

/-!
Fences of a document. Main statement: what is known of the lines of a document, and stays known of
the lines inside quotes and lists, says what the fences at any depth hold. So samples hold no
carriage returns and no null characters.
-/
namespace DocSuite.Markdown

/-! ### Fences in blocks -/

/-- Something holds of the text behind the mark, the content and the line of every fence in the
blocks. -/
def AllFences (q : (info content : List Char) → (line : Nat) → Prop) (blocks : List Block) : Prop :=
  ∀ before, ∀ fence ∈ fencesOf before blocks, q fence.info fence.content fence.line

theorem exists_fencesOf_append (before : Option Block) (as bs : List Block) :
    ∃ between, fencesOf before (as ++ bs) = fencesOf before as ++ fencesOf between bs := by
  induction as generalizing before with
  | nil => exact ⟨before, rfl⟩
  | cons a as ih =>
    obtain ⟨between, h⟩ := ih (some a)
    exact ⟨between, by rw [List.cons_append, fencesOf, h, fencesOf, List.append_assoc]⟩

theorem mem_fencesOfItems {fence : Fence} {items : List (List Block)} :
    fence ∈ fencesOfItems items ↔ ∃ item ∈ items, fence ∈ fencesOf none item := by
  induction items with
  | nil => simp [fencesOfItems]
  | cons item rest ih => simp [fencesOfItems, ih]

section

variable {q : (info content : List Char) → (line : Nat) → Prop}

namespace AllFences

theorem nil : AllFences q [] := fun _ _ h => by simp [fencesOf] at h

theorem append {as bs : List Block} (ha : AllFences q as) (hb : AllFences q bs) :
    AllFences q (as ++ bs) := by
  intro before fence hf
  obtain ⟨between, h⟩ := exists_fencesOf_append before as bs
  rw [h, List.mem_append] at hf
  exact hf.elim (ha before fence) (hb between fence)

theorem fence {info content : List Char} {line : Nat} (h : q info content line) :
    AllFences q [.fence info content line] := by
  intro before fence hf
  simp only [fencesOf, Block.fences, List.append_nil, List.mem_singleton] at hf
  exact hf ▸ h

theorem quote {children : List Block} (h : AllFences q children) :
    AllFences q [.quote children] := by
  intro before fence hf
  simp only [fencesOf, Block.fences, List.append_nil] at hf
  exact h none fence hf

theorem list {items : List (List Block)} (h : ∀ item ∈ items, AllFences q item) :
    AllFences q [.list items] := by
  intro before fence hf
  simp only [fencesOf, Block.fences, List.append_nil, mem_fencesOfItems] at hf
  obtain ⟨item, hi, hf⟩ := hf
  exact h item hi none fence hf

/-- Blocks without fences. -/
theorem other {block : Block} (h : ∀ before, block.fences before = []) : AllFences q [block] := by
  intro before fence hf
  simp [fencesOf, h] at hf

end AllFences

/-! ### Readers -/

/-- What is known of lines stays known of those that a reader goes on with, and says what a fence
at their start holds. -/
structure Carries (p : List Line → Prop) (q : (info content : List Char) → (line : Nat) → Prop) :
    Prop where
  drop : ∀ {lines : List Line} (n : Nat), p lines → p (lines.drop n)
  quote : ∀ {line : Line} {others : List Line} (frame : Frame), p (line :: others) →
    line.isQuote = true → p (line.unquote :: quoteLines frame line.unquote.isEmpty others)
  item : ∀ {line : Line} {others : List Line} {marker : ListMarker}, p (line :: others) →
    line.ordered? = some marker ∨ line.bullet? = some marker →
      p ((line.enterItem marker).1 :: others)
  fence : ∀ {line : Line} {others : List Line} {fence : FenceStart} (n : Nat),
    p (line :: others) → line.fence? = some fence →
      q fence.info (Line.textOf line.indent.toNat (others.take n)) line.number

variable {p : List Line → Prop}

/-- From lines of which something is known, a reader gets fences of which something holds. -/
def ReaderCarries (p : List Line → Prop) (q : (info content : List Char) → (line : Nat) → Prop)
    (read : Reader) : Prop :=
  ∀ frame lines, p lines → AllFences q (read frame lines).blocks

namespace Carries

section

variable (h : Carries p q) {inside : Reader}

include h

theorem readFence {line : Line} {others : List Line} {fence : FenceStart} (hp : p (line :: others))
    (hfence : line.fence? = some fence) (frame : Frame) :
    AllFences q (readFence frame line others fence).blocks :=
  .fence (h.fence _ hp hfence)

theorem readQuote (hi : ReaderCarries p q inside) {line : Line} {others : List Line}
    (hp : p (line :: others)) (hquote : line.isQuote = true) (frame : Frame) :
    AllFences q (readQuote inside frame line others).blocks :=
  .quote (hi _ _ (h.quote frame hp hquote))

theorem readItems (hi : ReaderCarries p q inside) (frame : Frame) (marker : ListMarker)
    (fuel : Nat) {lines : List Line} (hp : p lines)
    (hmarker : ∀ line ∈ lines.head?, line.ordered? = some marker ∨ line.bullet? = some marker) :
    ∀ item ∈ (readItems inside frame marker fuel lines).1, AllFences q item := by
  induction fuel generalizing marker lines with
  | zero => simp [Markdown.readItems]
  | succ fuel ih =>
    cases lines with
    | nil => simp [Markdown.readItems]
    | cons line others =>
      have hfirst := h.item hp (hmarker line rfl)
      simp only [Markdown.readItems]
      generalize hread : (if (line.enterItem marker).1.isEmpty && others.head?.all Line.isEmpty then
        ({ size := 1 + (others.take 1).length } : Outline)
        else inside _ ((line.enterItem marker).1 :: others)) = outline
      have hitem : AllFences q outline.blocks := by
        rw [← hread]
        split
        · exact .nil
        · exact hi _ _ hfirst
      split
      · simpa using hitem
      · next next rest hdrop =>
        have hrest : p (next :: rest) := hdrop ▸ h.drop _ hp
        split
        · simpa using hitem
        · next following hfollowing =>
          split
          · simpa using hitem
          · refine List.forall_mem_cons.mpr ⟨hitem, ih _ hrest ?_⟩
            simp only [List.head?_cons, Option.mem_some_iff, forall_eq']
            split at hfollowing
            · exact .inl hfollowing
            · exact .inr hfollowing

theorem readList (hi : ReaderCarries p q inside) (frame : Frame) {marker : ListMarker}
    {line : Line} {others : List Line} (hp : p (line :: others))
    (hmarker : line.marker? = some marker) :
    AllFences q (readList inside frame marker (line :: others)).blocks := by
  refine .list (h.readItems hi frame marker (line :: others).length hp ?_)
  simp only [List.head?_cons, Option.mem_some_iff, forall_eq']
  exact (Option.or_eq_some_iff.mp hmarker).imp_right And.right

theorem readBlock {quoted listed : Reader} (hq : ReaderCarries p q quoted)
    (hl : ReaderCarries p q listed) {line : Line} {others : List Line} (hp : p (line :: others))
    (frame : Frame) : AllFences q (readBlock quoted listed frame line others).blocks := by
  simp only [Markdown.readBlock]
  split
  · exact .other fun _ => rfl
  · split
    next fence hfence => exact h.readFence hp hfence frame
    · split
      next hquote => exact h.readQuote hq hp hquote frame
      · split
        · exact .other fun _ => rfl
        · split
          next marker hmarker => exact h.readList hl frame hp hmarker
          · split
            · exact .nil
            · split
              · exact .other fun _ => rfl
              · split
                · exact .other fun _ => rfl
                · split
                  · exact .other fun _ => rfl
                  · exact .other fun _ => rfl

theorem readBlocks {quoted listed : Reader} (hq : ReaderCarries p q quoted)
    (hl : ReaderCarries p q listed) (frame : Frame) (fuel : Nat) {lines : List Line}
    (hp : p lines) : AllFences q (readBlocks quoted listed frame fuel lines).blocks := by
  induction fuel generalizing lines with
  | zero => exact .nil
  | succ fuel ih =>
    simp only [Markdown.readBlocks]
    split
    · exact .nil
    · next line others hdrop =>
      split
      · exact .nil
      · have hrest : p (line :: others) := hdrop ▸ h.drop _ hp
        exact .append (h.readBlock hq hl hrest frame) (ih (h.drop _ hp))

end

theorem skipBlocks : ReaderCarries p q skipBlocks := by
  intro frame lines _
  simp only [Markdown.skipBlocks]
  split <;> exact .nil

theorem readNested (h : Carries p q) (room : Nat) : ReaderCarries p q (readNested room) := by
  induction room using readNested.induct with
  | case1 => exact skipBlocks
  | case2 => exact fun frame lines hp => h.readBlocks skipBlocks skipBlocks frame _ hp
  | case3 room ihq ihl => exact fun frame lines hp => h.readBlocks ihq ihl frame _ hp

/-- What is known of the lines of a document says what its fences hold. -/
theorem outline (h : Carries p q) {source : List Char} (hp : p (Line.readAll source)) :
    AllFences q (outline source).blocks :=
  h.readNested maxNesting _ _ hp

end Carries

end

/-! ### Characters of lines -/

section

variable {p : Char → Prop}

/-- The characters of the lines pass. -/
def LinesPass (p : Char → Prop) (lines : List Line) : Prop := ∀ line ∈ lines, ∀ c ∈ line.text, p c

theorem LinesPass.mono {lines others : List Line} (h : LinesPass p lines)
    (hs : ∀ line ∈ others, line ∈ lines) : LinesPass p others :=
  fun line hl => h line (hs line hl)

theorem linesPass_cons {line : Line} {lines : List Line} :
    LinesPass p (line :: lines) ↔ (∀ c ∈ line.text, p c) ∧ LinesPass p lines :=
  List.forall_mem_cons

theorem pass_cutFrom (hs : p ' ') {text : List Char} (h : ∀ c ∈ text, p c)
    (width base shift column index : Nat) :
    ∀ c ∈ Line.cutFrom width base shift column index text, p c := by
  have hblank (n : Nat) : ∀ c ∈ List.replicate n ' ', p c := by
    intro c hc
    rw [List.eq_of_mem_replicate hc]
    exact hs
  induction text generalizing column index with
  | nil => exact hblank _
  | cons d ds ih =>
    have hds : ∀ c ∈ ds, p c := fun c hc => h c (List.mem_cons_of_mem _ hc)
    simp only [Line.cutFrom]
    split
    · intro c hc
      exact (List.mem_append.mp hc).elim (hblank _ c) (h c)
    · split
      · exact ih hds _ _
      · split
        · exact ih hds _ _
        · exact h

theorem pass_textOf (hs : p ' ') (hb : p '\n') {lines : List Line} (h : LinesPass p lines)
    (width : Nat) : ∀ c ∈ Line.textOf width lines, p c := by
  intro c hc
  rw [Line.textOf, List.mem_flatMap] at hc
  obtain ⟨line, hl, hc⟩ := hc
  rcases List.mem_append.mp hc with hc | hc
  · exact pass_cutFrom hs (h line hl) _ _ _ _ _ c hc
  · split at hc
    · rw [List.mem_singleton.mp hc]
      exact hb
    · cases hc

theorem pass_unquote {line : Line} (h : ∀ c ∈ line.text, p c) : ∀ c ∈ line.unquote.text, p c := by
  have hbehind : ∀ c ∈ line.content.drop 1, p c := fun c hc =>
    h c (List.mem_of_mem_drop (List.mem_of_mem_drop hc))
  intro c hc
  unfold Line.unquote at hc
  generalize line.content.drop 1 = behind at hc hbehind
  dsimp only at hc
  split at hc
  · exact hbehind c (List.mem_cons_of_mem _ hc)
  · split at hc
    · exact hbehind c (List.mem_cons_of_mem _ hc)
    · exact hbehind c hc
  · exact hbehind c hc

theorem linesPass_quoteLines {lines : List Line} (h : LinesPass p lines) (frame : Frame)
    (isLastEmpty : Bool) : LinesPass p (quoteLines frame isLastEmpty lines) := by
  induction lines generalizing isLastEmpty with
  | nil => exact h
  | cons line lines ih =>
    obtain ⟨hline, hrest⟩ := linesPass_cons.mp h
    simp only [quoteLines]
    split
    · exact fun _ hm => by cases hm
    · split
      · exact linesPass_cons.mpr ⟨pass_unquote hline, ih hrest _⟩
      · split
        · exact fun _ hm => by cases hm
        · exact linesPass_cons.mpr ⟨hline, ih hrest _⟩

theorem linesPass_ofTexts {texts : List (List Char)} (h : ∀ text ∈ texts, ∀ c ∈ text, p c)
    (number : Nat) : LinesPass p (Line.ofTexts number texts) := by
  induction texts generalizing number with
  | nil => exact fun _ hm => by cases hm
  | cons text rest ih =>
    obtain ⟨htext, hrest⟩ := List.forall_mem_cons.mp h
    cases rest with
    | nil =>
      simp only [Line.ofTexts]
      split
      · exact fun _ hm => by cases hm
      · exact linesPass_cons.mpr ⟨htext, fun _ hm => by cases hm⟩
    | cons next rest => exact linesPass_cons.mpr ⟨htext, ih hrest _⟩

theorem linesPass_readAll {source : List Char} (h : ∀ c ∈ source, p c) :
    LinesPass p (Line.readAll source) :=
  linesPass_ofTexts (fun text ht c hc => h c (Text.mem_of_mem_splitAt text ht hc)) 1

theorem carries_pass (hs : p ' ') (hb : p '\n') :
    Carries (LinesPass p) fun _ content _ => ∀ c ∈ content, p c where
  drop n h := h.mono fun _ hm => List.mem_of_mem_drop hm
  quote frame h _ := by
    obtain ⟨hline, hothers⟩ := linesPass_cons.mp h
    exact linesPass_cons.mpr ⟨pass_unquote hline, linesPass_quoteLines hothers frame _⟩
  item h _ := by
    obtain ⟨hline, hothers⟩ := linesPass_cons.mp h
    exact linesPass_cons.mpr ⟨hline, hothers⟩
  fence n h _ := by
    obtain ⟨-, hothers⟩ := linesPass_cons.mp h
    exact pass_textOf hs hb (hothers.mono fun _ hm => List.mem_of_mem_take hm) _

end

/-! ### Samples -/

theorem pass_normalize (source : List Char) : ∀ c ∈ normalize source, c ≠ '\r' ∧ c ≠ '\x00' := by
  induction source using normalize.induct with
  | case1 cs ih => simpa [normalize] using ih
  | case2 cs hcs ih => simpa [normalize] using ih
  | case3 cs ih => simpa [normalize] using ih
  | case4 c cs hf hr hn ih =>
    rw [normalize.eq_4 c cs hf hr hn]
    exact List.forall_mem_cons.mpr ⟨⟨hr, hn⟩, ih⟩
  | case5 => simp [normalize]

end DocSuite.Markdown

namespace DocSuite

open DocSuite.Markdown

/-- Samples hold no carriage returns and no null characters. -/
theorem pass_scan {source : String} {languages : List String} {sample : Sample}
    (h : sample ∈ scan source languages) :
    '\r' ∉ sample.source.toList ∧ '\x00' ∉ sample.source.toList := by
  simp only [scan, List.mem_filterMap] at h
  obtain ⟨fence, hf, h⟩ := h
  split at h
  · cases h
    have hpass := (carries_pass (by decide) (by decide)).outline
      (linesPass_readAll (pass_normalize source.toList)) none fence hf
    simp only [String.toList_ofList]
    exact ⟨fun hr => (hpass _ hr).1 rfl, fun hn => (hpass _ hn).2 rfl⟩
  · cases h

end DocSuite
