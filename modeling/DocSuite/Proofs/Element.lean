import DocSuite.Markdown.Inline.Read
import DocSuite.Proofs.Split

/-!
What reading the elements of a paragraph yields. Main statement: every element is a leaf, the edge
of a link or of emphasis, or an image whose description is read as a paragraph of its own; no mark
is left.
-/
namespace DocSuite.Markdown

open DocSuite.Text

/-! ### References -/

theorem entity?_ne_nil {name image : List Char} (h : entity? name = some image) : image ≠ [] := by
  obtain ⟨before, behind, heq, -⟩ := List.lookup_eq_some_iff.mp h
  have hmem : (name, image) ∈ entities := by
    rw [heq]
    exact List.mem_append_right _ List.mem_cons_self
  obtain ⟨entry, -, hentry⟩ := List.mem_filterMap.mp hmem
  split at hentry
  next codes _ =>
    cases hentry
    intro hnone
    have hlength := @length_splitAt '+' codes
    rw [List.map_eq_nil_iff.mp hnone] at hlength
    cases hlength
  next => cases hentry

theorem reference?_ne_nil {cs image rest : List Char} (h : reference? cs = some (image, rest)) :
    image ≠ [] := by
  simp only [reference?, Option.bind_eq_bind, Option.bind_eq_some_iff] at h
  obtain ⟨⟨name, behind⟩, -, h⟩ := h
  split at h
  · obtain ⟨code, -, h⟩ := Option.bind_eq_some_iff.mp h
    cases h
    exact List.cons_ne_nil _ _
  · obtain ⟨image, hentity, heq⟩ := Option.map_eq_some_iff.mp h
    cases heq
    exact entity?_ne_nil hentity

namespace Reading

/-! ### Elements that are added -/

/-- What reading may yield, apart from images. -/
structure Accepts (P : Inline → Prop) : Prop where
  text : ∀ s, P (.text s)
  special : ∀ s, s ≠ [] → P (.special s)
  code : ∀ s, P (.code s)
  html : ∀ s, P (.html s)
  lineBreak : P .lineBreak
  edge : P .edge
  mark : ∀ c, P (.mark c)

namespace State

def All (P : Inline → Prop) (state : State) : Prop := ∀ token ∈ state.tokens, P token

variable {P : Inline → Prop} {state : State}

theorem All.flush (ha : Accepts P) (h : state.All P) : state.flush.All P := by
  rw [State.flush]
  split
  · exact h
  · exact List.forall_mem_cons.mpr ⟨ha.text _, h⟩

theorem All.push (ha : Accepts P) {token : Inline} (ht : P token) (h : state.All P) :
    (state.push token).All P :=
  List.forall_mem_cons.mpr ⟨ht, h.flush ha⟩

theorem All.add (cs : List Char) (h : state.All P) : (state.add cs).All P := h

theorem All.breakLine (ha : Accepts P) (h : state.All P) : state.breakLine.All P :=
  All.push ha ha.lineBreak h

theorem All.pushMarks (ha : Accepts P) (mark : Char) (opens closes : Bool) (run count : Nat)
    (h : state.All P) : (state.pushMarks mark opens closes run count).All P := by
  induction count with
  | zero => exact h
  | succ count ih => exact All.push ha (ha.mark mark) ih

end State

theorem referenceAt?_ne_nil {text image : List Char} {limit place stop : Nat}
    (h : referenceAt? text limit place = some (image, stop)) : image ≠ [] := by
  rw [referenceAt?] at h
  split at h
  · cases h
  · obtain ⟨⟨image, rest⟩, hreference, heq⟩ := Option.map_eq_some_iff.mp h
    cases heq
    exact reference?_ne_nil hreference

theorem start_of_imageAt? {skip : Skip} {paragraph : Paragraph} {limit place : Nat}
    {memory memory' : Memory} {image : Reference}
    (h : imageAt? skip paragraph limit place memory = (some image, memory')) :
    image.start = place + 2 := by
  rw [imageAt?] at h
  dsimp only at h
  split at h
  · cases h
  · split at h
    · cases h
    · split at h
      · split at h
        · cases h
          rfl
        · cases h
      · obtain ⟨behind, -, heq⟩ := Option.map_eq_some_iff.mp (congrArg Prod.fst h)
        rw [← heq]

/-- The text of an image stands behind its mark and its bracket: it is not the whole paragraph. -/
theorem length_label_lt {skip : Skip} {paragraph : Paragraph} {limit place : Nat} {memory : Memory}
    {image : Reference} {c : Char} {cs : List Char}
    (h : (imageAt? skip paragraph limit place memory).1 = some image)
    (hdrop : paragraph.text.drop place = c :: cs) :
    ((paragraph.text.drop image.start).take (image.stop - image.start)).length <
      paragraph.text.length := by
  have hstart := start_of_imageAt? (Prod.ext h rfl)
  have hlength := congrArg List.length hdrop
  simp only [List.length_drop, List.length_cons] at hlength
  simp only [List.length_take, List.length_drop]
  omega

variable {P : Inline → Prop} {state : State}

theorem all_element? {nested : Nested} {skip : Skip} {paragraph : Paragraph} {limit place : Nat}
    (ha : Accepts P)
    (himage : ∀ label, label.length < paragraph.text.length → P (.image (nested.image label)))
    (hlink : ∀ limit place state, State.All P state → (nested.link limit place state).All P)
    (h : state.All P) :
    (element? nested skip paragraph limit place state).2.All P := by
  rw [element?]
  dsimp only
  split
  next => exact h
  next c cs hdrop =>
    split
    next => exact h
    next =>
      split
      · exact h.breakLine ha
      · split
        · exact h
        · split
          · exact h
          · exact h.push ha ha.lineBreak
          · refine h.push ha (ha.special _ ?_)
            split <;> simp
      · split
        · exact State.All.push ha (ha.code _) h
        · exact h
      · exact h.pushMarks ha _ _ _ _ _
      · exact h.pushMarks ha _ _ _ _ _
      · split
        · exact h
        next link _ =>
          have hinner := hlink link.stop link.start
            { State.push
                { state with memory := (linkAt? skip paragraph limit place state.memory).2 } .edge
              with delimiters := [] } (State.All.push ha ha.edge h)
          exact State.All.push ha ha.edge (hinner.flush ha)
      · split
        · exact h
        next image hfound => exact State.All.push ha (himage _ (length_label_lt hfound hdrop)) h
      · split
        · exact ((h.push ha ha.edge).push ha (ha.text _)).push ha ha.edge
        · split
          · exact h.push ha (ha.html _)
          · exact h
      · split
        next image stop hfound => exact h.push ha (ha.special _ (referenceAt?_ne_nil hfound))
        · exact h
      · exact h

theorem all_readElements {read : Nat → State → Option Nat × State} (ha : Accepts P)
    (hread : ∀ place state, State.All P state → (read place state).2.All P) {text : List Char}
    {limit fuel place : Nat} (h : state.All P) :
    (readElements read text limit fuel place state).All P := by
  induction fuel generalizing place state with
  | zero => exact h.flush ha
  | succ fuel ih =>
    rw [readElements]
    split
    · exact h.flush ha
    · have hnext := hread place state h
      split
      next stop next heq =>
        rw [heq] at hnext
        exact ih hnext
      next next heq =>
        rw [heq] at hnext
        exact ih (hnext.add _)

theorem all_readRange {image : List Char → List Inline} (paragraph : Paragraph) (ha : Accepts P)
    (himage : ∀ label, label.length < paragraph.text.length → P (.image (image label)))
    (room limit place : Nat) (h : state.All P) :
    (readRange image paragraph room limit place state).All P := by
  induction room generalizing limit place state with
  | zero => exact (h.add _).flush ha
  | succ room ih =>
    rw [readRange]
    exact all_readElements ha
      (fun place state h => all_element? ha himage (fun limit place _ h => ih limit place h) h) h

/-- Marks become edges and texts. -/
theorem all_resolveMarks (hedge : P .edge) (htext : ∀ s, P (.text s)) {paired : List Nat}
    {place : Nat} {tokens : List Inline} (h : ∀ token ∈ tokens, P token ∨ ∃ c, token = .mark c) :
    ∀ token ∈ resolveMarks paired place tokens, P token := by
  fun_induction resolveMarks paired place tokens with
  | case1 =>
    intro token ht
    cases ht
  | case2 place c rest ih =>
    refine List.forall_mem_cons.mpr ⟨?_, ih fun token ht => h token (List.mem_cons_of_mem _ ht)⟩
    split
    · exact hedge
    · exact htext [c]
  | case3 place token rest hmark ih =>
    refine List.forall_mem_cons.mpr ⟨?_, ih fun token ht => h token (List.mem_cons_of_mem _ ht)⟩
    exact (h token List.mem_cons_self).resolve_right fun ⟨c, hc⟩ => hmark c hc

/-! ### Descriptions of images -/

section

variable {paragraph : Paragraph} {image other : List Char → List Inline}

theorem element?_congr {link : (limit place : Nat) → State → State}
    (h : ∀ label, label.length < paragraph.text.length → image label = other label) (skip : Skip)
    (limit place : Nat) (state : State) :
    element? ⟨link, image⟩ skip paragraph limit place state =
      element? ⟨link, other⟩ skip paragraph limit place state := by
  rw [element?, element?]
  dsimp only
  split
  next => rfl
  next c cs hdrop =>
    split
    next => rfl
    next =>
      split
      all_goals try rfl
      next =>
        split
        · rfl
        next found hfound => rw [h _ (length_label_lt hfound hdrop)]

theorem readRange_congr
    (h : ∀ label, label.length < paragraph.text.length → image label = other label) (room : Nat) :
    readRange image paragraph room = readRange other paragraph room := by
  induction room with
  | zero => rfl
  | succ room ih =>
    funext limit place state
    rw [readRange, readRange, ih]
    congr 1
    funext place state
    exact element?_congr h _ _ _ _

end

/-- The text of an image is shorter than the paragraph, so the fuel is never used up. -/
theorem readText_eq_of_lt {isDefined : List Char → Bool} {hasDefinitions : Bool} {text : List Char}
    {fuel other : Nat} (h : text.length < fuel) (h' : text.length < other) :
    readText isDefined hasDefinitions fuel text = readText isDefined hasDefinitions other text := by
  induction hn : text.length using Nat.strongRecOn generalizing text fuel other with
  | ind n ih =>
    obtain ⟨fuel, rfl⟩ := Nat.exists_eq_add_of_lt h
    obtain ⟨other, rfl⟩ := Nat.exists_eq_add_of_lt h'
    rw [readText, readText, readRange_congr]
    intro label (hlabel : label.length < text.length)
    exact ih label.length (hn ▸ hlabel) (by omega) (by omega) rfl

end Reading

namespace Inline

/-- An element that has a text of its own. Escapes and references stand for some character. -/
inductive IsLeaf : Inline → Prop
  | text (s : List Char) : IsLeaf (.text s)
  | special {s : List Char} (h : s ≠ []) : IsLeaf (.special s)
  | code (s : List Char) : IsLeaf (.code s)
  | html (s : List Char) : IsLeaf (.html s)
  | lineBreak : IsLeaf .lineBreak

/-- An element as it is read. -/
inductive IsRead (labels : List (List Char)) : Inline → Prop
  | leaf {token : Inline} (h : token.IsLeaf) : IsRead labels token
  | edge : IsRead labels .edge
  | image {label : List Char} (inner : ∀ token ∈ Inline.read labels label, IsRead labels token) :
      IsRead labels (.image (Inline.read labels label))

theorem isRead_read (labels : List (List Char)) (text : List Char) :
    ∀ token ∈ Inline.read labels text, IsRead labels token := by
  induction hn : text.length using Nat.strongRecOn generalizing text with
  | ind n ih =>
    have haccepts : Reading.Accepts fun token => IsRead labels token ∨ ∃ c, token = .mark c :=
      { text := fun s => .inl (.leaf (.text s))
        special := fun s h => .inl (.leaf (.special h))
        code := fun s => .inl (.leaf (.code s))
        html := fun s => .inl (.leaf (.html s))
        lineBreak := .inl (.leaf .lineBreak)
        edge := .inl .edge
        mark := fun c => .inr ⟨c, rfl⟩ }
    have himage (label : List Char) (hlabel : label.length < text.length) : IsRead labels
        (.image (Reading.readText labels.contains (!labels.isEmpty) text.length label)) := by
      rw [Reading.readText_eq_of_lt hlabel (Nat.lt_succ_self _)]
      exact .image (ih label.length (hn ▸ hlabel) label rfl)
    have hstart : Reading.State.All (fun token => IsRead labels token ∨ ∃ c, token = .mark c) {} :=
      fun _ h => nomatch h
    have hall := Reading.all_readRange ⟨text, labels.contains, !labels.isEmpty⟩ haccepts
      (fun label h => .inl (himage label h)) Reading.maxDepth text.length 0 hstart
    rw [Inline.read, Reading.readText]
    exact Reading.all_resolveMarks .edge (fun s => .leaf (.text s))
      fun token htoken => hall token (List.mem_reverse.mp htoken)

end Inline

end DocSuite.Markdown
