import DocSuite.Proofs.Element
import DocSuite.Proofs.Registration
import Mathlib.Data.List.Flatten

/-!
Titles and the literal text of the paragraphs that they come from. The leaves of a paragraph are its
texts, escapes, references, code, HTML and line breaks, at any depth. Main statement: a title has
the text of all leaves in their order, without one final colon.
-/
namespace DocSuite

open DocSuite.Markdown DocSuite.Text

namespace Markdown

namespace Inline

/-! ### Leaves -/

mutual

/-- The leaves of an element, those of the description of an image included. -/
def leaves : Inline → List Inline
  | .image children => leavesOf children
  | .edge => []
  | token => [token]

/-- The leaves of elements in the order of the text. -/
def leavesOf : List Inline → List Inline
  | [] => []
  | token :: rest => token.leaves ++ leavesOf rest

end

/-- What a leaf shows. -/
def shown : Inline → List Char
  | .text s | .special s | .code s | .html s => s
  | .lineBreak => ['\n']
  | .mark c => [c]
  | .image _ | .edge => []

/-- The text of all leaves. -/
def fullText (tokens : List Inline) : List Char := (leavesOf tokens).flatMap shown

theorem fullText_cons (token : Inline) (rest : List Inline) :
    fullText (token :: rest) = token.leaves.flatMap shown ++ fullText rest := by
  rw [fullText, leavesOf, List.flatMap_append, fullText]

theorem fullText_image (children rest : List Inline) :
    fullText (.image children :: rest) = fullText children ++ fullText rest := by
  rw [fullText_cons, leaves, fullText.eq_def children]

theorem mem_leavesOf {leaf : Inline} {tokens : List Inline} :
    leaf ∈ leavesOf tokens ↔ ∃ token ∈ tokens, leaf ∈ token.leaves := by
  induction tokens with
  | nil => simp [leavesOf]
  | cons token rest ih => rw [leavesOf, List.mem_append, ih, List.exists_mem_cons_iff]

theorem forall_mem_leavesOf_cons {P : Inline → Prop} {token : Inline} {rest : List Inline} :
    (∀ leaf ∈ leavesOf (token :: rest), P leaf) ↔
      (∀ leaf ∈ token.leaves, P leaf) ∧ ∀ leaf ∈ leavesOf rest, P leaf := by
  rw [leavesOf, List.forall_mem_append]

/-! ### Joined texts -/

/-- A leaf of a paragraph whose texts are joined: escapes and references are text. -/
inductive IsPlain : Inline → Prop
  | text (s : List Char) : IsPlain (.text s)
  | code (s : List Char) : IsPlain (.code s)
  | html (s : List Char) : IsPlain (.html s)
  | lineBreak : IsPlain .lineBreak

theorem fullText_consText (s : List Char) (tokens : List Inline) :
    fullText (consText s tokens) = s ++ fullText tokens := by
  unfold consText
  split
  next t rest => simp [fullText_cons, leaves, shown]
  next => simp [fullText_cons, leaves, shown]

theorem isPlain_consText (s : List Char) {tokens : List Inline}
    (h : ∀ leaf ∈ leavesOf tokens, leaf.IsPlain) :
    ∀ leaf ∈ leavesOf (consText s tokens), leaf.IsPlain := by
  unfold consText
  split
  next t rest =>
    exact forall_mem_leavesOf_cons.mpr
      ⟨List.forall_mem_singleton.mpr (.text _), (forall_mem_leavesOf_cons.mp h).2⟩
  next =>
    exact forall_mem_leavesOf_cons.mpr ⟨List.forall_mem_singleton.mpr (.text s), h⟩

mutual

theorem fullText_consJoined (token : Inline) (rest : List Inline) :
    fullText (token.consJoined rest) = token.leaves.flatMap shown ++ fullText rest := by
  cases token with
  | text s | special s =>
    rw [consJoined, fullText_consText]
    simp [leaves, shown]
  | image children => rw [consJoined, fullText_image, fullText_join children, leaves, fullText]
  | _ => exact fullText_cons _ rest

/-- Joining texts moves nothing and leaves nothing out. -/
theorem fullText_join (tokens : List Inline) : fullText (join tokens) = fullText tokens := by
  cases tokens with
  | nil => rfl
  | cons token rest =>
    rw [join, fullText_consJoined token, fullText_join rest, fullText_cons]

end

mutual

theorem isPlain_consJoined (token : Inline) {rest : List Inline}
    (htoken : ∀ leaf ∈ token.leaves, leaf.IsLeaf) (hrest : ∀ leaf ∈ leavesOf rest, leaf.IsPlain) :
    ∀ leaf ∈ leavesOf (token.consJoined rest), leaf.IsPlain := by
  cases token with
  | text s | special s => exact isPlain_consText s hrest
  | image children =>
    exact forall_mem_leavesOf_cons.mpr ⟨isPlain_join children htoken, hrest⟩
  | mark c => cases htoken _ List.mem_cons_self
  | edge => exact hrest
  | code s => exact forall_mem_leavesOf_cons.mpr ⟨List.forall_mem_singleton.mpr (.code s), hrest⟩
  | html s => exact forall_mem_leavesOf_cons.mpr ⟨List.forall_mem_singleton.mpr (.html s), hrest⟩
  | lineBreak =>
    exact forall_mem_leavesOf_cons.mpr ⟨List.forall_mem_singleton.mpr .lineBreak, hrest⟩

/-- No escape and no reference is left, at any depth. -/
theorem isPlain_join (tokens : List Inline) (h : ∀ leaf ∈ leavesOf tokens, leaf.IsLeaf) :
    ∀ leaf ∈ leavesOf (join tokens), leaf.IsPlain := by
  cases tokens with
  | nil => exact fun leaf hleaf => nomatch hleaf
  | cons token rest =>
    obtain ⟨htoken, hrest⟩ := forall_mem_leavesOf_cons.mp h
    exact isPlain_consJoined token htoken (isPlain_join rest hrest)

end

mutual

/-- An element whose leaves are plain shows all of them. -/
theorem literal_eq_shown (token : Inline) (h : ∀ leaf ∈ token.leaves, leaf.IsPlain) :
    literal token = token.leaves.flatMap shown := by
  cases token with
  | image children =>
    rw [literal, leaves]
    exact flatten_eq_fullText children h
  | special s => cases h _ List.mem_cons_self
  | mark c => cases h _ List.mem_cons_self
  | _ => simp [literal, leaves, shown]

theorem flatten_eq_fullText (tokens : List Inline) (h : ∀ leaf ∈ leavesOf tokens, leaf.IsPlain) :
    flatten tokens = fullText tokens := by
  cases tokens with
  | nil => rfl
  | cons token rest =>
    obtain ⟨htoken, hrest⟩ := forall_mem_leavesOf_cons.mp h
    rw [flatten, fullText_cons, literal_eq_shown token htoken, flatten_eq_fullText rest hrest]

end

/-! ### What reading gives -/

theorem IsLeaf.leaves_eq {leaf : Inline} (h : leaf.IsLeaf) : leaf.leaves = [leaf] := by
  cases h <;> rfl

theorem IsRead.isLeaf {labels : List (List Char)} {token : Inline} (h : token.IsRead labels) :
    ∀ leaf ∈ token.leaves, leaf.IsLeaf := by
  induction h with
  | leaf h =>
    intro leaf hleaf
    rw [h.leaves_eq, List.mem_singleton] at hleaf
    exact hleaf ▸ h
  | edge =>
    intro leaf hleaf
    cases hleaf
  | image inner ih =>
    intro leaf hleaf
    obtain ⟨token, htoken, hleaf⟩ := mem_leavesOf.mp hleaf
    exact ih token htoken leaf hleaf

theorem isLeaf_of_mem_leavesOf_read {labels : List (List Char)} {text : List Char} {leaf : Inline}
    (h : leaf ∈ leavesOf (Inline.read labels text)) : leaf.IsLeaf := by
  obtain ⟨token, htoken, hleaf⟩ := mem_leavesOf.mp h
  exact (isRead_read labels text token htoken).isLeaf leaf hleaf

/-- The literal text of a paragraph against the elements that are read in it. -/
structure KeepsText (labels : List (List Char)) (text : List Char) : Prop where
  /-- The leaves are texts, escapes, references, code, HTML and line breaks. Escapes and references
  show something. -/
  leaves : ∀ leaf ∈ leavesOf (Inline.read labels text), leaf.IsLeaf
  /-- When its texts are joined, the paragraph has no other leaves than those that show. -/
  plain : ∀ leaf ∈ leavesOf (Inline.parse labels text), leaf.IsPlain
  /-- Nothing is added, moved or left out. -/
  same : flatten (Inline.parse labels text) = fullText (Inline.read labels text)

theorem keepsText_parse (labels : List (List Char)) (text : List Char) : KeepsText labels text where
  leaves := fun _ => isLeaf_of_mem_leavesOf_read
  plain := isPlain_join _ fun _ => isLeaf_of_mem_leavesOf_read
  same := by
    have hplain := isPlain_join _ fun _ => @isLeaf_of_mem_leavesOf_read labels text _
    rw [Inline.parse, flatten_eq_fullText _ hplain, fullText_join]

end Inline

/-! ### Titles -/

/-- The text without one final colon, if it has one. -/
def OmitsColon (text title : List Char) : Prop :=
  text = title ++ [':'] ∨ text = title ∧ text.getLast? ≠ some ':'

theorem omitsColon_withoutColon (text : List Char) : OmitsColon text (withoutColon text) := by
  rw [withoutColon]
  split
  next cs hcs =>
    left
    rw [← List.reverse_reverse text, hcs, List.reverse_cons]
  next hcs =>
    right
    refine ⟨rfl, fun hlast => ?_⟩
    rw [← List.head?_reverse] at hlast
    obtain ⟨cs, hreverse⟩ := List.head?_eq_some_iff.mp hlast
    exact hcs cs hreverse

theorem Fence.title?_of_paragraph {fence : Fence} {text : List Char}
    (h : fence.before = some (.paragraph text)) (labels : List (List Char)) :
    fence.title? labels = some (withoutColon (Inline.flatten (Inline.parse labels text))) := by
  rw [title?, h]

theorem Fence.title?_of_other {fence : Fence} (h : ∀ text, fence.before ≠ some (.paragraph text))
    (labels : List (List Char)) : fence.title? labels = none := by
  rw [title?]
  split
  next text hbefore => exact absurd hbefore (h text)
  next => rfl

end Markdown

/-- A sample has the text of the paragraph right before its fence as its title, without one final
colon. That is the text of all leaves of the paragraph in their order, those in the descriptions of
images included. -/
theorem title_keepsText (source : String) (languages : List String) :
    scan source languages =
      ((fencesOf none (outlineOf source).blocks).filter (Fence.isAsked languages)).map
        (Fence.sample (outlineOf source).labels) ∧
    ∀ fence ∈ fencesOf none (outlineOf source).blocks,
      ((∀ text, fence.before ≠ some (.paragraph text)) →
        (fence.sample (outlineOf source).labels).title = none) ∧
      ∀ text, fence.before = some (.paragraph text) → ∃ title,
        (fence.sample (outlineOf source).labels).title = some (String.ofList title) ∧
          OmitsColon (Inline.fullText (Inline.read (outlineOf source).labels text)) title ∧
          Inline.KeepsText (outlineOf source).labels text := by
  refine ⟨scan_eq source languages, fun fence _ => ⟨fun hother => ?_, fun text htext => ?_⟩⟩
  · rw [Fence.sample, fence.title?_of_other hother]
    rfl
  · have hkeeps := Inline.keepsText_parse (outlineOf source).labels text
    refine ⟨withoutColon (Inline.fullText (Inline.read (outlineOf source).labels text)), ?_,
      omitsColon_withoutColon _, hkeeps⟩
    rw [Fence.sample, fence.title?_of_paragraph htext, hkeeps.same]
    rfl

namespace ParagraphTitles

/-- Emphasis around an escape, a link with a reference, an image with an escape and an image in its
description, and a line break. -/
def layered : List Char := "**A \\* `b`** [c &#38; d](e) ![f\\*g ![*h* &#38; i](j)](k)  \nl:".toList

/-- A paragraph in front of two fences. -/
def document (text : List Char) : String :=
  String.ofList text ++ "\n\n```python+test\nx\n```\n\n```python+test\ny\n```\n"

def paragraph? : Option Block → Option (List Char)
  | some (.paragraph text) => some text
  | _ => none

theorem paragraph?_eq_some_iff {before : Option Block} {text : List Char} :
    paragraph? before = some text ↔ before = some (.paragraph text) := by
  constructor
  · intro h
    unfold paragraph? at h
    split at h
    · rw [Option.some.inj h]
    · cases h
  · rintro rfl
    rfl

end ParagraphTitles

open ParagraphTitles

theorem title_keepsText_layeredParagraph :
    (∃ fence ∈ fencesOf none (outlineOf (document layered)).blocks,
      fence.before = some (.paragraph layered) ∧
        (fence.sample (outlineOf (document layered)).labels).title =
          some "A * b c & d f*g h & i\nl") ∧
    ∃ fence ∈ fencesOf none (outlineOf (document layered)).blocks,
      (∀ text, fence.before ≠ some (.paragraph text)) ∧
        (fence.sample (outlineOf (document layered)).labels).title = none := by
  have hbefore : (fencesOf none (outlineOf (document layered)).blocks).map
      (fun fence => paragraph? fence.before) = [some layered, none] := by
    decide +kernel
  have hfull : Inline.fullText (Inline.read (outlineOf (document layered)).labels layered) =
      "A * b c & d f*g h & i\nl".toList ++ [':'] := by
    decide +kernel
  obtain ⟨-, htitles⟩ := title_keepsText (document layered) ["python+test"]
  constructor
  · obtain ⟨fence, hfence, hparagraph⟩ := List.mem_map.mp (hbefore ▸ List.mem_cons_self)
    have htext := paragraph?_eq_some_iff.mp hparagraph
    obtain ⟨title, htitle, homits, -⟩ := (htitles fence hfence).2 layered htext
    rw [hfull] at homits
    refine ⟨fence, hfence, htext, ?_⟩
    rcases homits with hcolon | ⟨-, hcolon⟩
    · rw [htitle, ← List.append_cancel_right hcolon, String.ofList_toList]
    · exact absurd List.getLast?_concat hcolon
  · obtain ⟨fence, hfence, hother⟩ :=
      List.mem_map.mp (hbefore ▸ List.mem_cons_of_mem (some layered) List.mem_cons_self)
    have hnone (text : List Char) : fence.before ≠ some (.paragraph text) := by
      intro htext
      rw [paragraph?_eq_some_iff.mpr htext] at hother
      cases hother
    exact ⟨fence, hfence, hnone, (htitles fence hfence).1 hnone⟩

end DocSuite
