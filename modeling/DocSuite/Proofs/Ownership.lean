import DocSuite.Proofs.Trailing
import Mathlib.Data.List.Pairwise

/-!
Comments and the nesting of statements. Main statement: a comment belongs to one statement at
most, the innermost fitting one of those that end last before it, and these enclose one another.
-/
namespace DocSuite

/-! ### The order of a sorted list -/

section

variable {α : Type} {less : α → α → Bool}

theorem pairwise_insertBy (trans : ∀ a b c, less a b → less b c → less a c) {a : α} {as : List α}
    (hsorted : as.Pairwise fun b c => less b c) (htotal : ∀ b ∈ as, less a b ∨ less b a) :
    (insertBy less a as).Pairwise fun b c => less b c := by
  induction as with
  | nil => simp [insertBy]
  | cons b as ih =>
    obtain ⟨hfirst, hrest⟩ := List.pairwise_cons.mp hsorted
    simp only [insertBy]
    split
    next hlt =>
      refine List.pairwise_cons.mpr ⟨fun c hc => ?_, hsorted⟩
      rcases List.mem_cons.mp hc with rfl | hc
      · exact hlt
      · exact trans a b c hlt (hfirst c hc)
    next hnot =>
      refine List.pairwise_cons.mpr ⟨fun c hc => ?_, ih hrest fun c hc => htotal c (by simp [hc])⟩
      rcases List.mem_cons.mp ((insertBy_perm less a as).mem_iff.mp hc) with rfl | hc
      · exact (htotal b (by simp)).resolve_left hnot
      · exact hfirst c hc

theorem pairwise_sortBy (trans : ∀ a b c, less a b → less b c → less a c) {as : List α}
    (htotal : as.Pairwise fun a b => less a b ∨ less b a) :
    (sortBy less as).Pairwise fun a b => less a b := by
  have run (done : List α) (hdone : done.Pairwise fun a b => less a b)
      (hboth : ∀ a ∈ as, ∀ b ∈ done, less a b ∨ less b a) :
      (as.foldl (fun sorted a => insertBy less a sorted) done).Pairwise fun a b => less a b := by
    induction as generalizing done with
    | nil => exact hdone
    | cons a as ih =>
      obtain ⟨hfirst, hrest⟩ := List.pairwise_cons.mp htotal
      refine ih hrest _ (pairwise_insertBy trans hdone (hboth a (by simp))) fun b hb c hc => ?_
      rcases List.mem_cons.mp ((insertBy_perm less a done).mem_iff.mp hc) with rfl | hc
      · exact (hfirst b hb).symm
      · exact hboth b (by simp [hb]) c hc
  exact run [] .nil (by simp)

/-- The last element of a sorted list is the one that no other comes behind. -/
theorem getLast?_eq_some_iff_of_pairwise (asymm : ∀ a b, less a b → ¬ less b a) {as : List α}
    (hsorted : as.Pairwise fun a b => less a b) {a : α} :
    as.getLast? = some a ↔ a ∈ as ∧ ∀ b ∈ as, ¬ less a b := by
  have others {a : α} (h : as.getLast? = some a) : a ∈ as ∧ ∀ b ∈ as, b = a ∨ less b a := by
    obtain ⟨init, rfl⟩ := List.getLast?_eq_some_iff.mp h
    refine ⟨by simp, fun b hb => ?_⟩
    rcases List.mem_append.mp hb with hb | hb
    · exact .inr ((List.pairwise_append.mp hsorted).2.2 b hb a (by simp))
    · exact .inl (by simpa using hb)
  constructor
  · intro h
    obtain ⟨hmem, hothers⟩ := others h
    refine ⟨hmem, fun b hb hlt => ?_⟩
    rcases hothers b hb with rfl | hgt
    · exact asymm _ _ hlt hlt
    · exact asymm _ _ hlt hgt
  · rintro ⟨hmem, hnone⟩
    obtain ⟨top, htop⟩ := Option.isSome_iff_exists.mp
      (List.getLast?_isSome.mpr (List.ne_nil_of_mem hmem))
    obtain ⟨hin, hothers⟩ := others htop
    rcases hothers a hmem with rfl | hlt
    · exact htop
    · exact absurd hlt (hnone top hin)

end

end DocSuite

namespace DocSuite.Syntax

open DocSuite.Text

namespace Position

variable {a b c : Position}

theorem upTo_trans (h : a.upTo b = true) (h' : b.upTo c = true) : a.upTo c = true := by
  rw [upTo_iff] at *
  omega

theorem before_of_before_of_upTo (h : a.before b = true) (h' : b.upTo c = true) :
    a.before c = true := by
  rw [upTo_iff] at h'
  rw [before_iff] at *
  omega

theorem before_asymm (h : a.before b = true) : ¬ b.before a = true := by
  rw [before_iff] at *
  omega

theorem eq_of_upTo_of_upTo (h : a.upTo b = true) (h' : b.upTo a = true) : a = b := by
  obtain ⟨line, column⟩ := a
  obtain ⟨line', column'⟩ := b
  simp only [upTo_iff] at h h'
  simp only [mk.injEq]
  omega

theorem not_before_iff_upTo : ¬ a.before b = true ↔ b.upTo a = true := by
  simp [upTo]

theorem upTo_later (a b : Position) : a.upTo (a.later b) = true ∧ b.upTo (a.later b) = true := by
  rw [later]
  split
  next h => exact ⟨upTo_of_before h, upTo_refl b⟩
  next h => exact ⟨upTo_refl a, not_before_iff_upTo.mp h⟩

end Position

/-! ### Nested spans -/

namespace Stmt

/-- The statements in the blocks of a statement. -/
def children : Stmt → List Stmt
  | simple .. => []
  | compound _ _ blocks => blocks.flatMap Block.body

/-- The statements at any depth in the blocks of a statement. -/
def inner (stmt : Stmt) : List Stmt := nodesOf stmt.children

end Stmt

theorem nodesOfBlocks_eq (blocks : List Block) :
    nodesOfBlocks blocks = nodesOf (blocks.flatMap Block.body) := by
  induction blocks with
  | nil => rfl
  | cons block rest ih =>
    obtain ⟨label, body⟩ := block
    simp [nodesOfBlocks, ih, Block.body]

theorem Stmt.nodes_eq (stmt : Stmt) : stmt.nodes = stmt :: stmt.inner := by
  cases stmt with
  | simple site form => rfl
  | compound site head blocks => rw [nodes, nodesOfBlocks_eq]; rfl

mutual

theorem Stmt.children_induction {motive : Stmt → Prop}
    (step : ∀ stmt, (∀ child ∈ stmt.children, motive child) → motive stmt) (stmt : Stmt) :
    motive stmt := by
  cases stmt with
  | simple site form => exact step _ (by simp [Stmt.children])
  | compound site head blocks => exact step _ (blocks_children_induction step blocks)

theorem blocks_children_induction {motive : Stmt → Prop}
    (step : ∀ stmt, (∀ child ∈ stmt.children, motive child) → motive stmt) (blocks : List Block) :
    ∀ child ∈ blocks.flatMap Block.body, motive child := by
  cases blocks with
  | nil => simp
  | cons block rest =>
    obtain ⟨label, body⟩ := block
    simp only [List.flatMap_cons, Block.body, List.mem_append]
    rintro child (hc | hc)
    · exact body_children_induction step body child hc
    · exact blocks_children_induction step rest child hc

theorem body_children_induction {motive : Stmt → Prop}
    (step : ∀ stmt, (∀ child ∈ stmt.children, motive child) → motive stmt) (body : List Stmt) :
    ∀ child ∈ body, motive child := by
  cases body with
  | nil => simp
  | cons stmt rest =>
    rintro child (_ | ⟨_, hc⟩)
    · exact Stmt.children_induction step stmt
    · exact body_children_induction step rest child hc

end

section

variable (span : Stmt → Span)

/-- One statement stands behind the end of another. -/
def Follows (a b : Stmt) : Prop := (span a).stop.upTo (span b).start = true

instance : DecidableRel (Follows span) := fun a b =>
  inferInstanceAs (Decidable ((span a).stop.upTo (span b).start = true))

/-- A statement has a span with something in it; what is in its blocks starts behind its start,
ends with it at the latest, and stands one behind the other. -/
structure Nests (stmt : Stmt) : Prop where
  solid : (span stmt).start.before (span stmt).stop = true
  inside : ∀ child ∈ stmt.children, (span stmt).start.before (span child).start = true ∧
    (span child).stop.upTo (span stmt).stop = true
  siblings : stmt.children.Pairwise (Follows span)

/-- The spans of a body are nested as its statements are. -/
structure ProperlyNested (body : List Stmt) : Prop where
  roots : body.Pairwise (Follows span)
  nodes : ∀ stmt ∈ nodesOf body, Nests span stmt

/-- A statement stands inside another, or behind it. -/
def Later (a b : Stmt) : Prop :=
  (span a).start.before (span b).start = true ∧
    (b ∈ a.inner ∧ (span b).stop.upTo (span a).stop = true ∨ Follows span a b)

end

section

variable {span : Stmt → Span} {body : List Stmt} {stmt a b : Stmt}

theorem mem_nodesOf : stmt ∈ nodesOf body ↔ ∃ root ∈ body, stmt ∈ root.nodes := by
  induction body with
  | nil => simp [nodesOf]
  | cons root rest ih => simp [nodesOf, ih]

/-- What is inside a statement of a body belongs to the body. -/
theorem mem_nodesOf_of_mem_inner (ha : a ∈ nodesOf body) (hb : b ∈ a.inner) : b ∈ nodesOf body := by
  have deep (stmt : Stmt) : ∀ a ∈ stmt.nodes, ∀ b ∈ a.inner, b ∈ stmt.nodes := by
    induction stmt using Stmt.children_induction with
    | step stmt ih =>
      intro a ha b hb
      rw [Stmt.nodes_eq, List.mem_cons] at ha ⊢
      rcases ha with rfl | ha
      · exact .inr hb
      · obtain ⟨child, hc, ha⟩ := mem_nodesOf.mp ha
        exact .inr (mem_nodesOf.mpr ⟨child, hc, ih child hc a ha b hb⟩)
  obtain ⟨root, hr, ha⟩ := mem_nodesOf.mp ha
  exact mem_nodesOf.mpr ⟨root, hr, deep root a ha b hb⟩

/-- What is inside a statement takes up a part of its span, and comes in the order of the text. -/
structure Laid (span : Stmt → Span) (stmt : Stmt) : Prop where
  start : ∀ other ∈ stmt.nodes, (span stmt).start.upTo (span other).start = true
  stop : ∀ other ∈ stmt.nodes, (span other).stop.upTo (span stmt).stop = true
  ordered : stmt.nodes.Pairwise (Later span)

theorem pairwise_nodesOf (hroots : body.Pairwise (Follows span))
    (hnests : ∀ stmt ∈ nodesOf body, Nests span stmt) (hlaid : ∀ root ∈ body, Laid span root) :
    (nodesOf body).Pairwise (Later span) := by
  induction body with
  | nil => exact .nil
  | cons root rest ih =>
    obtain ⟨hfirst, hrest⟩ := List.pairwise_cons.mp hroots
    simp only [nodesOf, List.mem_append, List.mem_cons, forall_eq_or_imp] at hnests hlaid
    refine List.pairwise_append.mpr ⟨hlaid.1.ordered,
      ih hrest (fun stmt hs => hnests stmt (.inr hs)) hlaid.2, fun a ha b hb => ?_⟩
    obtain ⟨root', hr, hb⟩ := mem_nodesOf.mp hb
    have hfollows : Follows span a b :=
      Position.upTo_trans (hlaid.1.stop a ha)
        (Position.upTo_trans (hfirst root' hr) ((hlaid.2 root' hr).start b hb))
    exact ⟨Position.before_of_before_of_upTo (hnests a (.inl ha)).solid hfollows, .inr hfollows⟩

theorem laid_of_nests (stmt : Stmt) (h : ∀ other ∈ stmt.nodes, Nests span other) :
    Laid span stmt := by
  induction stmt using Stmt.children_induction with
  | step stmt ih =>
    simp only [Stmt.nodes_eq, List.mem_cons, forall_eq_or_imp] at h
    obtain ⟨hnests, hinner⟩ := h
    have hlaid : ∀ child ∈ stmt.children, Laid span child := fun child hc =>
      ih child hc fun other ho => hinner other (mem_nodesOf.mpr ⟨child, hc, ho⟩)
    have hstart : ∀ other ∈ stmt.inner, (span stmt).start.before (span other).start = true := by
      intro other ho
      obtain ⟨child, hc, ho⟩ := mem_nodesOf.mp ho
      exact Position.before_of_before_of_upTo (hnests.inside child hc).1
        ((hlaid child hc).start other ho)
    have hstop : ∀ other ∈ stmt.inner, (span other).stop.upTo (span stmt).stop = true := by
      intro other ho
      obtain ⟨child, hc, ho⟩ := mem_nodesOf.mp ho
      exact Position.upTo_trans ((hlaid child hc).stop other ho) (hnests.inside child hc).2
    constructor
    case start =>
      simp only [Stmt.nodes_eq, List.mem_cons, forall_eq_or_imp]
      exact ⟨Position.upTo_refl _, fun other ho => Position.upTo_of_before (hstart other ho)⟩
    case stop =>
      simp only [Stmt.nodes_eq, List.mem_cons, forall_eq_or_imp]
      exact ⟨Position.upTo_refl _, hstop⟩
    case ordered =>
      rw [Stmt.nodes_eq]
      exact List.pairwise_cons.mpr ⟨fun other ho => ⟨hstart other ho, .inl ⟨ho, hstop other ho⟩⟩,
        pairwise_nodesOf hnests.siblings hinner hlaid⟩

namespace ProperlyNested

/-- Statements come in the order of their starts. -/
theorem pairwise (h : ProperlyNested span body) : (nodesOf body).Pairwise (Later span) :=
  pairwise_nodesOf h.roots h.nodes fun root hr =>
    laid_of_nests root fun other ho => h.nodes other (mem_nodesOf.mpr ⟨root, hr, ho⟩)

theorem start_before_of_mem_inner (h : ProperlyNested span body) (ha : a ∈ nodesOf body)
    (hb : b ∈ a.inner) : (span a).start.before (span b).start = true := by
  have hlaid : Laid span a := laid_of_nests a fun other ho => by
    rw [Stmt.nodes_eq, List.mem_cons] at ho
    rcases ho with rfl | ho
    · exact h.nodes other ha
    · exact h.nodes other (mem_nodesOf_of_mem_inner ha ho)
  have hordered := hlaid.ordered
  rw [Stmt.nodes_eq] at hordered
  exact ((List.pairwise_cons.mp hordered).1 b hb).1

/-- Statements that end at the same place enclose one another. -/
theorem chain (h : ProperlyNested span body) (ha : a ∈ nodesOf body) (hb : b ∈ nodesOf body)
    (hstop : (span a).stop = (span b).stop) : a = b ∨ b ∈ a.inner ∨ a ∈ b.inner := by
  have inner_of_later {a b : Stmt} (hb : b ∈ nodesOf body) (hstop : (span a).stop = (span b).stop)
      (hl : Later span a b) : b ∈ a.inner := by
    rcases hl.2 with hin | hfollows
    · exact hin.1
    · rw [Follows, hstop] at hfollows
      exact absurd hfollows (Position.not_upTo_of_before (h.nodes b hb).solid)
  by_cases hne : a = b
  · exact .inl hne
  · have hboth := h.pairwise.imp (S := fun a b => Later span a b ∨ Later span b a) .inl
    have : Std.Symm fun a b => Later span a b ∨ Later span b a := ⟨fun _ _ => Or.symm⟩
    rcases hboth.forall ha hb hne with hl | hl
    · exact .inr (.inl (inner_of_later hb hstop hl))
    · exact .inr (.inr (inner_of_later ha hstop.symm hl))

/-- Of statements that end at the same place, those inside start later. -/
theorem mem_inner_iff (h : ProperlyNested span body) (ha : a ∈ nodesOf body)
    (hb : b ∈ nodesOf body) (hstop : (span a).stop = (span b).stop) :
    b ∈ a.inner ↔ (span a).start.before (span b).start = true := by
  refine ⟨h.start_before_of_mem_inner ha, fun hlt => ?_⟩
  rcases h.chain ha hb hstop with rfl | hin | hin
  · exact absurd hlt (Position.before_asymm hlt)
  · exact hin
  · exact absurd hlt (Position.before_asymm (h.start_before_of_mem_inner hb hin))

end ProperlyNested

end

/-! ### The choice among spans -/

/-- A member of a family with no other member inside it. -/
def Innermost {α : Type} (inside : α → α → Prop) (among : α → Prop) (own : α) : Prop :=
  among own ∧ ∀ other, among other → ¬ inside other own

/-- Not indented deeper than a comment. -/
def Fits (comment : Comment) (own : Span) : Prop := own.start.column ≤ comment.column

/-- Of those that a comment stands behind, all compete for it in the line where they end; in a later
line those do that are not indented deeper than the comment, or all if there are none. -/
def Competes {α : Type} (span : α → Span) (near : α → Prop) (comment : Comment) (own : α) : Prop :=
  near own ∧ (comment.line = (span own).stop.line ∨ Fits comment (span own) ∨
    ∀ other, near other → ¬ Fits comment (span other))

/-- A span that ends before a place, and none later; nothing starts in between. -/
structure Nearest (spans : List Span) (place : Position) (own : Span) : Prop where
  mem : own ∈ spans
  ends : own.stop.upTo place = true
  last : ∀ other ∈ spans, other.stop.upTo place = true → other.stop.upTo own.stop = true
  alone : ∀ other ∈ spans, own.stop.upTo other.start = true → ¬ other.start.before place = true

theorem Nearest.stop_eq {spans : List Span} {place : Position} {a b : Span}
    (ha : Nearest spans place a) (hb : Nearest spans place b) : a.stop = b.stop :=
  Position.eq_of_upTo_of_upTo (hb.last a ha.mem ha.ends) (ha.last b hb.mem hb.ends)

/-- One span starts behind the start of another. -/
def StartsLater (a b : Span) : Prop := b.start.before a.start = true

/-- The span that a comment belongs to. -/
def Selected (spans : List Span) (comment : Comment) : Span → Prop :=
  Innermost StartsLater (Competes id (Nearest spans comment.place) comment)

/-! ### The statement that is found -/

section

variable {placed : List Placed} {comment : Comment}

/-- Whether one statement starts before another. -/
def Placed.startsBefore (a b : Placed) : Bool := a.span.start.before b.span.start

/-- The last of the statements that a comment stands behind, if those are sorted by their starts. -/
def lastFitting? (comment : Comment) (stop : Position) (sorted : List Placed) : Option Placed :=
  if comment.line = stop.line then sorted.getLast?
  else
    ((sorted.filter fun p => p.span.start.column ≤ comment.column).getLast?).or sorted.getLast?

/-- The latest end of some statements. -/
theorem foldl_later_spec (ended : List Placed) (stop : Position) :
    let last := ended.foldl (fun stop p => stop.later p.span.stop) stop
    (last = stop ∨ ∃ p ∈ ended, p.span.stop = last) ∧ stop.upTo last = true ∧
      ∀ p ∈ ended, p.span.stop.upTo last = true := by
  induction ended generalizing stop with
  | nil => simp [Position.upTo_refl]
  | cons p ended ih =>
    obtain ⟨hfrom, hstop, hall⟩ := ih (stop.later p.span.stop)
    obtain ⟨hl, hr⟩ := Position.upTo_later stop p.span.stop
    simp only [List.foldl_cons, List.mem_cons, forall_eq_or_imp, exists_eq_or_imp]
    refine ⟨?_, Position.upTo_trans hl hstop, Position.upTo_trans hr hstop, hall⟩
    rcases hfrom with hfrom | hfrom
    · rw [hfrom, Position.later]
      split
      · exact .inr (.inl rfl)
      · exact .inl rfl
    · exact .inr (.inr hfrom)

/-- The latest of the ends of statements up to a place. -/
structure IsLatestEnd (placed : List Placed) (place last : Position) : Prop where
  reached : ∃ top ∈ placed, top.span.stop.upTo place = true ∧ top.span.stop = last
  upTo : ∀ p ∈ placed, p.span.stop.upTo place = true → p.span.stop.upTo last = true

theorem isLatestEnd_foldl {place : Position} {first : Placed} {rest : List Placed}
    (h : placed.filter (fun p => p.span.stop.upTo place) = first :: rest) :
    IsLatestEnd placed place
      ((first :: rest).foldl (fun stop p => stop.later p.span.stop) first.span.stop) := by
  obtain ⟨hfrom, -, hall⟩ := foldl_later_spec (first :: rest) first.span.stop
  rw [← h] at hall
  have hmem {p : Placed} (hp : p ∈ first :: rest) :
      p ∈ placed ∧ p.span.stop.upTo place = true :=
    List.mem_filter.mp (h ▸ hp)
  constructor
  · rcases hfrom with hfrom | ⟨top, htop, hlast⟩
    · obtain ⟨hin, hends⟩ := hmem (List.mem_cons_self (a := first))
      exact ⟨first, hin, hends, hfrom.symm⟩
    · obtain ⟨hin, hends⟩ := hmem htop
      exact ⟨top, hin, hends, hlast⟩
  · intro p hp hends
    rw [← h]
    exact hall p (List.mem_filter.mpr ⟨hp, hends⟩)

theorem IsLatestEnd.nearest_iff {place last : Position} (h : IsLatestEnd placed place last)
    {p : Placed} (hp : p ∈ placed) : Nearest (placed.map Placed.span) place p.span ↔
      p.span.stop.upTo place = true ∧ p.span.stop = last ∧
        ∀ other ∈ placed, last.upTo other.span.start = true →
          ¬ other.span.start.before place = true := by
  constructor
  · intro hnear
    obtain ⟨top, htop, hends, hlast⟩ := h.reached
    have hstop : p.span.stop = last :=
      Position.eq_of_upTo_of_upTo (h.upTo p hp hnear.ends)
        (hlast ▸ hnear.last top.span (List.mem_map_of_mem htop) hends)
    exact ⟨hnear.ends, hstop, fun other ho =>
      hstop ▸ hnear.alone other.span (List.mem_map_of_mem ho)⟩
  · rintro ⟨hends, rfl, halone⟩
    refine ⟨List.mem_map_of_mem hp, hends, ?_, ?_⟩
    · exact List.forall_mem_map.mpr h.upTo
    · exact List.forall_mem_map.mpr halone

/-- A comment that stands behind no statement has no owner; else the owner is one of those that it
stands behind. -/
theorem trailingOwner?_cases (placed : List Placed) (comment : Comment) :
    (trailingOwner? placed comment = none ∧
        ∀ p ∈ placed, ¬ Nearest (placed.map Placed.span) comment.place p.span) ∨
      ∃ (tied : List Placed) (stop : Position), tied ≠ [] ∧ tied.Sublist placed ∧
        (∀ p, p ∈ tied ↔ p ∈ placed ∧ Nearest (placed.map Placed.span) comment.place p.span) ∧
        (∀ p ∈ tied, p.span.stop = stop) ∧
        trailingOwner? placed comment =
          (lastFitting? comment stop (sortBy Placed.startsBefore tied)).map Placed.number := by
  rw [trailingOwner?]
  dsimp only
  generalize hended : placed.filter _ = ended
  cases ended with
  | nil => exact .inl ⟨rfl, fun p hp hnear => List.filter_eq_nil_iff.mp hended p hp hnear.ends⟩
  | cons first rest =>
    have hlatest := @isLatestEnd_foldl placed comment.place _ _ hended
    dsimp only
    generalize List.foldl _ _ _ = last at hlatest ⊢
    split
    next hbetween =>
      obtain ⟨other, ho, hbetween⟩ := List.any_eq_true.mp hbetween
      rw [Bool.and_eq_true] at hbetween
      refine .inl ⟨rfl, fun p hp hnear => ?_⟩
      obtain ⟨-, -, halone⟩ := (hlatest.nearest_iff hp).mp hnear
      exact halone other ho hbetween.1 hbetween.2
    next hbetween =>
      have halone : ∀ other ∈ placed, last.upTo other.span.start = true →
          ¬ other.span.start.before comment.place = true := fun other ho hup hlt =>
        hbetween (List.any_eq_true.mpr ⟨other, ho, Bool.and_eq_true_iff.mpr ⟨hup, hlt⟩⟩)
      have htied (p : Placed) : p ∈ (first :: rest).filter (fun p => p.span.stop == last) ↔
          p ∈ placed ∧ p.span.stop.upTo comment.place = true ∧ p.span.stop = last := by
        rw [← hended, List.mem_filter, List.mem_filter, beq_iff_eq, and_assoc]
        rfl
      obtain ⟨top, htop, hends, hlast⟩ := hlatest.reached
      refine .inr ⟨_, last, ?_, ?_, fun p => ?_, fun p hp => ((htied p).mp hp).2.2, rfl⟩
      · exact List.ne_nil_of_mem ((htied top).mpr ⟨htop, hends, hlast⟩)
      · rw [← hended]
        exact List.filter_sublist.trans List.filter_sublist
      · rw [htied]
        refine and_congr_right fun hp => ?_
        rw [hlatest.nearest_iff hp]
        exact and_congr_right fun _ => (and_iff_left halone).symm

/-- The last of some statements, sorted by their starts, is the innermost. -/
theorem getLast?_eq_some_iff_innermost {among : Span → Prop} {sorted : List Placed} {p : Placed}
    (hsorted : sorted.Pairwise fun a b => a.startsBefore b)
    (hmem : ∀ q, q ∈ sorted ↔ q ∈ placed ∧ among q.span)
    (hspan : ∀ own, among own → own ∈ placed.map Placed.span) :
    sorted.getLast? = some p ↔ p ∈ placed ∧ Innermost StartsLater among p.span := by
  rw [getLast?_eq_some_iff_of_pairwise (fun _ _ => Position.before_asymm) hsorted, hmem, and_assoc]
  refine and_congr_right fun _ => and_congr_right fun _ => ⟨fun h own hown => ?_, fun h q hq => ?_⟩
  · obtain ⟨q, hq, rfl⟩ := List.mem_map.mp (hspan own hown)
    exact h q ((hmem q).mpr ⟨hq, hown⟩)
  · exact h q.span ((hmem q).mp hq).2

theorem lastFitting?_eq_some_iff {stop : Position} {sorted : List Placed} {p : Placed}
    (hsorted : sorted.Pairwise fun a b => a.startsBefore b)
    (hmem : ∀ q, q ∈ sorted ↔ q ∈ placed ∧ Nearest (placed.map Placed.span) comment.place q.span)
    (hstop : ∀ q ∈ sorted, q.span.stop = stop) :
    lastFitting? comment stop sorted = some p ↔
      p ∈ placed ∧ Selected (placed.map Placed.span) comment p.span := by
  have hspan (own : Span)
      (h : Competes id (Nearest (placed.map Placed.span) comment.place) comment own) :
      own ∈ placed.map Placed.span := h.1.mem
  have hnone : sorted.filter (fun q => q.span.start.column ≤ comment.column) = [] ↔
      ∀ own, Nearest (placed.map Placed.span) comment.place own → ¬ Fits comment own := by
    rw [List.filter_eq_nil_iff]
    constructor
    · intro h own hown
      obtain ⟨q, hq, rfl⟩ := List.mem_map.mp hown.mem
      simpa [Fits] using h q ((hmem q).mpr ⟨hq, hown⟩)
    · intro h q hq
      simpa [Fits] using h q.span ((hmem q).mp hq).2
  rw [lastFitting?]
  split
  next hline =>
    refine getLast?_eq_some_iff_innermost hsorted (fun q => ⟨fun hq => ?_, fun hq => ?_⟩) hspan
    · obtain ⟨hin, hnear⟩ := (hmem q).mp hq
      exact ⟨hin, hnear, .inl (hline.trans (congrArg Position.line (hstop q hq)).symm)⟩
    · exact (hmem q).mpr ⟨hq.1, hq.2.1⟩
  next hline =>
    by_cases hfit : sorted.filter (fun q => q.span.start.column ≤ comment.column) = []
    · rw [hfit, List.getLast?_nil, Option.none_or]
      refine getLast?_eq_some_iff_innermost hsorted (fun q => ⟨fun hq => ?_, fun hq => ?_⟩) hspan
      · obtain ⟨hin, hnear⟩ := (hmem q).mp hq
        exact ⟨hin, hnear, .inr (.inr (hnone.mp hfit))⟩
      · exact (hmem q).mpr ⟨hq.1, hq.2.1⟩
    · rw [Option.or_of_isSome (List.getLast?_isSome.mpr hfit)]
      refine getLast?_eq_some_iff_innermost (hsorted.filter _)
        (fun q => ⟨fun hq => ?_, fun hq => ?_⟩) hspan
      · obtain ⟨hq, hfits⟩ := List.mem_filter.mp hq
        obtain ⟨hin, hnear⟩ := (hmem q).mp hq
        exact ⟨hin, hnear, .inr (.inl (by simpa [Fits] using hfits))⟩
      · have hq' := (hmem q).mpr ⟨hq.1, hq.2.1⟩
        rcases hq.2.2 with hq | hq | hq
        · exact absurd (hq.trans (congrArg Position.line (hstop q hq'))) hline
        · exact List.mem_filter.mpr ⟨hq', by simpa [Fits] using hq⟩
        · exact absurd (hnone.mpr hq) hfit

theorem isSome_lastFitting? {stop : Position} {sorted : List Placed} (h : sorted ≠ []) :
    (lastFitting? comment stop sorted).isSome := by
  have hlast := List.getLast?_isSome.mpr h
  rw [lastFitting?]
  split
  · exact hlast
  · simp [hlast]

/-- A comment has an owner if it stands behind some statement. -/
theorem trailingOwner?_eq_none_iff : trailingOwner? placed comment = none ↔
    ∀ p ∈ placed, ¬ Nearest (placed.map Placed.span) comment.place p.span := by
  rcases trailingOwner?_cases placed comment with ⟨hnone, hnot⟩ | ⟨tied, stop, hne, -, hmem, -, heq⟩
  · simpa [hnone] using hnot
  · have hsorted : sortBy Placed.startsBefore tied ≠ [] := fun h =>
      hne (List.Perm.nil_eq (h ▸ (sortBy_perm Placed.startsBefore tied))).symm
    obtain ⟨p, hp⟩ := List.exists_mem_of_ne_nil tied hne
    have hsome : (lastFitting? comment stop (sortBy Placed.startsBefore tied)).isSome :=
      isSome_lastFitting? hsorted
    constructor
    · intro h
      rw [heq, Option.map_eq_none_iff] at h
      simp [h] at hsome
    · exact fun h => absurd ((hmem p).mp hp).2 (h p ((hmem p).mp hp).1)

/-- If statements start at different places, the owner of a comment is the one that is selected. -/
theorem trailingOwner?_eq_some_iff {number : Nat}
    (hstarts : placed.Pairwise fun a b => a.startsBefore b ∨ b.startsBefore a) :
    trailingOwner? placed comment = some number ↔
      ∃ p ∈ placed, p.number = number ∧ Selected (placed.map Placed.span) comment p.span := by
  rcases trailingOwner?_cases placed comment with
    ⟨hnone, hnot⟩ | ⟨tied, stop, -, hsub, hmem, hstop, heq⟩
  · rw [hnone]
    refine iff_of_false (by simp) ?_
    rintro ⟨p, hp, -, hsel⟩
    exact hnot p hp hsel.1.1
  · have hsorted : (sortBy Placed.startsBefore tied).Pairwise fun a b => a.startsBefore b := by
      refine pairwise_sortBy (fun a b c h h' => ?_) (hstarts.sublist hsub)
      exact Position.before_trans h h'
    have hlast (p : Placed) :
        lastFitting? comment stop (sortBy Placed.startsBefore tied) = some p ↔
          p ∈ placed ∧ Selected (placed.map Placed.span) comment p.span :=
      lastFitting?_eq_some_iff hsorted (fun q => (mem_sortBy _).trans (hmem q))
        fun q hq => hstop q ((mem_sortBy _).mp hq)
    rw [heq, Option.map_eq_some_iff]
    simp only [hlast, and_assoc, and_comm (a := Selected _ _ _)]

end

/-! ### The statement that a comment belongs to -/

section

variable (span : Stmt → Span) (body : List Stmt)

/-- A statement that ends before a place, and none later; none starts in between. -/
structure Precedes (place : Position) (stmt : Stmt) : Prop where
  mem : stmt ∈ nodesOf body
  ends : (span stmt).stop.upTo place = true
  last : ∀ other ∈ nodesOf body, (span other).stop.upTo place = true →
    (span other).stop.upTo (span stmt).stop = true
  alone : ∀ other ∈ nodesOf body, (span stmt).stop.upTo (span other).start = true →
    ¬ (span other).start.before place = true

/-- A statement inside no other that competes for a comment with it. -/
def Owns (comment : Comment) : Stmt → Prop :=
  Innermost (fun a b => a ∈ b.inner) (Competes span (Precedes span body comment.place) comment)

/-- How the comments of a text belong to the statements of a body, which have numbers in the order
of the text. -/
structure Attributed (comments : List Comment) (table : Nat → List Comment) : Prop where
  /-- A statement has the comments that it owns. -/
  listed : ∀ number comment, comment ∈ table number ↔ comment ∈ comments ∧
    ∃ stmt, (nodesOf body)[number]? = some stmt ∧ Owns span body comment stmt
  /-- No comment belongs to two statements. -/
  unique : ∀ comment i j, comment ∈ table i → comment ∈ table j → i = j
  /-- A comment belongs to a statement if it stands behind one. -/
  owned : ∀ comment ∈ comments, (∃ number, comment ∈ table number) ↔
    ∃ stmt, Precedes span body comment.place stmt
  /-- The statements that a comment stands behind end at one place and enclose one another. -/
  chain : ∀ place a b, Precedes span body place a → Precedes span body place b →
    (span a).stop = (span b).stop ∧ (a = b ∨ b ∈ a.inner ∨ a ∈ b.inner)
  /-- Comments keep their order. -/
  inOrder : ∀ number, (table number).Sublist comments
  nodup : ∀ number, (table number).Nodup

end

section

variable {span : Stmt → Span} {body : List Stmt} {comment : Comment} {stmt : Stmt}

theorem precedes_iff {place : Position} : Precedes span body place stmt ↔
    stmt ∈ nodesOf body ∧ Nearest ((nodesOf body).map span) place (span stmt) := by
  constructor
  · rintro ⟨hmem, hends, hlast, halone⟩
    exact ⟨hmem, List.mem_map_of_mem hmem, hends, by simpa using hlast, by simpa using halone⟩
  · rintro ⟨hmem, -, hends, hlast, halone⟩
    exact ⟨hmem, hends, by simpa using hlast, by simpa using halone⟩

theorem competes_iff (hs : stmt ∈ nodesOf body) :
    Competes span (Precedes span body comment.place) comment stmt ↔
      Competes id (Nearest ((nodesOf body).map span) comment.place) comment (span stmt) := by
  refine and_congr (precedes_iff.trans (and_iff_right hs)) (or_congr .rfl (or_congr .rfl ?_))
  constructor
  · intro h own hown
    obtain ⟨other, ho, rfl⟩ := List.mem_map.mp hown.mem
    exact h other (precedes_iff.mpr ⟨ho, hown⟩)
  · exact fun h other ho => h (span other) (precedes_iff.mp ho).2

/-- If spans are nested as statements are, the innermost statement is the one that starts last. -/
theorem owns_iff (h : ProperlyNested span body) (hs : stmt ∈ nodesOf body) :
    Owns span body comment stmt ↔ Selected ((nodesOf body).map span) comment (span stmt) := by
  have hinner {other : Stmt} (ho : Competes span (Precedes span body comment.place) comment other)
      (hown : Competes span (Precedes span body comment.place) comment stmt) :
      other ∈ stmt.inner ↔ StartsLater (span other) (span stmt) :=
    h.mem_inner_iff hs ho.1.mem ((precedes_iff.mp hown.1).2.stop_eq (precedes_iff.mp ho.1).2)
  constructor
  · rintro ⟨hown, hnone⟩
    refine ⟨(competes_iff hs).mp hown, fun own hcompetes => ?_⟩
    obtain ⟨other, ho, rfl⟩ := List.mem_map.mp hcompetes.1.mem
    have hother := (competes_iff ho).mpr hcompetes
    exact fun hlater => hnone other hother ((hinner hother hown).mpr hlater)
  · rintro ⟨hown, hnone⟩
    have hown := (competes_iff hs).mpr hown
    refine ⟨hown, fun other hother hin => ?_⟩
    exact hnone (span other) ((competes_iff hother.1.mem).mp hother) ((hinner hother hown).mp hin)

theorem Precedes.stop_eq {place : Position} {a b : Stmt} (ha : Precedes span body place a)
    (hb : Precedes span body place b) : (span a).stop = (span b).stop :=
  (precedes_iff.mp ha).2.stop_eq (precedes_iff.mp hb).2

end

/-! ### Attached comments -/

section

variable {placed placed' : List Placed} {comment : Comment}

theorem nearest_congr {spans spans' : List Span} (h : ∀ own, own ∈ spans ↔ own ∈ spans') :
    Nearest spans = Nearest spans' := by
  funext place own
  refine propext ⟨fun hn => ?_, fun hn => ?_⟩
  · exact ⟨(h own).mp hn.mem, hn.ends, fun other ho => hn.last other ((h other).mpr ho),
      fun other ho => hn.alone other ((h other).mpr ho)⟩
  · exact ⟨(h own).mpr hn.mem, hn.ends, fun other ho => hn.last other ((h other).mp ho),
      fun other ho => hn.alone other ((h other).mp ho)⟩

theorem selected_congr {spans spans' : List Span} (h : ∀ own, own ∈ spans ↔ own ∈ spans') :
    Selected spans = Selected spans' := by
  funext comment
  rw [Selected, Selected, nearest_congr h]

/-- The order in which statements are found does not matter. -/
theorem trailingOwner?_perm
    (hstarts : placed.Pairwise fun a b => a.startsBefore b ∨ b.startsBefore a)
    (h : placed'.Perm placed) : trailingOwner? placed' comment = trailingOwner? placed comment := by
  have hstarts' := (h.pairwise_iff (R := fun a b => a.startsBefore b ∨ b.startsBefore a)
    Or.symm).mpr hstarts
  refine Option.ext fun number => ?_
  rw [trailingOwner?_eq_some_iff hstarts, trailingOwner?_eq_some_iff hstarts',
    selected_congr fun own => (h.map Placed.span).mem_iff]
  simp only [h.mem_iff]

/-- The comments of which a statement is the owner. -/
def commentsOf (placed : List Placed) (comments : List Comment) (number : Nat) : List Comment :=
  comments.filter fun comment => trailingOwner? placed comment = some number

theorem attachComments_of_placed {source : List Char} {comments : List Comment} {body : List Stmt}
    (h : placedStatements (splitAt '\n' source) body = .ok placed) :
    attachComments source comments body =
      .ok (Stmt.bodyWithComments (commentsOf placed comments) 0 body).1 := by
  have htable : commentsOf placed comments = fun number =>
      (comments.map fun comment => (trailingOwner? placed comment, comment)).filterMap
        fun owned => if owned.1 = some number then some owned.2 else none := by
    funext number
    rw [commentsOf, List.filterMap_map, ← List.filterMap_eq_filter]
    congr 1
    funext comment
    by_cases ho : trailingOwner? placed comment = some number <;> simp [Option.guard, ho]
  rw [attachComments, h, htable]
  rfl

end

section

variable {lines : List (List Char)} {span : Stmt → Span} {body : List Stmt} {placed : List Placed}
  {comment : Comment}

/-- The numbers of placed statements differ. -/
theorem pairwise_number_placedStatements (h : placedStatements lines body = .ok placed) :
    placed.Pairwise fun a b => a.number ≠ b.number := by
  have hnumbers : (byDepth body).Pairwise fun a b => a.2 ≠ b.2 := by
    refine ((byDepth_perm body).pairwise_iff Ne.symm).mpr (List.pairwise_map.mp ?_)
    rw [List.zipIdx_map_snd]
    exact List.nodup_range'
  rw [placedStatements_eq] at h
  refine pairwise_of_mapM_eq_ok h hnumbers fun a b p q hp hq hne => ?_
  rwa [← (placedEntry_eq_ok_iff.mp hp).1, ← (placedEntry_eq_ok_iff.mp hq).1]

theorem mem_placed_iff (h : placedStatements lines body = .ok placed)
    (hspan : ∀ stmt ∈ nodesOf body, stmt.site.span.inCharacters lines = .ok (span stmt))
    {p : Placed} :
    p ∈ placed ↔ ∃ stmt, (nodesOf body)[p.number]? = some stmt ∧ span stmt = p.span := by
  rw [mem_placedStatements h]
  refine exists_congr fun stmt => and_congr_right fun hs => ?_
  rw [hspan stmt (List.mem_of_getElem? hs), Except.ok.injEq]

theorem pairwise_starts_placedStatements (h : placedStatements lines body = .ok placed)
    (hspan : ∀ stmt ∈ nodesOf body, stmt.site.span.inCharacters lines = .ok (span stmt))
    (nested : ProperlyNested span body) :
    placed.Pairwise fun a b => a.startsBefore b ∨ b.startsBefore a := by
  have hlater := List.pairwise_iff_getElem.mp nested.pairwise
  refine (pairwise_number_placedStatements h).imp_of_mem fun hp hq hne => ?_
  obtain ⟨a, ha, haspan⟩ := (mem_placed_iff h hspan).mp hp
  obtain ⟨b, hb, hbspan⟩ := (mem_placed_iff h hspan).mp hq
  obtain ⟨hi, rfl⟩ := List.getElem?_eq_some_iff.mp ha
  obtain ⟨hj, rfl⟩ := List.getElem?_eq_some_iff.mp hb
  rw [Placed.startsBefore, Placed.startsBefore, ← haspan, ← hbspan]
  rcases Nat.lt_or_gt_of_ne hne with hlt | hgt
  · exact .inl (hlater _ _ hi hj hlt).1
  · exact .inr (hlater _ _ hj hi hgt).1

theorem mem_span_placed_iff (h : placedStatements lines body = .ok placed)
    (hspan : ∀ stmt ∈ nodesOf body, stmt.site.span.inCharacters lines = .ok (span stmt))
    (own : Span) : own ∈ placed.map Placed.span ↔ own ∈ (nodesOf body).map span := by
  constructor
  · intro hown
    obtain ⟨p, hp, rfl⟩ := List.mem_map.mp hown
    obtain ⟨stmt, hs, he⟩ := (mem_placed_iff h hspan).mp hp
    exact he ▸ List.mem_map_of_mem (List.mem_of_getElem? hs)
  · intro hown
    obtain ⟨stmt, hs, rfl⟩ := List.mem_map.mp hown
    obtain ⟨number, hn⟩ := List.getElem?_of_mem hs
    exact List.mem_map.mpr ⟨⟨number, span stmt⟩, (mem_placed_iff h hspan).mpr ⟨stmt, hn, rfl⟩, rfl⟩

/-- The owner of a comment, in terms of the statements. -/
theorem trailingOwner?_eq_some_iff_owns (h : placedStatements lines body = .ok placed)
    (hspan : ∀ stmt ∈ nodesOf body, stmt.site.span.inCharacters lines = .ok (span stmt))
    (nested : ProperlyNested span body) {number : Nat} :
    trailingOwner? placed comment = some number ↔
      ∃ stmt, (nodesOf body)[number]? = some stmt ∧ Owns span body comment stmt := by
  rw [trailingOwner?_eq_some_iff (pairwise_starts_placedStatements h hspan nested),
    selected_congr (mem_span_placed_iff h hspan)]
  constructor
  · rintro ⟨p, hp, rfl, hselected⟩
    obtain ⟨stmt, hs, he⟩ := (mem_placed_iff h hspan).mp hp
    exact ⟨stmt, hs, (owns_iff nested (List.mem_of_getElem? hs)).mpr (he ▸ hselected)⟩
  · rintro ⟨stmt, hs, howns⟩
    exact ⟨⟨number, span stmt⟩, (mem_placed_iff h hspan).mpr ⟨stmt, hs, rfl⟩, rfl,
      (owns_iff nested (List.mem_of_getElem? hs)).mp howns⟩

theorem exists_precedes_iff (h : placedStatements lines body = .ok placed)
    (hspan : ∀ stmt ∈ nodesOf body, stmt.site.span.inCharacters lines = .ok (span stmt)) :
    (∃ stmt, Precedes span body comment.place stmt) ↔
      ∃ number, trailingOwner? placed comment = some number := by
  have hnearest (own : Span) : Nearest (placed.map Placed.span) comment.place own ↔
      Nearest ((nodesOf body).map span) comment.place own := by
    rw [nearest_congr (mem_span_placed_iff h hspan)]
  rw [← Option.ne_none_iff_exists', Ne, trailingOwner?_eq_none_iff]
  simp only [hnearest, not_forall, not_not, exists_prop, precedes_iff]
  constructor
  · rintro ⟨stmt, hs, hnear⟩
    obtain ⟨number, hn⟩ := List.getElem?_of_mem hs
    exact ⟨⟨number, span stmt⟩, (mem_placed_iff h hspan).mpr ⟨stmt, hn, rfl⟩, hnear⟩
  · rintro ⟨p, hp, hnear⟩
    obtain ⟨stmt, hs, he⟩ := (mem_placed_iff h hspan).mp hp
    exact ⟨stmt, List.mem_of_getElem? hs, he ▸ hnear⟩

end

/-- If the spans of a body are nested as its statements are and comments come one behind the other,
each comment is given to the innermost fitting one of the statements that it stands behind, in
whatever order these are found. -/
theorem attachComments_attributed {source : List Char} {comments : List Comment} {body : List Stmt}
    {span : Stmt → Span} (nested : ProperlyNested span body)
    (hspan : ∀ stmt ∈ nodesOf body,
      stmt.site.span.inCharacters (splitAt '\n' source) = .ok (span stmt))
    (ordered : comments.Pairwise fun a b => a.place.before b.place = true) :
    ∃ placed out, placedStatements (splitAt '\n' source) body = .ok placed ∧
      attachComments source comments body = .ok out ∧
      (∀ number, (nodesOf out)[number]?.map Stmt.core = (nodesOf body)[number]?.map fun stmt =>
        Stmt.numbered (commentsOf placed comments) (stmt, number)) ∧
      Attributed span body comments (commentsOf placed comments) ∧
      ∀ other : List Placed, other.Perm placed →
        commentsOf other comments = commentsOf placed comments := by
  obtain ⟨placed, hplaced⟩ := exists_placedStatements fun stmt hs => ⟨_, hspan stmt hs⟩
  have hmem {number : Nat} {comment : Comment} : comment ∈ commentsOf placed comments number ↔
      comment ∈ comments ∧ trailingOwner? placed comment = some number := by
    rw [commentsOf, List.mem_filter, decide_eq_true_iff]
  refine ⟨placed, _, hplaced, attachComments_of_placed hplaced,
    Stmt.getElem?_nodes_bodyWithComments _ body, ?_, fun other hperm => ?_⟩
  · constructor
    case listed =>
      intro number comment
      rw [hmem, trailingOwner?_eq_some_iff_owns hplaced hspan nested]
    case unique =>
      intro comment i j hi hj
      have he := (hmem.mp hi).2.symm.trans (hmem.mp hj).2
      exact Option.some.inj he
    case owned =>
      intro comment hc
      simp only [hmem, hc, true_and]
      exact (exists_precedes_iff hplaced hspan).symm
    case chain =>
      intro place a b ha hb
      exact ⟨ha.stop_eq hb, nested.chain ha.mem hb.mem (ha.stop_eq hb)⟩
    case inOrder => exact fun number => List.filter_sublist
    case nodup =>
      refine fun number => (ordered.imp fun hbefore he => ?_).filter _
      subst he
      exact Position.before_asymm hbefore hbefore
  · funext number
    have hstarts := pairwise_starts_placedStatements hplaced hspan nested
    simp only [commentsOf, trailingOwner?_perm hstarts hperm]

/-- Two conditions around a statement, one inside the other. -/
def nestedConditions : List Stmt :=
  [.compound { span := ⟨⟨1, 0⟩, ⟨3, 9⟩⟩ } (.ifThen ⟨1, .name "a"⟩)
    [⟨.body, [.compound { span := ⟨⟨2, 4⟩, ⟨3, 9⟩⟩ } (.ifThen ⟨2, .name "b"⟩)
      [⟨.body, [.simple { span := ⟨⟨3, 8⟩, ⟨3, 9⟩⟩ } (.expr ⟨3, .name "c"⟩)]⟩]]⟩]]

/-- A comment inside the conditions, one in their last line, and two behind them, of which the first
is indented. -/
def nestedComments : List Comment := [⟨"in", 1, 7⟩, ⟨"one", 3, 11⟩, ⟨"two", 4, 4⟩, ⟨"three", 5, 0⟩]

theorem attachComments_attributed_nestedConditions :
    ∃ placed out, placedStatements
        (splitAt '\n' "if a:  #in\n    if b:\n        c  #one\n    #two\n#three\n".toList)
        nestedConditions = .ok placed ∧
      attachComments "if a:  #in\n    if b:\n        c  #one\n    #two\n#three\n".toList
        nestedComments nestedConditions = .ok out ∧
      (∀ number, (nodesOf out)[number]?.map Stmt.core =
        (nodesOf nestedConditions)[number]?.map fun stmt =>
          Stmt.numbered (commentsOf placed nestedComments) (stmt, number)) ∧
      Attributed (fun stmt => stmt.site.span) nestedConditions nestedComments
        (commentsOf placed nestedComments) ∧
      ∀ other : List Placed, other.Perm placed →
        commentsOf other nestedComments = commentsOf placed nestedComments := by
  refine attachComments_attributed ⟨by simp [nestedConditions], ?_⟩ (by decide +kernel)
    (by decide +kernel)
  have hsolid : ∀ stmt ∈ nodesOf nestedConditions,
      stmt.site.span.start.before stmt.site.span.stop = true := by decide
  have hinside : ∀ stmt ∈ nodesOf nestedConditions, ∀ child ∈ stmt.children,
      stmt.site.span.start.before child.site.span.start = true ∧
        child.site.span.stop.upTo stmt.site.span.stop = true := by decide
  have hsiblings : ∀ stmt ∈ nodesOf nestedConditions,
      stmt.children.Pairwise (Follows fun stmt => stmt.site.span) := by decide
  exact fun stmt hs => ⟨hsolid stmt hs, hinside stmt hs, hsiblings stmt hs⟩

example : (attachComments
      "if a:  #in\n    if b:\n        c  #one\n    #two\n#three\n".toList
      nestedComments nestedConditions).toOption.map
        (fun out => (nodesOf out).map fun stmt => stmt.site.comments.map Comment.text) =
    some [["three"], ["two"], ["one"]] := by
  decide +kernel

end DocSuite.Syntax
