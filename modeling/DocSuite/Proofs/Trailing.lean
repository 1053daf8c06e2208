import DocSuite.Proofs.Numbering
import DocSuite.Proofs.Place
import DocSuite.Proofs.Result

/-!
Owners of comments. Main statement: the comments given to a statement stand behind it, and no
statement starts between its end and any of them.
-/
namespace DocSuite

/-! ### Sorted lists -/

section

variable {α : Type} (less : α → α → Bool)

theorem insertBy_perm (a : α) (as : List α) : (insertBy less a as).Perm (a :: as) := by
  induction as with
  | nil => exact .refl _
  | cons b as ih =>
    simp only [insertBy]
    split
    · exact .refl _
    · exact (ih.cons b).trans (.swap a b as)

theorem sortBy_perm (as : List α) : (sortBy less as).Perm as := by
  have run (done : List α) :
      (as.foldl (fun sorted a => insertBy less a sorted) done).Perm (as ++ done) := by
    induction as generalizing done with
    | nil => exact .refl _
    | cons a as ih =>
      refine (ih _).trans ?_
      exact ((insertBy_perm less a done).append_left as).trans List.perm_middle
  simpa [sortBy] using run []

@[simp] theorem mem_sortBy {a : α} {as : List α} : a ∈ sortBy less as ↔ a ∈ as :=
  (sortBy_perm less as).mem_iff

end

end DocSuite

namespace DocSuite.Syntax

open DocSuite.Text

/-! ### Placed statements -/

/-- A span in bytes as one in characters. -/
def Span.inCharacters (lines : List (List Char)) (span : Span) : Except Utf8.Fault Span := do
  let start ← characterPosition lines span.start
  let stop ← characterPosition lines span.stop
  return ⟨start, stop⟩

theorem Span.inCharacters_eq_ok_iff {lines : List (List Char)} {span out : Span} :
    span.inCharacters lines = .ok out ↔ characterPosition lines span.start = .ok out.start ∧
      characterPosition lines span.stop = .ok out.stop := by
  obtain ⟨first, last⟩ := out
  rw [inCharacters]
  cases characterPosition lines span.start with
  | error fault => simp [bind, Except.bind]
  | ok start =>
    cases characterPosition lines span.stop with
    | error fault => simp [bind, Except.bind]
    | ok stop => simp [bind, Except.bind, pure, Except.pure]

section

variable {lines : List (List Char)} {body : List Stmt} {placed : List Placed}

/-- Entries with the number of nodes above them, in groups of which each starts at the top. -/
def topGroups (entries : List ((Nat × Stmt) × Nat)) :
    List (List ((Nat × Stmt) × Nat)) × List ((Nat × Stmt) × Nat) :=
  entries.foldr (fun entry done =>
    if entry.1.1 = 0 then ((entry :: done.2) :: done.1, []) else (done.1, entry :: done.2))
    ([], [])

theorem append_flatten_topGroups (entries : List ((Nat × Stmt) × Nat)) :
    (topGroups entries).2 ++ (topGroups entries).1.flatten = entries := by
  induction entries with
  | nil => rfl
  | cons first rest ih =>
    have hstep : topGroups (first :: rest) = if first.1.1 = 0 then
        ((first :: (topGroups rest).2) :: (topGroups rest).1, [])
      else ((topGroups rest).1, first :: (topGroups rest).2) := rfl
    rw [hstep]
    split <;> simp [ih]

theorem topGroups_snd_eq_nil {entries : List ((Nat × Stmt) × Nat)}
    (h : ∀ entry ∈ entries.head?, entry.1.1 = 0) : (topGroups entries).2 = [] := by
  cases entries with
  | nil => rfl
  | cons first rest =>
    have hfirst : first.1.1 = 0 := h first (by simp)
    simp [topGroups, hfirst]

/-- The statements of a body with their numbers in the order of their depth. -/
def byDepth (body : List Stmt) : List ((Nat × Stmt) × Nat) :=
  (topGroups (Stmt.walkAll 0 body).zipIdx).1.flatMap (sortBy fun a b => a.1.1 < b.1.1)

theorem byDepth_perm (body : List Stmt) :
    (byDepth body).Perm (Stmt.walkAll 0 body).zipIdx := by
  have hnil : (topGroups (Stmt.walkAll 0 body).zipIdx).2 = [] := by
    refine topGroups_snd_eq_nil fun entry h => ?_
    have hhead := Stmt.head?_walkAll 0 body
    cases hw : Stmt.walkAll 0 body with
    | nil => simp [hw] at h
    | cons first rest =>
      rw [hw] at h hhead
      simp only [List.zipIdx_cons, List.head?_cons, Option.mem_some_iff] at h
      subst h
      exact hhead first (by simp)
  have hflatten := append_flatten_topGroups (Stmt.walkAll 0 body).zipIdx
  rw [hnil, List.nil_append] at hflatten
  have hsorted (groups : List (List ((Nat × Stmt) × Nat))) :
      (groups.flatMap (sortBy fun a b => a.1.1 < b.1.1)).Perm groups.flatten := by
    induction groups with
    | nil => exact .refl _
    | cons group groups ih => exact (sortBy_perm _ group).append ih
  exact (hsorted _).trans (.of_eq hflatten)

theorem mem_byDepth {entry : (Nat × Stmt) × Nat} :
    entry ∈ byDepth body ↔ entry ∈ (Stmt.walkAll 0 body).zipIdx :=
  (byDepth_perm body).mem_iff

/-- The entry of a walk with its span in characters. -/
def placedEntry (lines : List (List Char)) (entry : (Nat × Stmt) × Nat) :
    Except Utf8.Fault Placed := do
  let start ← characterPosition lines entry.1.2.site.span.start
  let stop ← characterPosition lines entry.1.2.site.span.stop
  return ⟨entry.2, ⟨start, stop⟩⟩

theorem placedEntry_eq_ok_iff {entry : (Nat × Stmt) × Nat} {p : Placed} :
    placedEntry lines entry = .ok p ↔
      entry.2 = p.number ∧ entry.1.2.site.span.inCharacters lines = .ok p.span := by
  obtain ⟨number, span⟩ := p
  rw [Span.inCharacters_eq_ok_iff, placedEntry]
  cases characterPosition lines entry.1.2.site.span.start with
  | error fault => simp [bind, Except.bind]
  | ok start =>
    cases characterPosition lines entry.1.2.site.span.stop with
    | error fault => simp [bind, Except.bind]
    | ok stop =>
      obtain ⟨first, last⟩ := span
      simp [bind, Except.bind, pure, Except.pure]

theorem placedStatements_eq (lines : List (List Char)) (body : List Stmt) :
    placedStatements lines body = (byDepth body).mapM (placedEntry lines) := rfl

/-- The walk lists the statements in the order of their numbers. -/
theorem exists_mem_walkAll {stmt : Stmt} {number : Nat} :
    (∃ depth, ((depth, stmt), number) ∈ (Stmt.walkAll 0 body).zipIdx) ↔
      (nodesOf body)[number]? = some stmt := by
  simp only [List.mem_zipIdx_iff_getElem?, ← Stmt.walkAll_nodes 0 body, List.getElem?_map,
    Option.map_eq_some_iff, Prod.exists, exists_eq_right]

theorem mem_placedStatements (h : placedStatements lines body = .ok placed) {p : Placed} :
    p ∈ placed ↔
      ∃ stmt, (nodesOf body)[p.number]? = some stmt ∧
        stmt.site.span.inCharacters lines = .ok p.span := by
  rw [placedStatements_eq] at h
  rw [mem_of_mapM_eq_ok h]
  constructor
  · rintro ⟨⟨⟨depth, stmt⟩, number⟩, he, hp⟩
    obtain ⟨rfl, hspan⟩ := placedEntry_eq_ok_iff.mp hp
    exact ⟨stmt, exists_mem_walkAll.mp ⟨depth, mem_byDepth.mp he⟩, hspan⟩
  · rintro ⟨stmt, hs, hspan⟩
    obtain ⟨depth, he⟩ := exists_mem_walkAll.mpr hs
    exact ⟨_, mem_byDepth.mpr he, placedEntry_eq_ok_iff.mpr ⟨rfl, hspan⟩⟩

/-- Statements can be placed if each of them can. -/
theorem exists_placedStatements
    (h : ∀ stmt ∈ nodesOf body, ∃ span, stmt.site.span.inCharacters lines = .ok span) :
    ∃ placed, placedStatements lines body = .ok placed := by
  rw [placedStatements_eq]
  refine succeeds_mapM.mpr ?_
  rintro ⟨⟨depth, stmt⟩, number⟩ he
  have hs := exists_mem_walkAll.mp ⟨depth, mem_byDepth.mp he⟩
  obtain ⟨span, hspan⟩ := h stmt (List.mem_of_getElem? hs)
  exact ⟨⟨number, span⟩, placedEntry_eq_ok_iff.mpr ⟨rfl, hspan⟩⟩

theorem exists_mem_placedStatements (h : placedStatements lines body = .ok placed) {stmt : Stmt}
    (hs : stmt ∈ nodesOf body) : ∃ p ∈ placed, stmt.site.span.inCharacters lines = .ok p.span := by
  obtain ⟨number, hn⟩ := List.getElem?_of_mem hs
  obtain ⟨depth, he⟩ := exists_mem_walkAll.mpr hn
  rw [placedStatements_eq] at h
  obtain ⟨p, hp, hok⟩ := exists_of_mapM_eq_ok h (mem_byDepth.mpr he)
  exact ⟨p, hp, (placedEntry_eq_ok_iff.mp hok).2⟩

end

/-! ### Owners -/

/-- Where a comment starts, in characters. -/
def Comment.place (comment : Comment) : Position := ⟨comment.line, comment.column⟩

/-- The owner of a comment ends before it, and no statement starts in between. -/
theorem trailingOwner?_spec {placed : List Placed} {comment : Comment} {number : Nat}
    (h : trailingOwner? placed comment = some number) : ∃ p ∈ placed, p.number = number ∧
      p.span.stop.upTo comment.place = true ∧ ∀ other ∈ placed,
        p.span.stop.upTo other.span.start = true →
          other.span.start.before comment.place = false := by
  rw [trailingOwner?] at h
  split at h
  · cases h
  next first rest hended =>
    generalize hlast : List.foldl _ _ _ = last at h
    dsimp only at h
    split at h
    · cases h
    next hbetween =>
      obtain ⟨p, hp, hnumber⟩ := Option.map_eq_some_iff.mp h
      have hmem : p ∈ (first :: rest).filter fun p => p.span.stop == last := by
        rw [hended] at hp
        split at hp
        · exact (mem_sortBy _).mp (List.mem_of_getLast? hp)
        · rcases Option.or_eq_some_iff.mp hp with hp | ⟨-, hp⟩
          · exact (mem_sortBy _).mp (List.mem_filter.mp (List.mem_of_getLast? hp)).1
          · exact (mem_sortBy _).mp (List.mem_of_getLast? hp)
      rw [← hended, List.mem_filter, List.mem_filter] at hmem
      obtain ⟨⟨hp, hplace⟩, hstop⟩ := hmem
      rw [beq_iff_eq] at hstop
      refine ⟨p, hp, hnumber, hplace, fun other ho hup => ?_⟩
      rw [hstop] at hup
      simp only [List.any_eq_true, Bool.and_eq_true, not_exists, not_and] at hbetween
      exact Bool.not_eq_true _ ▸ hbetween other ho hup

/-! ### Attached comments -/

theorem attachComments_ok {source : List Char} {comments : List Comment} {body out : List Stmt}
    (h : attachComments source comments body = .ok out) : ∃ placed,
      placedStatements (splitAt '\n' source) body = .ok placed ∧
        out = (Stmt.bodyWithComments (fun number =>
          (comments.map fun comment => (trailingOwner? placed comment, comment)).filterMap
            fun (owner, comment) => if owner = some number then some comment else none)
          0 body).1 := by
  unfold attachComments at h
  cases hp : placedStatements (splitAt '\n' source) body with
  | error fault =>
    rw [hp] at h
    cases h
  | ok placed =>
    rw [hp] at h
    cases h
    exact ⟨placed, rfl, rfl⟩

theorem attachComments_spans {source : List Char} {comments : List Comment} {body out : List Stmt}
    (h : attachComments source comments body = .ok out) :
    (nodesOf out).map (fun stmt => stmt.site.span) =
      (nodesOf body).map fun stmt => stmt.site.span := by
  obtain ⟨placed, -, rfl⟩ := attachComments_ok h
  exact Stmt.spans_bodyWithComments _ body

/-- The comments of a statement stand behind it, and no statement starts in between. -/
theorem attachComments_follow {source : List Char} {comments : List Comment} {body out : List Stmt}
    (h : attachComments source comments body = .ok out) {stmt : Stmt} (hs : stmt ∈ nodesOf out)
    {comment : Comment} (hc : comment ∈ stmt.site.comments) : comment ∈ comments ∧
      ∃ stop, characterPosition (splitAt '\n' source) stmt.site.span.stop = .ok stop ∧
        stop.upTo comment.place = true ∧ ∀ other ∈ nodesOf body, ∃ next,
          characterPosition (splitAt '\n' source) other.site.span.start = .ok next ∧
            (stop.upTo next = true → next.before comment.place = false) := by
  obtain ⟨placed, hp, rfl⟩ := attachComments_ok h
  obtain ⟨number, original, ho, hsite, -⟩ := Stmt.exists_of_mem_bodyWithComments _ hs
  rw [hsite, List.mem_filterMap] at hc
  obtain ⟨⟨owner, found⟩, hfound, hc⟩ := hc
  obtain ⟨given, hgiven, hpair⟩ := List.mem_map.mp hfound
  cases hpair
  simp only [Option.ite_none_right_eq_some, Option.some.injEq] at hc
  obtain ⟨howner, rfl⟩ := hc
  obtain ⟨p, hmem, rfl, hplace, hnone⟩ := trailingOwner?_spec howner
  obtain ⟨original', ho', hspan⟩ := (mem_placedStatements hp).mp hmem
  rw [ho] at ho'
  cases ho'
  refine ⟨hgiven, p.span.stop, ?_, hplace, fun other hother => ?_⟩
  · rw [hsite]
    exact (Span.inCharacters_eq_ok_iff.mp hspan).2
  · obtain ⟨q, hq, hspan'⟩ := exists_mem_placedStatements hp hother
    exact ⟨q.span.start, (Span.inCharacters_eq_ok_iff.mp hspan').1, hnone q hq⟩

end DocSuite.Syntax
