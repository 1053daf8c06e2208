import DocSuite.Proofs.Grammar.Place
import DocSuite.Proofs.Trailing
import DocSuite.Sample.Parse

/-!
Statements of samples. Main statement: from the end of a statement up to a comment that trails it
stands no code but semicolons, clause headers and decorators.
-/
namespace DocSuite

open DocSuite.Syntax DocSuite.Syntax.Grammar DocSuite.Text

namespace Sample

/-- The statements of a sample are those of its text, or one that does nothing, with comments of
the text. -/
theorem parse_ok {sample : Sample} {index : Option Int} {body : List Stmt}
    (h : sample.parse index = .ok body) : ∃ read comments,
      parseText sample.source.toList = .ok read ∧
        readComments sample.source.toList = .ok comments ∧
        attachComments sample.source.toList comments
          (if read.isEmpty then emptyBody else read) = .ok body := by
  rw [parse] at h
  split at h
  · cases h
  cases hread : parseText sample.source.toList with
  | error fault =>
    rw [hread] at h
    cases h
  | ok read =>
    cases hcomments : readComments sample.source.toList with
    | error fault =>
      rw [hread, hcomments] at h
      cases h
    | ok comments =>
      refine ⟨read, comments, rfl, rfl, ?_⟩
      rw [hread, hcomments] at h
      cases hattach : attachComments sample.source.toList comments
          (if read.isEmpty then emptyBody else read) with
      | error fault =>
        simp only [pure, Except.pure, bind, Except.bind, hattach] at h
        cases h
      | ok out =>
        simp only [pure, Except.pure, bind, Except.bind, hattach] at h
        cases h
        rfl

/-- Statements start in the order in which they are listed. -/
def InOrder (nodes : List Stmt) : Prop :=
  (nodes.map fun stmt => stmt.site.span).Pairwise fun a b => a.start.before b.start = true

/-- Statements of a sample belong to no check, have the blocks that the grammar has, and stand in
order. -/
theorem parse_sound {sample : Sample} {index : Option Int} {body : List Stmt}
    (h : sample.parse index = .ok body) :
    Fresh (nodesOf body) ∧ Whole (nodesOf body) ∧ InOrder (nodesOf body) := by
  obtain ⟨read, comments, hread, -, hattach⟩ := parse_ok h
  generalize hgiven : (if read.isEmpty then emptyBody else read) = given at hattach
  have hsound : Fresh (nodesOf given) ∧ Whole (nodesOf given) ∧ InOrder (nodesOf given) := by
    subst hgiven
    split
    · simp [emptyBody, nodesOf, Stmt.nodes, Stmt.IsWhole, InOrder]
    · obtain ⟨hf, hw, entries, hentries⟩ := parseText_ok hread
      exact ⟨hf, hw, List.pairwise_map.mpr hentries.ordered⟩
  obtain ⟨hf, hw, ho⟩ := hsound
  have hspans := attachComments_spans hattach
  obtain ⟨placed, -, rfl⟩ := attachComments_ok hattach
  refine ⟨fun stmt hs => ?_, fun stmt hs => ?_, ?_⟩
  · obtain ⟨number, original, hm, hsite, -⟩ := Stmt.exists_of_mem_bodyWithComments _ hs
    rw [hsite]
    exact hf original (List.mem_of_getElem? hm)
  · obtain ⟨number, original, hm, -, hroot⟩ := Stmt.exists_of_mem_bodyWithComments _ hs
    exact Stmt.isWhole_of_root hroot.symm (hw original (List.mem_of_getElem? hm))
  · rw [InOrder, hspans]
    exact ho

/-- The tokens that start from one place up to another pass. -/
def OnlyBetween (source : List Char) (passes : Nat → Prop) (stop place : Position) : Prop :=
  ∀ i, IsText (tokensIn (Source.normalize source)) i → ∃ next,
    characterPosition (splitAt '\n' source)
        (tokenAt (tokensIn (Source.normalize source)) i).span.start = .ok next ∧
      (stop.upTo next = true → next.before place = true → passes i)

/-- The code from the end of a statement up to a place: no statement starts there, and its tokens
are free. -/
structure Follows (source : List Char) (body : List Stmt) (stop place : Position) : Prop where
  ended : stop.upTo place = true
  statements : ∀ other ∈ nodesOf body, ∃ next,
    characterPosition (splitAt '\n' source) other.site.span.start = .ok next ∧
      (stop.upTo next = true → next.before place = false)
  tokens : OnlyBetween source (IsFree (tokensIn (Source.normalize source))) stop place

section

variable {source : List Char} {body : List Stmt} {entries : List (Extent × Stmt)}
  {first stop : Nat → Nat}

/-- Tokens with text start and end at characters. -/
theorem characterPosition_token (hr : '\r' ∉ source)
    (hs : Spots (Source.normalize source) (tokensIn (Source.normalize source)) first stop) {i : Nat}
    (hi : IsText (tokensIn (Source.normalize source)) i) :
    characterPosition (splitAt '\n' source)
        (tokenAt (tokensIn (Source.normalize source)) i).span.start =
        .ok (charPlace ((Source.normalize source).take (first i))) ∧
      characterPosition (splitAt '\n' source)
        (tokenAt (tokensIn (Source.normalize source)) i).span.stop =
        .ok (charPlace ((Source.normalize source).take (stop i))) := by
  rw [hs.span i hi]
  exact ⟨characterPosition_take hr _, characterPosition_take hr _⟩

/-- Where no statement starts behind a statement, there are free tokens only. -/
theorem follows_of_fills (hr : '\r' ∉ source)
    (hf : Fills (Source.normalize source) (nodesOf body) entries) {stmt : Stmt}
    (hm : stmt ∈ nodesOf body) {ending place : Position}
    (hstop : characterPosition (splitAt '\n' source) stmt.site.span.stop = .ok ending)
    (hup : ending.upTo place = true)
    (hnone : ∀ other ∈ nodesOf body, ∃ next,
      characterPosition (splitAt '\n' source) other.site.span.start = .ok next ∧
        (ending.upTo next = true → next.before place = false)) :
    Follows source body ending place := by
  obtain ⟨first, stop, hs⟩ := exists_spots (Source.normalize source)
  obtain ⟨n, hn, hl⟩ := hf.laid
  refine ⟨hup, hnone, fun i hi =>
    ⟨_, (characterPosition_token hr hs hi).1, fun hafter hbefore => ?_⟩⟩
  have hin : i < n := Nat.lt_of_lt_of_le (lt_size_of_isText hi) hn
  rw [← hf.nodes, List.mem_map] at hm
  obtain ⟨entry, he, rfl⟩ := hm
  have hof := hl.isOf entry he
  rw [hof.stop, (characterPosition_token hr hs hof.last_isText).2] at hstop
  cases hstop
  rcases hl.owned i (Nat.zero_le i) hin with hfree | ⟨owner, ho, hle, hall⟩
  · exact hfree
  · have hto := (hl.isOf owner ho).first_isText
    rcases hall entry he with hlt | hge
    · -- The owner starts behind the statement and before the place.
      obtain ⟨next, hnext, hnot⟩ := hnone owner.2 (hf.nodes ▸ List.mem_map_of_mem ho)
      rw [(hl.isOf owner ho).start, (characterPosition_token hr hs hto).1] at hnext
      cases hnext
      have h1 := hs.inOrder _ _ hof.last_isText hto hlt
      have h2 := hs.first_le hto hi hle
      have h3 := hs.lt _ hto
      have h4 := hs.le _ hto
      have h5 := hs.lt _ hi
      have h6 := hs.le _ hi
      have hstart := hnot (charPlace_take_upTo _ h1 (by omega))
      rw [Position.before_of_upTo_of_before (charPlace_take_upTo _ h2 (by omega)) hbefore]
        at hstart
      cases hstart
    · -- The token is inside the statement.
      have h1 := hs.lt _ hi
      have h2 := hs.stop_le hi hof.last_isText hge
      have h3 := hs.le _ hof.last_isText
      exact absurd hafter (Position.not_upTo_of_before (charPlace_take_before _
        (Nat.lt_of_lt_of_le h1 h2) h3))

theorem exists_of_spans {nodes others : List Stmt}
    (h : nodes.map (fun stmt => stmt.site.span) = others.map fun stmt => stmt.site.span)
    {stmt : Stmt} (hs : stmt ∈ nodes) : ∃ other ∈ others, other.site.span = stmt.site.span := by
  have hm : stmt.site.span ∈ nodes.map fun stmt => stmt.site.span := List.mem_map_of_mem hs
  rwa [h, List.mem_map] at hm

/-- Only where statements stand counts. -/
theorem Follows.of_spans {other : List Stmt} {ending place : Position}
    (h : Follows source body ending place)
    (hspans : (nodesOf other).map (fun stmt => stmt.site.span) =
      (nodesOf body).map fun stmt => stmt.site.span) :
    Follows source other ending place := by
  refine ⟨h.ended, fun stmt hs => ?_, h.tokens⟩
  obtain ⟨original, ho, hspan⟩ := exists_of_spans hspans hs
  rw [← hspan]
  exact h.statements original ho

/-- The comments of a statement follow it. -/
theorem comments_follow {sample : Sample} {index : Option Int} {body rest : List Stmt}
    {first : Stmt} (hr : '\r' ∉ sample.source.toList)
    (hs : parseText sample.source.toList = .ok (first :: rest)) (h : sample.parse index = .ok body)
    {stmt : Stmt} (hm : stmt ∈ nodesOf body) {comment : Comment}
    (hc : comment ∈ stmt.site.comments) :
    (∃ comments, readComments sample.source.toList = .ok comments ∧ comment ∈ comments) ∧
      ∃ stop, characterPosition (splitAt '\n' sample.source.toList) stmt.site.span.stop = .ok stop ∧
        Follows sample.source.toList body stop comment.place := by
  obtain ⟨read, comments, hread, hcomments, hattach⟩ := parse_ok h
  rw [hread, Except.ok.injEq] at hs
  subst hs
  simp only [List.isEmpty_cons, Bool.false_eq_true, if_false] at hattach
  obtain ⟨hin, stop, hstop, hup, hnone⟩ := attachComments_follow hattach hm hc
  refine ⟨⟨comments, hcomments, hin⟩, stop, hstop, ?_⟩
  obtain ⟨-, -, entries, hf⟩ := parseText_ok hread
  have hspans := attachComments_spans hattach
  obtain ⟨original, ho, hspan⟩ := exists_of_spans hspans hm
  rw [← hspan] at hstop
  exact (follows_of_fills hr hf ho hstop hup hnone).of_spans hspans

end

/-- A comment stands behind a clause header. -/
def branches : Sample :=
  { title := none, language := "python+test"
    source := "if a:\n    b\nelse:  # => 1\n    c\n" }

theorem branches_isOk : ∃ first rest, parseText branches.source.toList = .ok (first :: rest) := by
  have h : (parseText branches.source.toList).toOption.map List.length = some 1 := by
    decide +kernel
  obtain ⟨read, hread, hlength⟩ := exists_of_toOption_map h
  obtain ⟨first, rest, rfl⟩ := List.exists_cons_of_length_pos (hlength ▸ Nat.one_pos)
  exact ⟨first, rest, hread⟩

theorem branches_comment : ∃ body, branches.parse = .ok body ∧ ∃ stmt ∈ nodesOf body,
    stmt.site.span.stop = ⟨2, 5⟩ ∧ ⟨" => 1", 3, 7⟩ ∈ stmt.site.comments := by
  have h : branches.parse.toOption.map (fun body =>
      (nodesOf body).map fun stmt => (stmt.site.span.stop, stmt.site.comments)) =
        some [(⟨4, 5⟩, []), (⟨2, 5⟩, [⟨" => 1", 3, 7⟩]), (⟨4, 5⟩, [])] := by
    decide +kernel
  obtain ⟨body, hbody, hmap⟩ := exists_of_toOption_map h
  have hm : ((⟨2, 5⟩, [⟨" => 1", 3, 7⟩]) : Position × List Comment) ∈
      (nodesOf body).map fun stmt => (stmt.site.span.stop, stmt.site.comments) := by
    rw [hmap]
    simp
  obtain ⟨stmt, hs, he⟩ := List.mem_map.mp hm
  simp only [Prod.mk.injEq] at he
  exact ⟨body, hbody, stmt, hs, he.1, he.2 ▸ List.mem_singleton_self _⟩

theorem comments_follow_branches : ∃ body, branches.parse = .ok body ∧ ∃ stmt ∈ nodesOf body,
    ⟨" => 1", 3, 7⟩ ∈ stmt.site.comments ∧ ∃ stop,
      characterPosition (splitAt '\n' branches.source.toList) stmt.site.span.stop = .ok stop ∧
        Follows branches.source.toList body stop ⟨3, 7⟩ := by
  obtain ⟨first, rest, hread⟩ := branches_isOk
  obtain ⟨body, hbody, stmt, hs, -, hc⟩ := branches_comment
  exact ⟨body, hbody, stmt, hs, hc, (comments_follow (by decide +kernel) hread hbody hs hc).2⟩

/-- More than semicolons stands between statements and their comments. -/
theorem comment_behind_else : ¬ ∀ body, branches.parse = .ok body → ∀ stmt ∈ nodesOf body,
    ∀ comment ∈ stmt.site.comments, ∃ stop,
      characterPosition (splitAt '\n' branches.source.toList) stmt.site.span.stop = .ok stop ∧
        OnlyBetween branches.source.toList
          (fun i => IsLayout (tokensIn (Source.normalize branches.source.toList)) i ∨
            (tokenAt (tokensIn (Source.normalize branches.source.toList)) i).isTerminal
              .semicolon = true) stop comment.place := by
  intro hall
  obtain ⟨body, hbody, stmt, hs, hspan, hc⟩ := branches_comment
  obtain ⟨stop, hstop, hf⟩ := hall body hbody stmt hs _ hc
  have hplace : characterPosition (splitAt '\n' branches.source.toList) ⟨2, 5⟩ = .ok ⟨2, 5⟩ := by
    decide +kernel
  rw [hspan, hplace, Except.ok.injEq] at hstop
  subst hstop
  obtain ⟨next, hnext, hpasses⟩ := hf 8 (by
    rw [IsText]
    decide +kernel)
  have helse : characterPosition (splitAt '\n' branches.source.toList)
      (tokenAt (tokensIn (Source.normalize branches.source.toList)) 8).span.start =
        .ok ⟨3, 0⟩ := by
    decide +kernel
  rw [helse, Except.ok.injEq] at hnext
  subst hnext
  have hno : ¬ (IsLayout (tokensIn (Source.normalize branches.source.toList)) 8 ∨
      (tokenAt (tokensIn (Source.normalize branches.source.toList)) 8).isTerminal
        .semicolon = true) := by
    rw [IsLayout]
    decide +kernel
  exact hno (hpasses (by decide) (by decide))

end Sample

end DocSuite
