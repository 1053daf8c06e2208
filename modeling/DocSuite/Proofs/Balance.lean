import DocSuite.Proofs.Delay
import DocSuite.Proofs.Hoisting

/-!
The books of the checks of a document: how many expectations were found, how many functions were
made and how many statements were recorded. Main statement: each expectation of the samples is
counted once, and one function is made for each error that is not expected in the body of a class;
the functions are numbered from one in the order of the samples, and the check right behind each of
them is the only one that calls it.
-/
namespace DocSuite

open DocSuite.Syntax

/-! ### Booking checks -/

/-- The expressions are booked: each expectation is found once, one function is made for each that
waits, numbered from the functions made before, and the statements of the checks are recorded. -/
structure Booked (checks : Checks) (as : List Annotated) (checks' : Checks) (recorded : List Stmt) :
    Prop where
  findings : checks'.findings.length = checks.findings.length + as.length
  thunks : checks'.ledger.thunkCount = checks.ledger.thunkCount + (delayedOf as).length
  size : checks'.ledger.size = checks.ledger.size + as.length + (delayedOf as).length
  made : recorded.filterMap Stmt.made? = functionsFrom checks.ledger.thunkCount (delayedOf as)
  references : recorded.flatMap Stmt.references =
    (functionsFrom checks.ledger.thunkCount (delayedOf as)).map Prod.fst

namespace Booked

variable {checks checks' checks'' : Checks} {as bs : List Annotated} {recorded others : List Stmt}

theorem nil (checks : Checks) : Booked checks [] checks [] := ⟨rfl, rfl, rfl, rfl, rfl⟩

theorem append (h : Booked checks as checks' recorded) (h' : Booked checks' bs checks'' others) :
    Booked checks (as ++ bs) checks'' (recorded ++ others) where
  findings := by
    rw [h'.findings, h.findings, List.length_append, Nat.add_assoc]
  thunks := by
    rw [h'.thunks, h.thunks, delayedOf_append, List.length_append, Nat.add_assoc]
  size := by
    rw [h'.size, h.size, delayedOf_append, List.length_append, List.length_append]
    omega
  made := by
    rw [List.filterMap_append, h.made, h'.made, h.thunks, delayedOf_append, functionsFrom_append]
  references := by
    rw [List.flatMap_append, h.references, h'.references, h.thunks, delayedOf_append,
      functionsFrom_append, List.map_append]

end Booked

/-- The check of an expression makes the function that has the next number, if it makes one. -/
theorem calls_statements (checks : Checks) (a : Annotated) :
    Calls (checks.statements (scopeBetween a.heads) a.expression a.expectation).1
        (functionsFrom checks.ledger.thunkCount (delayedOf [a])) ∧
      (checks.statements (scopeBetween a.heads) a.expression a.expectation).2.ledger.thunkCount =
        checks.ledger.thunkCount + (delayedOf [a]).length := by
  obtain ⟨heads, x, e⟩ := a
  cases e with
  | value expected =>
    have hnone : delayedOf [⟨heads, x, .value expected⟩] = [] := by
      simp [delayedOf, Annotated.isDelayed, Expectation.kind]
    rw [hnone]
    exact ⟨.value x expected, rfl⟩
  | error name message =>
    cases hscope : scopeBetween heads with
    | classBody =>
      have hnone : delayedOf [⟨heads, x, .error name message⟩] = [] := by
        simp [delayedOf, Annotated.isDelayed, hscope]
      rw [hnone]
      exact ⟨.inlineError x name message, rfl⟩
    | coroutine =>
      have hone : delayedOf [⟨heads, x, .error name message⟩] = [some x] := by
        simp [delayedOf, Annotated.isDelayed, Expectation.kind, hscope]
      rw [hone]
      exact ⟨.error x name message _ true, rfl⟩
    | function =>
      have hone : delayedOf [⟨heads, x, .error name message⟩] = [some x] := by
        simp [delayedOf, Annotated.isDelayed, Expectation.kind, hscope]
      rw [hone]
      exact ⟨.error x name message _ false, rfl⟩

theorem findings_statements (checks : Checks) (scope : Scope) (x : Expr) (e : Expectation) :
    (checks.statements scope x e).2.findings = checks.findings := by
  cases e with
  | value expected => rfl
  | error name message => cases scope <;> rfl

theorem booked_check (checks : Checks) (line : Nat) (a : Annotated) :
    Booked checks [a] (checks.check (scopeBetween a.heads) line a.expression a.expectation).2
      (checks.check (scopeBetween a.heads) line a.expression a.expectation).1 := by
  obtain ⟨hcalls, hthunks⟩ := calls_statements checks a
  have hfindings := findings_statements checks (scopeBetween a.heads) a.expression a.expectation
  have hnodes := ledger_statements checks (scopeBetween a.heads) a.expression a.expectation
  simp only [Checks.check]
  constructor
  · rw [hfindings, List.length_append]
    rfl
  · exact hthunks
  · rw [Ledger.size_record, hcalls.length_eq, Ledger.size, hnodes]
    simp only [functionsFrom, List.length_map, List.length_zipIdx, Ledger.size,
      List.length_singleton]
    omega
  · exact hcalls.made_eq
  · exact hcalls.references_eq

theorem booked_invariant : Checks.Invariant
    (fun heads checks before after checks' => ∀ behind,
      Booked checks ((placedIn heads behind before).filterMap Placed.annotated?) checks'
        (recordedOf (nodesOf after)))
    (fun heads checks before after checks' =>
      Booked checks ((placedInBlocks heads before).filterMap Placed.annotated?) checks'
        (recordedOf (nodesOfBlocks after))) where
  nil _ checks _ := .nil checks
  append hbefore hafter behind := by
    rw [placedIn_append, List.filterMap_append, nodesOf_append, recordedOf_append]
    exact (hbefore _).append (hafter behind)
  check heads checks site form x e _ he behind := by
    have hb := booked_check checks site.span.start.line ⟨heads, x, e⟩
    rw [annotated_simple, he]
    simp only [Checks.check] at hb ⊢
    rw [recordedOf_statements]
    exact hb
  hoist heads checks site form _ he _ behind := by
    rw [annotated_simple, he]
    exact ⟨rfl, rfl, rfl, rfl, rfl⟩
  stay heads checks site form hr he _ behind := by
    have hnone : recordedOf (nodesOf [.simple site form]) = [] := by
      simp [recordedOf, nodesOf, Stmt.nodes, hr]
    rw [annotated_simple, he, hnone]
    exact .nil checks
  compound {heads _ _ site head before after} hr hblocks behind := by
    have hnodes : recordedOf (nodesOf [.compound site head after]) =
        recordedOf (nodesOfBlocks after) := by
      simp [recordedOf, nodesOf, Stmt.nodes, hr]
    rw [annotated_compound, hnodes]
    exact hblocks
  noBlocks _ checks := .nil checks
  block label hbody := by
    rw [recordedOf_block, placedInBlocks, placedInBlocks, List.append_nil]
    exact hbody []
  appendBlocks hbefore hafter := by
    rw [placedInBlocks_append, List.filterMap_append, nodesOfBlocks_append, recordedOf_append]
    exact hbefore.append hafter

theorem booked_insert (checks : Checks) {body : List Stmt} (h : Fresh (nodesOf body)) :
    Booked checks ((placedOf body).filterMap Placed.annotated?) (checks.insert body).2
      (recordedOf (nodesOf (checks.insert body).1)) := by
  obtain ⟨after, hafter, hbody⟩ := booked_invariant.insert checks h
  have hb := hafter []
  rw [hbody]
  split
  next he =>
    rw [he] at hb
    exact hb
  next => exact hb

theorem booked_insertAll (checks : Checks) {bodies : List (List Stmt)}
    (h : ∀ body ∈ bodies, Fresh (nodesOf body)) :
    Booked checks ((bodies.flatMap placedOf).filterMap Placed.annotated?)
      (checks.insertAll bodies).2
      (recordedOf ((checks.insertAll bodies).1.flatMap nodesOf)) := by
  induction bodies generalizing checks with
  | nil => exact .nil checks
  | cons body rest ih =>
    rw [List.forall_mem_cons] at h
    simp only [Checks.insertAll, List.flatMap_cons, List.filterMap_append, recordedOf_append]
    exact (booked_insert checks h.1).append (ih (checks.insert body).2 h.2)

/-! ### Balanced books -/

mutual

theorem Syntax.Stmt.map_stmt_placed (stmt : Stmt) (heads : List Head) (behind : List Stmt) :
    (stmt.placed heads behind).map Placed.stmt = stmt.nodes := by
  cases stmt with
  | simple site form => rfl
  | compound site head blocks =>
    rw [Stmt.placed, Stmt.nodes, List.map_cons, map_stmt_placedInBlocks blocks (head :: heads)]

theorem map_stmt_placedInBlocks (blocks : List Block) (heads : List Head) :
    (placedInBlocks heads blocks).map Placed.stmt = nodesOfBlocks blocks := by
  cases blocks with
  | nil => rfl
  | cons block rest =>
    obtain ⟨label, body⟩ := block
    rw [placedInBlocks, nodesOfBlocks, List.map_append, map_stmt_placedIn body heads [],
      map_stmt_placedInBlocks rest heads]

theorem map_stmt_placedIn (body : List Stmt) (heads : List Head) (behind : List Stmt) :
    (placedIn heads behind body).map Placed.stmt = nodesOf body := by
  cases body with
  | nil => rfl
  | cons stmt rest =>
    rw [placedIn, nodesOf, List.map_append, stmt.map_stmt_placed heads (rest ++ behind),
      map_stmt_placedIn rest heads behind]

end

theorem map_stmt_placedOf (bodies : List (List Stmt)) :
    (bodies.flatMap placedOf).map Placed.stmt = bodies.flatMap nodesOf := by
  rw [List.map_flatMap]
  exact List.flatMap_congr fun body _ => map_stmt_placedIn body [] []

theorem Syntax.Stmt.made?_eq_none {stmt : Stmt} (h : stmt.site.recorded = false) :
    stmt.made? = none := by
  unfold made?
  split
  next => simp_all
  next => rfl

/-- Only statements of checks make functions. -/
theorem made_recordedOf (nodes : List Stmt) :
    (recordedOf nodes).filterMap Stmt.made? = nodes.filterMap Stmt.made? := by
  induction nodes with
  | nil => rfl
  | cons stmt nodes ih =>
    cases hr : stmt.site.recorded with
    | true => simp_all [recordedOf, List.filterMap_cons]
    | false => simp_all [recordedOf, Stmt.made?_eq_none hr]

theorem references_recordedOf (nodes : List Stmt) :
    (recordedOf nodes).flatMap Stmt.references = nodes.flatMap Stmt.references := by
  induction nodes with
  | nil => rfl
  | cons stmt nodes ih =>
    cases hr : stmt.site.recorded with
    | true => simp_all [recordedOf]
    | false => simp_all [recordedOf, Stmt.references]

/-- The books of samples and of their bodies with checks. -/
structure Balanced (bodies outs : List (List Stmt)) (checks : Checks) : Prop where
  findings : checks.findings.length =
    (bodies.flatMap nodesOf).countP fun stmt => stmt.annotationKind?.isSome
  thunks : checks.ledger.thunkCount = (bodies.flatMap placedOf).countP Placed.isDelayed
  size : checks.ledger.size = checks.findings.length + checks.ledger.thunkCount
  /-- The functions are made in the order of the samples, numbered from one. -/
  made : (outs.flatMap nodesOf).filterMap Stmt.made? =
    functionsFrom 0 (((bodies.flatMap placedOf).filter Placed.isDelayed).map fun p =>
      p.stmt.expression?)
  names : ((outs.flatMap nodesOf).filterMap Stmt.made?).map Prod.fst =
    (List.range' 1 checks.ledger.thunkCount).map Ledger.thunkName
  nodup : (((outs.flatMap nodesOf).filterMap Stmt.made?).map Prod.fst).Nodup
  /-- Checks refer to each of the functions once, and to nothing else. -/
  references : (outs.flatMap nodesOf).flatMap Stmt.references =
    ((outs.flatMap nodesOf).filterMap Stmt.made?).map Prod.fst
  calls : ∀ out ∈ outs, ∀ p ∈ placedOf out, ∀ name blocks, p.stmt.made? = some (name, blocks) →
    ∃ check rest, p.behind = check :: rest ∧ check.references = [name]
  callers : ∀ out ∈ outs, ∀ p ∈ placedOf out, ∀ name ∈ p.stmt.references,
    ∃ q ∈ placedOf out, q.heads = p.heads ∧ q.behind = p.stmt :: p.behind ∧
      ∃ blocks, q.stmt.made? = some (name, blocks)

theorem calls_insert (checks : Checks) {body : List Stmt} (h : Fresh (nodesOf body)) {p : Placed}
    (hp : p ∈ placedOf (checks.insert body).1) {name : String} {blocks : List Block}
    (hmade : p.stmt.made? = some (name, blocks)) :
    ∃ check rest, p.behind = check :: rest ∧ check.references = [name] := by
  have hr : p.isRecorded = true := by
    by_contra hr
    rw [Stmt.made?_eq_none (by simpa [Placed.isRecorded] using hr)] at hmade
    cases hmade
  obtain ⟨heads, behind, stmts, functions, hcalls, hrow, -⟩ :=
    (replaced_insert checks h).exists_row_of_mem (List.mem_filter.mpr ⟨hp, hr⟩)
  exact hcalls.exists_call hrow hmade

theorem callers_insert (checks : Checks) {body : List Stmt} (h : Fresh (nodesOf body)) {p : Placed}
    (hp : p ∈ placedOf (checks.insert body).1) {name : String}
    (hname : name ∈ p.stmt.references) :
    ∃ q ∈ placedOf (checks.insert body).1, q.heads = p.heads ∧ q.behind = p.stmt :: p.behind ∧
      ∃ blocks, q.stmt.made? = some (name, blocks) := by
  have hr : p.isRecorded = true := by
    by_contra hr
    have hr : p.stmt.site.recorded = false := by simpa [Placed.isRecorded] using hr
    simp [Stmt.references, hr] at hname
  obtain ⟨heads, behind, stmts, functions, hcalls, hrow, hsub⟩ :=
    (replaced_insert checks h).exists_row_of_mem (List.mem_filter.mpr ⟨hp, hr⟩)
  obtain ⟨q, hq, hfront⟩ := hcalls.exists_function hrow hname
  exact ⟨q, (List.mem_filter.mp (hsub hq)).1, hfront⟩

/-- The books balance whatever samples get their checks: the expectations, the functions and the
recorded statements are counted by what the samples hold, and each function has its one call right
behind it. -/
theorem insertAll_balanced {bodies : List (List Stmt)}
    (h : ∀ body ∈ bodies, ∃ (sample : Sample) (index : Option Int),
      sample.parse index = .ok body) :
    Balanced bodies (Checks.insertAll {} bodies).1 (Checks.insertAll {} bodies).2 := by
  have hfresh := fresh_of_parsed h
  obtain ⟨hfindings, hthunks, hsize, hmade, hreferences⟩ := booked_insertAll {} hfresh
  rw [made_recordedOf] at hmade
  rw [references_recordedOf] at hreferences
  have hnames := map_fst_functionsFrom 0
    (delayedOf ((bodies.flatMap placedOf).filterMap Placed.annotated?))
  constructor
  · rw [hfindings, length_annotated, ← map_stmt_placedOf, List.countP_map]
    exact Nat.zero_add _
  · rw [hthunks, delayedOf_annotated, List.length_map, ← List.countP_eq_length_filter]
    exact Nat.zero_add _
  · rw [hsize, hfindings, hthunks]
    simp [Ledger.size]
  · rw [hmade, delayedOf_annotated]
  · rw [hmade, hthunks]
    simpa using hnames
  · rw [hmade]
    exact nodup_functionsFrom _ _
  · rw [hreferences, hmade]
  · intro out hout p hp name blocks hmade
    obtain ⟨earlier, body, hbody, rfl⟩ := exists_of_mem_insertAll hout
    exact calls_insert earlier (hfresh body hbody) hp hmade
  · intro out hout p hp name hname
    obtain ⟨earlier, body, hbody, rfl⟩ := exists_of_mem_insertAll hout
    exact callers_insert earlier (hfresh body hbody) hp hname

/-- Errors are expected in a coroutine, in a function and in a class, and a value behind them. -/
def mixedExpectations : Sample :=
  { title := none, language := "python+test"
    source := "b  # KeyError: k\ndef f():\n    c  # ValueError: v\n" ++
      "class C:\n    d  # NameError: n\n    e  # => 1\n" }

theorem insertAll_balanced_mixedExpectations : ∃ body, mixedExpectations.parse = .ok body ∧
    Balanced [body, body] (Checks.insertAll {} [body, body]).1
      (Checks.insertAll {} [body, body]).2 ∧
    (Checks.insertAll {} [body, body]).2.findings.length = 8 ∧
    (Checks.insertAll {} [body, body]).2.ledger.thunkCount = 4 := by
  have h : mixedExpectations.parse.toOption.map (fun body =>
      ((Checks.insertAll {} [body, body]).2.findings.length,
        (Checks.insertAll {} [body, body]).2.ledger.thunkCount)) = some (8, 4) := by
    decide +kernel
  obtain ⟨body, hbody, hcounts⟩ := exists_of_toOption_map h
  rw [Prod.mk.injEq] at hcounts
  refine ⟨body, hbody, insertAll_balanced fun other ho => ⟨mixedExpectations, none, ?_⟩, hcounts⟩
  simp only [List.mem_cons, List.not_mem_nil, or_false, or_self] at ho
  rw [ho]
  exact hbody

end DocSuite
