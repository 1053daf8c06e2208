import DocSuite.Proofs.Insertion

/-!
Bodies in which nothing is left to do. A statement is settled if it belongs to a check, or if it is
no import and has no expectation, and the same holds inside its blocks. Main statement: checks put
into a body settle it, and a settled body stays as it is, so that a second pass changes nothing.
-/
namespace DocSuite

open DocSuite.Syntax

namespace Syntax

mutual

/-- Nothing is to be done for the statement. What belongs to a check is not looked into. -/
def Stmt.IsSettled : Stmt → Prop
  | .simple site form =>
      site.recorded = true ∨
        ((Stmt.simple site form).expectation? = none ∧ (Stmt.simple site form).isImport = false)
  | .compound site _ blocks => site.recorded = true ∨ SettledBlocks blocks

def SettledBlocks : List Block → Prop
  | [] => True
  | ⟨_, body⟩ :: rest => Settled body ∧ SettledBlocks rest

def Settled : List Stmt → Prop
  | [] => True
  | stmt :: rest => stmt.IsSettled ∧ Settled rest

end

theorem settled_cons {stmt : Stmt} {rest : List Stmt} :
    Settled (stmt :: rest) ↔ stmt.IsSettled ∧ Settled rest := by
  rw [Settled]

theorem settledBlocks_cons {label : Label} {body : List Stmt} {rest : List Block} :
    SettledBlocks (⟨label, body⟩ :: rest) ↔ Settled body ∧ SettledBlocks rest := by
  rw [SettledBlocks]

theorem Stmt.IsSettled.of_recorded {stmt : Stmt} (h : stmt.site.recorded = true) :
    stmt.IsSettled := by
  cases stmt with
  | simple site form => exact .inl h
  | compound site head blocks => exact .inl h

theorem Settled.of_recorded {body : List Stmt} (h : ∀ stmt ∈ body, stmt.site.recorded = true) :
    Settled body := by
  induction body with
  | nil => trivial
  | cons stmt rest ih =>
    rw [List.forall_mem_cons] at h
    exact settled_cons.mpr ⟨.of_recorded h.1, ih h.2⟩

theorem Settled.append {as bs : List Stmt} (ha : Settled as) (hb : Settled bs) :
    Settled (as ++ bs) := by
  induction as with
  | nil => exact hb
  | cons a as ih =>
    rw [settled_cons] at ha
    exact settled_cons.mpr ⟨ha.1, ih ha.2⟩

theorem SettledBlocks.append {as bs : List Block} (ha : SettledBlocks as) (hb : SettledBlocks bs) :
    SettledBlocks (as ++ bs) := by
  induction as with
  | nil => exact hb
  | cons a as ih =>
    obtain ⟨label, body⟩ := a
    rw [settledBlocks_cons] at ha
    exact settledBlocks_cons.mpr ⟨ha.1, ih ha.2⟩

theorem settled_pass : Settled [Stmt.pass] := settled_cons.mpr ⟨.inr ⟨rfl, rfl⟩, trivial⟩

end Syntax

namespace Checks

/-! ### Settled bodies stay -/

/-- A block that keeps its statements is kept. -/
theorem block_self (label : Label) (body : List Stmt) :
    block label body body = [⟨label, body⟩] := by
  rcases block_cases label body body with ⟨-, hb⟩ | ⟨hne, he, -⟩ | ⟨hne, he, -⟩
  · exact hb
  · exact absurd he hne
  · exact absurd he hne

theorem simple_of_settled (checks : Checks) (scope : Scope) {site : Site} {form : Simple}
    (h : (Stmt.simple site form).IsSettled) :
    checks.simple scope (.simple site form) = ([.simple site form], checks) := by
  cases hr : site.recorded with
  | true => simp [simple, Stmt.site, hr]
  | false =>
    rw [Stmt.IsSettled, hr] at h
    obtain ⟨he, hi⟩ := h.resolve_left Bool.false_ne_true
    exact simple_of_other hr he hi

mutual

theorem insertStmt_of_settled (stmt : Stmt) (scope : Scope) (checks : Checks)
    (h : stmt.IsSettled) : checks.insertStmt scope stmt = ([stmt], checks) := by
  cases stmt with
  | simple site form =>
    rw [insertStmt]
    exact simple_of_settled checks scope h
  | compound site head blocks =>
    cases hr : site.recorded with
    | true => rw [insertStmt, if_pos hr]
    | false =>
      rw [Stmt.IsSettled, hr] at h
      have hb := h.resolve_left Bool.false_ne_true
      rw [insertStmt_compound checks scope head blocks hr,
        insertBlocks_of_settled blocks (scope.enter head) checks hb]

theorem insertBlocks_of_settled (blocks : List Block) (scope : Scope) (checks : Checks)
    (h : SettledBlocks blocks) : checks.insertBlocks scope blocks = (blocks, checks) := by
  cases blocks with
  | nil => rfl
  | cons block rest =>
    obtain ⟨label, body⟩ := block
    rw [settledBlocks_cons] at h
    rw [insertBlocks_cons, insertBody_of_settled body scope checks h.1,
      insertBlocks_of_settled rest scope checks h.2, block_self, List.singleton_append]

theorem insertBody_of_settled (body : List Stmt) (scope : Scope) (checks : Checks)
    (h : Settled body) : checks.insertBody scope body = (body, checks) := by
  cases body with
  | nil => rfl
  | cons stmt rest =>
    rw [settled_cons] at h
    rw [insertBody_cons, insertStmt_of_settled stmt scope checks h.1,
      insertBody_of_settled rest scope checks h.2, List.singleton_append]

end

theorem insert_of_settled (checks : Checks) {body : List Stmt} (hne : body ≠ [])
    (h : Settled body) : checks.insert body = (body, checks) := by
  simp only [insert, insertBody_of_settled body .coroutine checks h, List.isEmpty_iff, hne,
    if_false]

/-! ### Bodies with their checks are settled -/

theorem recorded_statements (checks : Checks) (scope : Scope) (x : Expr) (e : Expectation) :
    ∀ stmt ∈ (checks.statements scope x e).1, stmt.site.recorded = true := by
  cases e with
  | value expected => simp [statements, Check.value, Check.recorded]
  | error name message =>
    cases scope <;>
      simp [statements, Check.error, Check.thunk, Check.thunkCheck, Check.inlineError,
        Check.recorded]

theorem settled_simple (checks : Checks) (scope : Scope) (site : Site) (form : Simple) :
    Settled (checks.simple scope (.simple site form)).1 := by
  cases hr : site.recorded with
  | true =>
    have hstmt : (Stmt.simple site form).IsSettled := .of_recorded hr
    rw [simple_of_settled checks scope hstmt]
    exact settled_cons.mpr ⟨hstmt, trivial⟩
  | false =>
    rcases simple_cases checks scope form hr with ⟨x, e, -, -, hc⟩ | ⟨-, -, hc⟩ | ⟨he, hi, hc⟩
    · rw [hc]
      exact .of_recorded (recorded_statements checks scope x e)
    · rw [hc]
      trivial
    · rw [hc]
      exact settled_cons.mpr ⟨.inr ⟨he, hi⟩, trivial⟩

theorem settledBlocks_block (label : Label) (before : List Stmt) {after : List Stmt}
    (h : Settled after) : SettledBlocks (block label before after) := by
  rcases block_cases label before after with ⟨-, hb⟩ | ⟨-, -, -, hb⟩ | ⟨-, -, -, hb⟩
  · rw [hb]
    exact settledBlocks_cons.mpr ⟨h, trivial⟩
  · rw [hb]
    trivial
  · rw [hb]
    exact settledBlocks_cons.mpr ⟨settled_pass, trivial⟩

mutual

theorem settled_insertStmt (stmt : Stmt) (scope : Scope) (checks : Checks) :
    Settled (checks.insertStmt scope stmt).1 := by
  cases stmt with
  | simple site form =>
    rw [insertStmt]
    exact settled_simple checks scope site form
  | compound site head blocks =>
    cases hr : site.recorded with
    | true =>
      rw [insertStmt, if_pos hr]
      exact settled_cons.mpr ⟨.of_recorded hr, trivial⟩
    | false =>
      rw [insertStmt_compound checks scope head blocks hr]
      exact settled_cons.mpr
        ⟨.inr (settled_insertBlocks blocks (scope.enter head) checks), trivial⟩

theorem settled_insertBlocks (blocks : List Block) (scope : Scope) (checks : Checks) :
    SettledBlocks (checks.insertBlocks scope blocks).1 := by
  cases blocks with
  | nil => trivial
  | cons block rest =>
    obtain ⟨label, before⟩ := block
    rw [insertBlocks_cons]
    have hbody := settled_insertBody before scope checks
    exact (settledBlocks_block label before hbody).append (settled_insertBlocks rest scope _)

theorem settled_insertBody (body : List Stmt) (scope : Scope) (checks : Checks) :
    Settled (checks.insertBody scope body).1 := by
  cases body with
  | nil => trivial
  | cons stmt rest =>
    rw [insertBody_cons]
    exact (settled_insertStmt stmt scope checks).append (settled_insertBody rest scope _)

end

theorem insert_fst_ne_nil (checks : Checks) (body : List Stmt) : (checks.insert body).1 ≠ [] := by
  simp only [insert, List.isEmpty_iff]
  split
  next => simp
  next h => exact h

theorem settled_insert (checks : Checks) (body : List Stmt) : Settled (checks.insert body).1 := by
  simp only [insert]
  split
  next => exact settled_pass
  next => exact settled_insertBody body .coroutine checks

/-- A second pass over a body with its checks leaves the body and all that is known of the samples
as they are, whatever is known of earlier samples. -/
theorem insert_insert (checks : Checks) (body : List Stmt) :
    (checks.insert body).2.insert (checks.insert body).1 = checks.insert body :=
  insert_of_settled _ (insert_fst_ne_nil checks body) (settled_insert checks body)

end Checks

end DocSuite
