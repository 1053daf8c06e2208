import DocSuite.Proofs.Hoisting
import DocSuite.Proofs.NameUse

/-!
Names that functions import. Main statement: where its imports leave a function, a name that one of
them binds is found in the module exactly if nothing else in the function binds it, and no function
around does, and nothing is declared nonlocal that only an import has bound.
-/
namespace DocSuite

open DocSuite.Syntax

/-! ### Names after imports have left -/

theorem nameUses_pass (scope : Scope) : Stmt.pass.nameUses scope = [] := by
  simp [Stmt.pass, Stmt.nameUses, Stmt.isDelayedIn, Stmt.annotationKind?, Simple.nameUses,
    Simple.ownNameUses, Simple.scopeParts]

/-- A block that is emptied and left out names nothing. -/
theorem nameUsesOfBlocks_block (scope : Scope) (label : Label) (before after : List Stmt) :
    nameUsesOfBlocks scope (Checks.block label before after) =
      label.nameUses ++ nameUsesOf scope after := by
  rcases Checks.block_cases label before after with
    ⟨-, hb⟩ | ⟨-, rfl, rfl, hb⟩ | ⟨-, rfl, -, hb⟩
  · rw [hb, nameUsesOfBlocks, nameUsesOfBlocks, List.append_nil]
  · rw [hb]
    rfl
  · simp [hb, nameUsesOfBlocks, nameUsesOf, nameUses_pass]

theorem chainsOfBlocks_block (owner : Option String) (around : List FunctionScope) (label : Label)
    (before after : List Stmt) : chainsOfBlocks owner around (Checks.block label before after) =
      chainsOf owner around after := by
  rcases Checks.block_cases label before after with
    ⟨-, hb⟩ | ⟨-, rfl, rfl, hb⟩ | ⟨-, rfl, -, hb⟩
  · rw [hb, chainsOfBlocks, chainsOfBlocks, List.append_nil]
  · rw [hb]
    rfl
  · rw [hb]
    rfl

/-- Imports have left a function for some statements, and checks have made functions of their own
names. -/
structure NamesKept (imports : List Stmt) (before after : List NameUse) : Prop where
  rest : after.filter (fun use => use.role ≠ .made) = before.filter fun use => use.role.remains
  made : ∀ use ∈ after, use.role = .made → ∃ n, use.name = Ledger.thunkName n
  hoisted : ∀ use ∈ before, use.role = .imported →
    ∃ site form, Stmt.simple site form ∈ imports ∧ use ∈ form.nameUses

namespace NamesKept

variable {imports : List Stmt} {before after uses others others' : List NameUse}

theorem of_remaining (imports : List Stmt) (h : Remaining uses) : NamesKept imports uses uses := by
  have hrole {role : NameRole} (hr : role.remains = false) : ∀ use ∈ uses, use.role ≠ role := by
    rintro use hmem rfl
    exact Bool.false_ne_true (hr.symm.trans (h use hmem))
  constructor
  case rest =>
    rw [List.filter_eq_self.mpr h,
      List.filter_eq_self.mpr fun use hmem => decide_eq_true (hrole rfl use hmem)]
  case made => exact fun use hmem hmade => absurd hmade (hrole rfl use hmem)
  case hoisted => exact fun use hmem himported => absurd himported (hrole rfl use hmem)

/-- What is bound in an expression moves to the function that is made for it. -/
theorem of_moved (imports : List Stmt) (names : List String) (n : Nat) :
    NamesKept imports (usesAs .moved names) [⟨.made, Ledger.thunkName n⟩] where
  rest := by
    have hnone : (usesAs .moved names).filter (fun use => use.role.remains) = [] := by
      rw [List.filter_eq_nil_iff]
      intro use hmem
      rw [role_of_mem_usesAs hmem]
      exact Bool.false_ne_true
    rw [hnone]
    rfl
  made use hmem _ := ⟨n, by rw [List.mem_singleton.mp hmem]⟩
  hoisted use hmem himported := by
    rw [role_of_mem_usesAs hmem] at himported
    cases himported

theorem of_imported {site : Site} {form : Simple} (hi : .simple site form ∈ imports)
    (hr : ∀ use ∈ form.nameUses, use.role = .imported) : NamesKept imports form.nameUses [] where
  rest := by
    rw [List.filter_nil, eq_comm, List.filter_eq_nil_iff]
    intro use hmem
    rw [hr use hmem]
    exact Bool.false_ne_true
  made := by simp
  hoisted use hmem _ := ⟨site, form, hi, hmem⟩

theorem append (h : NamesKept imports before after) (ho : NamesKept imports others others') :
    NamesKept imports (before ++ others) (after ++ others') where
  rest := by rw [List.filter_append, List.filter_append, h.rest, ho.rest]
  made use hmem := (List.mem_append.mp hmem).elim (h.made use) (ho.made use)
  hoisted use hmem := (List.mem_append.mp hmem).elim (h.hoisted use) (ho.hoisted use)

theorem mem_iff (h : NamesKept imports before after) (use : NameUse) :
    use ∈ after ∧ use.role ≠ .made ↔ use ∈ before ∧ use.role.remains = true := by
  have hmem := congrArg (use ∈ ·) h.rest
  simpa [List.mem_filter] using hmem

end NamesKept

/-- A function or a class of a sample, and what is left of it. -/
structure FunctionScope.Kept (imports : List Stmt) (before after : FunctionScope) : Prop where
  owner : after.owner = before.owner
  uses : NamesKept imports before.uses after.uses

structure ScopeChain.Kept (imports : List Stmt) (before after : ScopeChain) : Prop where
  isClass : after.isClass = before.isClass
  scope : before.scope.Kept imports after.scope
  around : List.Forall₂ (FunctionScope.Kept imports) before.around after.around

theorem FunctionScope.Kept.of_remaining (imports : List Stmt) {scope : FunctionScope}
    (h : Remaining scope.uses) : scope.Kept imports scope :=
  ⟨rfl, .of_remaining imports h⟩

/-- The names of some statements, and the functions in them, when imports have left. -/
structure BodyKept (imports : List Stmt) (scope : Scope) (before after : List Stmt) : Prop where
  uses : NamesKept imports (nameUsesOf scope before) (nameUsesOf scope after)
  chains : ∀ (owner : Option String) (around around' : List FunctionScope),
    List.Forall₂ (FunctionScope.Kept imports) around around' →
      List.Forall₂ (ScopeChain.Kept imports) (chainsOf owner around before)
        (chainsOf owner around' after)

structure BlocksKept (imports : List Stmt) (scope : Scope) (before after : List Block) : Prop where
  uses : NamesKept imports (nameUsesOfBlocks scope before) (nameUsesOfBlocks scope after)
  chains : ∀ (owner : Option String) (around around' : List FunctionScope),
    List.Forall₂ (FunctionScope.Kept imports) around around' →
      List.Forall₂ (ScopeChain.Kept imports) (chainsOfBlocks owner around before)
        (chainsOfBlocks owner around' after)

section

variable {imports : List Stmt} {scope : Scope}

theorem BodyKept.append {before after others others' : List Stmt}
    (h : BodyKept imports scope before after) (ho : BodyKept imports scope others others') :
    BodyKept imports scope (before ++ others) (after ++ others') where
  uses := by simpa using h.uses.append ho.uses
  chains owner around around' ha := by
    simpa using
      List.rel_append (h.chains owner around around' ha) (ho.chains owner around around' ha)

/-- Statements without functions. -/
theorem BodyKept.of_uses {before after : List Stmt}
    (hu : NamesKept imports (nameUsesOf scope before) (nameUsesOf scope after))
    (hb : ∀ owner around, chainsOf owner around before = [])
    (ha : ∀ owner around, chainsOf owner around after = []) :
    BodyKept imports scope before after where
  uses := hu
  chains owner around around' _ := by
    rw [hb, ha]
    exact .nil

theorem BlocksKept.nil (imports : List Stmt) (scope : Scope) : BlocksKept imports scope [] [] where
  uses := .of_remaining imports (remaining_bound [])
  chains _ _ _ _ := .nil

theorem BlocksKept.append {before after others others' : List Block}
    (h : BlocksKept imports scope before after) (ho : BlocksKept imports scope others others') :
    BlocksKept imports scope (before ++ others) (after ++ others') where
  uses := by simpa using h.uses.append ho.uses
  chains owner around around' ha := by
    simpa using
      List.rel_append (h.chains owner around around' ha) (ho.chains owner around around' ha)

theorem BodyKept.block {before after : List Stmt} (h : BodyKept imports scope before after)
    (label : Label) :
    BlocksKept imports scope [⟨label, before⟩] (Checks.block label before after) where
  uses := by
    rw [nameUsesOfBlocks_block, nameUsesOfBlocks, nameUsesOfBlocks, List.append_nil]
    exact (NamesKept.of_remaining imports label.remaining_nameUses).append h.uses
  chains owner around around' ha := by
    rw [chainsOfBlocks_block, chainsOfBlocks, chainsOfBlocks, List.append_nil]
    exact h.chains owner around around' ha

/-- What stands in front of the blocks stays as it is. -/
theorem BlocksKept.compound {blocks after : List Block} {site : Site} {head : Head}
    (h : BlocksKept imports (scope.enter head) blocks after) (hr : site.recorded = false) :
    BodyKept imports scope [.compound site head blocks] [.compound site head after] where
  uses := by
    have hinner : NamesKept imports
        (if head.ownScope?.isSome then [] else nameUsesOfBlocks (scope.enter head) blocks)
        (if head.ownScope?.isSome then [] else nameUsesOfBlocks (scope.enter head) after) := by
      split
      · exact .of_remaining imports (remaining_bound [])
      · exact h.uses
    have hhead := NamesKept.of_remaining imports head.remaining_nameUses
    simpa [nameUsesOf, Stmt.nameUses, hr] using hhead.append hinner
  chains owner around around' ha := by
    cases head with
    | function isAsync name params decorators returns =>
      have hscope : scope.enter (.function isAsync name params decorators returns) =
          if isAsync then .coroutine else .function := by
        cases isAsync <;> rfl
      rw [hscope] at h
      simp only [chainsOf, Stmt.chains, hr, List.append_nil, Bool.false_eq_true, if_false]
      have hkept : FunctionScope.Kept imports
          ⟨owner, params.nameUses ++
            nameUsesOfBlocks (if isAsync then .coroutine else .function) blocks⟩
          ⟨owner, params.nameUses ++
            nameUsesOfBlocks (if isAsync then .coroutine else .function) after⟩ :=
        ⟨rfl, (NamesKept.of_remaining imports params.remaining_nameUses).append h.uses⟩
      exact .cons ⟨rfl, hkept, ha⟩ (h.chains owner _ _ (.cons hkept ha))
    | classDef name =>
      simp only [chainsOf, Stmt.chains, List.append_nil]
      have hkept : FunctionScope.Kept imports ⟨some name, nameUsesOfBlocks .classBody blocks⟩
          ⟨some name, nameUsesOfBlocks .classBody after⟩ := ⟨rfl, h.uses⟩
      exact .cons ⟨rfl, hkept, ha⟩ (h.chains (some name) _ _
        (.cons (.of_remaining imports (remaining_bound ["__class__"])) ha))
    | _ =>
      simp only [chainsOf, Stmt.chains, List.append_nil]
      exact h.chains owner _ _ ha

end

theorem chainsOf_statements (checks : Checks) (scope : Scope) (x : Expr) (e : Expectation)
    (owner : Option String) (around : List FunctionScope) :
    chainsOf owner around (checks.statements scope x e).1 = [] := by
  cases e with
  | value expected => rfl
  | error name message => cases scope <;> rfl

/-- Without comments, no function is made for an expression. -/
theorem isDelayedIn_of_comments {site : Site} (h : site.comments = []) (form : Simple)
    (scope : Scope) : (Stmt.simple site form).isDelayedIn scope = false := by
  cases form <;> simp [Stmt.isDelayedIn, Stmt.annotationKind?, h]

section

variable (x : Expr) (scope : Scope)

theorem nameUses_expr :
    (Simple.expr x).nameUses = x.scopeParts.flatMap ScopePart.nameUses := by
  rw [Simple.nameUses, Simple.ownNameUses, Simple.scopeParts, List.nil_append]

theorem nameUses_value (expected : String) :
    (Check.value x expected).nameUses scope = x.scopeParts.flatMap ScopePart.nameUses := by
  have hdirect := direct_value x expected
  rw [Check.value, Stmt.direct, Simple.scopeParts] at hdirect
  rw [Check.value, Stmt.nameUses, isDelayedIn_of_comments rfl, nameUses_expr, hdirect,
    if_neg Bool.false_ne_true]

theorem nameUses_inlineError (name message : String) :
    (Check.inlineError x name message).nameUses scope =
      x.scopeParts.flatMap ScopePart.nameUses := by
  simp [Check.inlineError, Stmt.nameUses, isDelayedIn_of_comments, nameUses_expr, Head.nameUses,
    Head.ownNameUses, Head.scopeParts, Head.ownScope?, nameUsesOfBlocks, nameUsesOf,
    Label.nameUses, Label.ownNameUses, Label.scopeParts, usesAs, targetNamesOf,
    scopeParts_supportCall, scopePartsOf, scopeParts_textExpr, scopePartsOfOption]

/-- Where a function is made and called, nothing is named but the function. -/
theorem nameUsesOf_error (name message thunkName : String) (inCoroutine : Bool) :
    nameUsesOf scope (Check.error x name message thunkName inCoroutine) =
      [⟨.made, thunkName⟩] := by
  cases inCoroutine <;>
    simp [Check.error, Check.thunk, Check.thunkCheck, Check.recorded, Check.made, nameUsesOf,
      Stmt.nameUses, isDelayedIn_of_comments, nameUses_expr, Head.nameUses, Head.ownNameUses,
      Head.scopeParts, Head.ownScope?, Params.empty, Params.scopeParts, scopePartsOfParams,
      Expr.scopeParts, Form.scopeParts, scopeParts_supportCall, scopePartsOf, scopeParts_nameExpr,
      scopeParts_textExpr, scopePartsOfOption]

end

theorem nameUsesOf_statements (checks : Checks) (scope : Scope) {x : Expr} {e : Expectation}
    (h : ¬ (e.kind = .error ∧ scope ≠ .classBody)) :
    nameUsesOf scope (checks.statements scope x e).1 =
      x.scopeParts.flatMap ScopePart.nameUses := by
  cases e with
  | value expected => simp [Checks.statements, nameUsesOf, nameUses_value]
  | error name message =>
    obtain rfl : scope = .classBody := by simpa [Expectation.kind] using h
    simp [Checks.statements, nameUsesOf, nameUses_inlineError]

theorem nameUsesOf_statements_delayed (checks : Checks) {scope : Scope} {x : Expr}
    {e : Expectation} (h : e.kind = .error ∧ scope ≠ .classBody) :
    nameUsesOf scope (checks.statements scope x e).1 =
      [⟨.made, Ledger.thunkName (checks.ledger.thunkCount + 1)⟩] := by
  obtain ⟨hkind, hscope⟩ := h
  cases e with
  | value expected => cases hkind
  | error name message =>
    cases scope with
    | coroutine | function => exact nameUsesOf_error x _ _ _ _ _
    | classBody => exact absurd rfl hscope

theorem nameUsesOf_of_none {site : Site} {form : Simple}
    (h : (Stmt.simple site form).expectation? = none) (scope : Scope) :
    nameUsesOf scope [.simple site form] = form.nameUses := by
  simp [nameUsesOf, Stmt.nameUses, isDelayedIn_of_none h]

/-- The names are kept as far as the imports are among those that are known. -/
theorem kept_invariant (imports : List Stmt) : Checks.Invariant
    (fun heads _ before after _ =>
      (∀ node ∈ nodesOf before, node.isImport = true → node ∈ imports) →
        BodyKept imports (scopeBetween heads) before after)
    (fun heads _ before after _ =>
      (∀ node ∈ nodesOfBlocks before, node.isImport = true → node ∈ imports) →
        BlocksKept imports (scopeBetween heads) before after) where
  nil _ _ _ :=
    .of_uses (.of_remaining imports (remaining_bound [])) (fun _ _ => rfl) fun _ _ => rfl
  append hbefore hafter hi := by
    rw [nodesOf_append, List.forall_mem_append] at hi
    exact (hbefore hi.1).append (hafter hi.2)
  check heads checks site form x e _ he _ := by
    have hd := isDelayedIn_of_expectation? he (scopeBetween heads)
    obtain rfl := form_of_expectation? he
    rw [Checks.check]
    refine .of_uses ?_ (fun _ _ => rfl) fun _ _ => chainsOf_statements checks _ x e _ _
    rw [nameUsesOf, nameUsesOf, List.append_nil, Stmt.nameUses, hd, nameUses_expr]
    by_cases hdelayed : e.kind = .error ∧ scopeBetween heads ≠ .classBody
    · rw [nameUsesOf_statements_delayed checks hdelayed, decide_eq_true hdelayed, if_pos rfl]
      exact .of_moved imports _ _
    · rw [nameUsesOf_statements checks _ hdelayed, decide_eq_false hdelayed,
        if_neg Bool.false_ne_true]
      exact .of_remaining imports (remaining_scopeParts _)
  hoist heads _ site form _ he himport hi := by
    have hmem : .simple site form ∈ imports := hi _ (by simp [nodesOf, Stmt.nodes]) himport
    refine .of_uses ?_ (fun _ _ => rfl) fun _ _ => rfl
    rw [nameUsesOf_of_none he]
    exact .of_imported hmem fun use => Simple.role_of_mem_nameUses himport
  stay heads _ site form _ he himport _ := by
    refine .of_uses ?_ (fun _ _ => rfl) fun _ _ => rfl
    rw [nameUsesOf_of_none he]
    exact .of_remaining imports (Simple.remaining_nameUses himport)
  compound {heads _ _ site head before after} hr hblocks hi := by
    simp only [nodesOf, Stmt.nodes, List.append_nil, List.forall_mem_cons] at hi
    rw [scopeBetween_cons] at hblocks
    exact (hblocks hi.2).compound hr
  noBlocks _ _ _ := .nil imports _
  block label hbody hi := by
    rw [nodesOfBlocks, nodesOfBlocks, List.append_nil] at hi
    exact (hbody hi).block label
  appendBlocks hbefore hafter hi := by
    rw [nodesOfBlocks_append, List.forall_mem_append] at hi
    exact (hbefore hi.1).append (hafter hi.2)

theorem chains_insert (checks : Checks) {body imports : List Stmt} (h : Fresh (nodesOf body))
    (hi : ∀ node ∈ nodesOf body, node.isImport = true → node ∈ imports) :
    List.Forall₂ (ScopeChain.Kept imports) (scopeChainsOf body)
      (scopeChainsOf (checks.insert body).1) := by
  obtain ⟨after, hafter, hbody⟩ := (kept_invariant imports).insert checks h
  have hkept := hafter hi
  have hout : BodyKept imports .coroutine body (checks.insert body).1 := by
    rw [hbody]
    split
    next he =>
      rw [he] at hkept
      exact ⟨hkept.uses, hkept.chains⟩
    next => exact hkept
  have hscope : FunctionScope.Kept imports ⟨none, nameUsesOf .coroutine body⟩
      ⟨none, nameUsesOf .coroutine (checks.insert body).1⟩ := ⟨rfl, hout.uses⟩
  have hsuite : List.Forall₂ (FunctionScope.Kept imports) [.suite] [.suite] :=
    .cons (.of_remaining imports (remaining_bound [Case.functionName])) .nil
  exact .cons ⟨rfl, hscope, hsuite⟩ (hout.chains none _ _ (.cons hscope hsuite))

/-! ### Names that are found in the module -/

namespace FunctionScope

variable {imports : List Stmt} {before after : FunctionScope} {name : String}

theorem Kept.has_iff (h : before.Kept imports after) {role : NameRole}
    (hr : role.remains = true) (name : String) : after.Has role name ↔ before.Has role name := by
  rw [Has, Has, h.owner]
  constructor
  · rintro ⟨use, hmem, rfl, hname⟩
    have hnot : use.role ≠ .made := fun hmade => by
      rw [hmade] at hr
      cases hr
    exact ⟨use, ((h.uses.mem_iff use).mp ⟨hmem, hnot⟩).1, rfl, hname⟩
  · rintro ⟨use, hmem, rfl, hname⟩
    exact ⟨use, ((h.uses.mem_iff use).mpr ⟨hmem, hr⟩).1, rfl, hname⟩

/-- What is left of a function is neither imported nor moved. -/
theorem Kept.not_has (h : before.Kept imports after) {role : NameRole}
    (hr : role.remains = false) (hm : role ≠ .made) (name : String) : ¬ after.Has role name := by
  rintro ⟨use, hmem, rfl, -⟩
  have hremains := ((h.uses.mem_iff use).mp ⟨hmem, hm⟩).2
  exact Bool.false_ne_true (hr.symm.trans hremains)

theorem Kept.exists_of_has_made (h : before.Kept imports after) (hm : after.Has .made name) :
    ∃ n, name = Ledger.thunkName n := by
  obtain ⟨use, hmem, hrole, rfl⟩ := hm
  obtain ⟨n, hn⟩ := h.uses.made use hmem hrole
  exact ⟨n, by rw [hn, privateName_thunkName]⟩

/-- What is left of a function binds the names that it binds for itself. -/
theorem Kept.isLocal_iff (h : before.Kept imports after) (hn : ∀ n, name ≠ Ledger.thunkName n) :
    after.IsLocal name ↔ before.Has .parameter name ∨ before.Has .bound name := by
  have hmade : ¬ after.Has .made name := fun hm => (h.exists_of_has_made hm).elim hn
  have hparameter : after.Has .parameter name ↔ before.Has .parameter name := h.has_iff rfl name
  have hbound : after.Has .bound name ↔ before.Has .bound name := h.has_iff rfl name
  have himported : ¬ after.Has .imported name := h.not_has rfl (by decide) name
  have hmoved : ¬ after.Has .moved name := h.not_has rfl (by decide) name
  simp [IsLocal, hparameter, hbound, himported, hmoved, hmade]

theorem isLocal_remaining_iff (scope : FunctionScope) (name : String) :
    scope.remaining.IsLocal name ↔ scope.Has .parameter name ∨ scope.Has .bound name := by
  simp [IsLocal, has_remaining_iff, NameRole.remains]

end FunctionScope

section

variable {imports : List Stmt} {around around' : List FunctionScope} {name : String}

theorem passesTo_iff (h : List.Forall₂ (FunctionScope.Kept imports) around around')
    (hn : ∀ n, name ≠ Ledger.thunkName n) :
    PassesTo name around' ↔ PassesTo name (around.map FunctionScope.remaining) := by
  induction h with
  | nil => rfl
  | cons hscope _ ih =>
    rw [List.map_cons, PassesTo, PassesTo, ih, hscope.isLocal_iff hn,
      FunctionScope.isLocal_remaining_iff, FunctionScope.has_remaining_iff,
      FunctionScope.has_remaining_iff, hscope.has_iff rfl, hscope.has_iff rfl]
    simp [NameRole.remains]

theorem findsFunction_iff (h : List.Forall₂ (FunctionScope.Kept imports) around around')
    (hn : ∀ n, name ≠ Ledger.thunkName n) :
    FindsFunction name around' ↔ FindsFunction name (around.map FunctionScope.remaining) := by
  induction h with
  | nil => rfl
  | cons hscope _ ih =>
    rw [List.map_cons, FindsFunction, FindsFunction, ih, hscope.isLocal_iff hn,
      FunctionScope.isLocal_remaining_iff, FunctionScope.has_remaining_iff,
      FunctionScope.has_remaining_iff, hscope.has_iff rfl, hscope.has_iff rfl]
    simp [NameRole.remains]

end

/-- No function and no class declares the name of a function nonlocal that a check makes. -/
def SparesThunks (chains : List ScopeChain) : Prop :=
  ∀ chain ∈ chains, ∀ n, ¬ chain.scope.Has .nonlocal (Ledger.thunkName n)

namespace ScopeChain

variable {imports : List Stmt}

theorem Kept.isAccepted_iff {before after : ScopeChain} (h : before.Kept imports after)
    (hn : ∀ n, ¬ before.scope.Has .nonlocal (Ledger.thunkName n)) :
    after.IsAccepted ↔ before.remaining.IsAccepted := by
  have hscope (name : String) :
      before.remaining.scope.Has .nonlocal name ↔ before.scope.Has .nonlocal name := by
    rw [remaining, FunctionScope.has_remaining_iff]
    exact and_iff_left rfl
  rw [ScopeChain.isAccepted_iff, ScopeChain.isAccepted_iff]
  refine forall_congr' fun name => ?_
  rw [h.scope.has_iff rfl, hscope]
  refine imp_congr_right fun hname => findsFunction_iff h.around fun n hthunk => ?_
  exact hn n (hthunk ▸ hname)

/-- What is declared nonlocal is found in a function, exactly if it is found without imports. -/
theorem forall_isAccepted_iff {befores afters : List ScopeChain}
    (h : List.Forall₂ (Kept imports) befores afters) (hn : SparesThunks befores) :
    (∀ chain ∈ afters, chain.IsAccepted) ↔ ∀ chain ∈ befores, chain.remaining.IsAccepted := by
  induction h with
  | nil => simp
  | cons hchain _ ih =>
    obtain ⟨hfirst, hrest⟩ := List.forall_mem_cons.mp hn
    rw [List.forall_mem_cons, List.forall_mem_cons, hchain.isAccepted_iff hfirst, ih hrest]

end ScopeChain

/-- The imports of a function or of a class are moved to the module, and nothing else that binds
names is, but for expressions that functions are made for. What an import of a function binds is
found in the module unless something else in the function, or a function around, binds it, or it is
private to a class, or the module is refused: something is declared nonlocal that is bound by
nothing but imports in the functions around. -/
structure HoistsNames (imports : List Stmt) (befores afters : List ScopeChain)
    (before after : ScopeChain) : Prop where
  isClass : after.isClass = before.isClass
  hoisted : ∀ use ∈ before.scope.uses, use.role = .imported →
    ∃ site form, Stmt.simple site form ∈ imports ∧ use ∈ form.nameUses
  noImport : ∀ name, ¬ after.scope.Has .imported name
  noMoved : ∀ name, ¬ after.scope.Has .moved name
  bound_iff : ∀ name, after.scope.Has .bound name ↔ before.scope.Has .bound name
  made : ∀ name, after.scope.Has .made name → ∃ n, name = Ledger.thunkName n
  reaches_iff : before.isClass = false → SparesThunks befores →
    ∀ use ∈ before.scope.uses, use.role = .imported →
    ¬ before.scope.Has .global use.name → ¬ before.scope.Has .nonlocal use.name →
    (∀ n, use.name ≠ Ledger.thunkName n) →
    (after.ReachesModule afters use.name ↔
      (∀ chain ∈ befores, chain.remaining.IsAccepted) ∧
        privateName before.scope.owner use.name = use.name ∧
        ¬ before.scope.Has .parameter use.name ∧ ¬ before.scope.Has .bound use.name ∧
        PassesTo use.name (before.around.map FunctionScope.remaining))

theorem ScopeChain.Kept.hoistsNames {imports : List Stmt} {befores afters : List ScopeChain}
    {before after : ScopeChain} (hall : List.Forall₂ (Kept imports) befores afters)
    (h : before.Kept imports after) : HoistsNames imports befores afters before after where
  isClass := h.isClass
  hoisted := h.scope.uses.hoisted
  noImport := h.scope.not_has rfl (by decide)
  noMoved := h.scope.not_has rfl (by decide)
  bound_iff := h.scope.has_iff rfl
  made _ := h.scope.exists_of_has_made
  reaches_iff _ hspares use _ _ hglobal hnonlocal hn := by
    rw [ReachesModule, forall_isAccepted_iff hall hspares, FindsInModule, h.scope.owner, PassesTo,
      passesTo_iff h.around hn, h.scope.isLocal_iff hn, h.scope.has_iff rfl, h.scope.has_iff rfl]
    simp [hglobal, hnonlocal, and_assoc]

namespace ImportedNames

/-- Names that functions import, and that are hidden there by the coroutine around, by a parameter,
by nothing, or by the class. -/
def layered : Sample :=
  { title := some "Layers", language := "python+test", line := some 3
    source := "k = 1\ndef f(p):\n  import m, p\nclass C:\n  def g():\n    import k, m, __n\n" }

/-- A function binds a name again that the function around imports. -/
def rebound : Sample :=
  { title := some "Rebound", language := "python+test", line := some 3
    source := "def f():\n  import m\n  def g():\n    nonlocal m\n    m = None\n" }

/-- A module that may be missing. -/
def optional : Sample :=
  { title := some "Optional", language := "python+test", line := some 3
    source := "try:\n    import m\nexcept ImportError:\n    m = None\n" }

end ImportedNames

/-- The module is refused where a name is declared nonlocal that only an import binds. -/
example : ImportedNames.rebound.parse.toOption.map (fun body =>
    let chains := scopeChainsOf (Checks.insert {} body).1
    chains.map fun chain => (decide chain.IsAccepted, decide (chain.FindsInModule "m"))) =
    some [(true, true), (true, true), (false, false)] := by
  decide +kernel

end DocSuite
