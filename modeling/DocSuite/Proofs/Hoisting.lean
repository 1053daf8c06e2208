import DocSuite.Compilation
import DocSuite.Proofs.Insertion
import DocSuite.Proofs.Sample
import Mathlib.Data.List.Forall2

/-!
Imports that leave the bodies of samples. Main statement: the checks of a sequence of samples know
of its imports in their order, the bodies that are left hold none, and each block that the grammar
requires still holds a statement.
-/
namespace DocSuite.Syntax

/-! ### Blocks that can be left out -/

/-- A compound statement cannot lose a block with the label. -/
def Label.isRequired : Label → Bool
  | .orelse => false
  | _ => true

/-- Labels of which some that are not required are left out. -/
inductive Thinned : List Label → List Label → Prop
  | nil : Thinned [] []
  | keep (label : Label) {before after : List Label} :
      Thinned before after → Thinned (label :: before) (label :: after)
  | drop {before after : List Label} : Thinned before after → Thinned (.orelse :: before) after

namespace Thinned

variable {before after others : List Label}

theorem sublist (h : Thinned before after) : after.Sublist before := by
  induction h with
  | nil => exact .slnil
  | keep label _ ih => exact ih.cons_cons label
  | drop _ ih => exact ih.cons _

theorem filter_isRequired (h : Thinned before after) :
    after.filter Label.isRequired = before.filter Label.isRequired := by
  induction h with
  | nil => rfl
  | keep label _ ih => simp only [List.filter_cons, ih]
  | drop _ ih => simpa [Label.isRequired] using ih

theorem eq_of_isRequired (h : Thinned before after)
    (hr : ∀ label ∈ before, label.isRequired = true) : after = before := by
  induction h with
  | nil => rfl
  | keep label _ ih => rw [ih fun l hl => hr l (List.mem_cons_of_mem _ hl)]
  | drop _ ih =>
    have := hr .orelse List.mem_cons_self
    simp [Label.isRequired] at this

theorem append {before' after' : List Label} (h : Thinned before after)
    (h' : Thinned before' after') : Thinned (before ++ before') (after ++ after') := by
  induction h with
  | nil => exact h'
  | keep label _ ih => exact ih.keep label
  | drop _ ih => exact ih.drop

theorem append_left (hr : ∀ label ∈ before, label.isRequired = true)
    (h : Thinned (before ++ others) after) : ∃ rest, after = before ++ rest ∧
      Thinned others rest := by
  induction before generalizing after with
  | nil => exact ⟨after, rfl, h⟩
  | cons label before ih =>
    have hlabel := hr label List.mem_cons_self
    cases h with
    | keep _ h =>
      obtain ⟨rest, rfl, hrest⟩ := ih (fun l hl => hr l (List.mem_cons_of_mem _ hl)) h
      exact ⟨rest, rfl, hrest⟩
    | drop _ => simp [Label.isRequired] at hlabel

end Thinned

theorem Label.isRequired_of_isHandler {label : Label} (h : label.isHandler = true) :
    label.isRequired = true := by
  cases label <;> simp_all [isHandler, isRequired]

theorem Label.isRequired_of_isCase {label : Label} (h : label.isCase = true) :
    label.isRequired = true := by
  cases label <;> simp_all [isCase, isRequired]

/-- A head takes its blocks without some that are not required. -/
theorem Head.Takes.thinned {head : Head} {before after : List Label} (h : head.Takes before)
    (ht : Thinned before after) : head.Takes after := by
  have hbody {others : List Label} (h : before = .body :: others) : ∃ rest,
      after = .body :: rest ∧ Thinned others rest := by
    subst h
    cases ht with
    | keep _ ht => exact ⟨_, rfl, ht⟩
  cases head with
  | function | classDef | withItems =>
    obtain ⟨rest, rfl, hrest⟩ := hbody h
    cases hrest
    rfl
  | ifThen | forLoop | whileLoop =>
    obtain ⟨others, hothers, hsub⟩ := h
    obtain ⟨rest, rfl, hrest⟩ := hbody hothers
    exact ⟨rest, rfl, hrest.sublist.trans hsub⟩
  | matchOn subject =>
    obtain ⟨hne, hcases⟩ := h
    rw [ht.eq_of_isRequired fun l hl => Label.isRequired_of_isCase (hcases l hl)]
    exact ⟨hne, hcases⟩
  | tryBlock star =>
    rcases h with rfl | ⟨handlers, others, rfl, hne, hhandlers, hsub⟩
    · refine .inl (ht.eq_of_isRequired fun l hl => ?_)
      simp only [List.mem_cons, List.not_mem_nil, or_false] at hl
      rcases hl with rfl | rfl <;> rfl
    · obtain ⟨rest, rfl, hrest⟩ := hbody rfl
      obtain ⟨kept, rfl, hkept⟩ := hrest.append_left fun l hl =>
        Label.isRequired_of_isHandler (hhandlers l hl)
      exact .inr ⟨handlers, kept, rfl, hne, hhandlers, hkept.sublist.trans hsub⟩

/-- A compound statement of a source, less what is inside its blocks and less the blocks that can be
left out. -/
def Stmt.frame : Stmt → Option (Site × Head × List Label)
  | .simple .. => none
  | .compound site head blocks =>
      if site.recorded then none
      else some (site, head, (blocks.map Block.label).filter Label.isRequired)

end DocSuite.Syntax

namespace DocSuite

open DocSuite.Syntax

/-- Statements of the text with their checks: their imports are known and gone, and the frames of
those with blocks are left. -/
structure Hoisted (checks : Checks) (before : List Stmt) (checks' : Checks) (after : List Stmt) :
    Prop where
  imports : checks'.imports = checks.imports ++ before.filter Stmt.isImport
  noImport : ∀ stmt ∈ after, stmt.isImport = false
  whole : Whole after
  frames : after.filterMap Stmt.frame = before.filterMap Stmt.frame

namespace Hoisted

variable {checks checks' checks'' : Checks} {before after before' after' : List Stmt}

theorem nil (checks : Checks) : Hoisted checks [] checks [] :=
  ⟨by simp, by simp, whole_nil, rfl⟩

theorem append (h : Hoisted checks before checks' after)
    (h' : Hoisted checks' before' checks'' after') :
    Hoisted checks (before ++ before') checks'' (after ++ after') where
  imports := by rw [h'.imports, h.imports, List.filter_append, List.append_assoc]
  noImport stmt hs := (List.mem_append.mp hs).elim (h.noImport stmt) (h'.noImport stmt)
  whole := whole_append.mpr ⟨h.whole, h'.whole⟩
  frames := by rw [List.filterMap_append, List.filterMap_append, h.frames, h'.frames]

end Hoisted

theorem nodes_statements (checks : Checks) (scope : Scope) (x : Expr) (e : Expectation) :
    ∀ stmt ∈ nodesOf (checks.statements scope x e).1,
      stmt.isImport = false ∧ stmt.IsWhole ∧ stmt.frame = none := by
  cases e with
  | value expected =>
    simp [Checks.statements, Check.value, nodesOf, Stmt.nodes, Stmt.isImport, Stmt.IsWhole,
      Stmt.frame]
  | error name message =>
    cases scope <;>
      simp [Checks.statements, Check.error, Check.thunk, Check.thunkCheck, Check.inlineError,
        Check.recorded, nodesOf, nodesOfBlocks, Stmt.nodes, Stmt.isImport, Stmt.IsWhole, Stmt.frame,
        Head.Takes, Block.label, Block.body]

theorem imports_check (checks : Checks) (scope : Scope) (line : Nat) (x : Expr) (e : Expectation) :
    (checks.check scope line x e).2.imports = checks.imports := by
  cases e with
  | value expected => rfl
  | error name message => cases scope <;> rfl

/-- The statements of a check are no part of the text. -/
theorem hoisted_check (checks : Checks) (scope : Scope) (line : Nat) (x : Expr) (e : Expectation)
    {stmt : Stmt} (hi : stmt.isImport = false) (hf : stmt.frame = none) :
    Hoisted checks [stmt] (checks.check scope line x e).2
      (nodesOf (checks.check scope line x e).1) := by
  have hnodes := nodes_statements checks scope x e
  refine ⟨?_, fun s hs => (hnodes s hs).1, fun s hs => (hnodes s hs).2.1, ?_⟩
  · rw [imports_check]
    simp [hi]
  · have hbefore : [stmt].filterMap Stmt.frame = [] := by simp [hf]
    rw [hbefore, List.filterMap_eq_nil_iff]
    exact fun s hs => (hnodes s hs).2.2

/-- Blocks with their checks: some that are not required are gone, and no other is empty. -/
structure HoistedBlocks (checks : Checks) (before : List Block) (checks' : Checks)
    (after : List Block) : Prop where
  nodes : Hoisted checks (nodesOfBlocks before) checks' (nodesOfBlocks after)
  thinned : Thinned (before.map Block.label) (after.map Block.label)
  filled : ∀ block ∈ after, block.body ≠ []

theorem HoistedBlocks.append {checks checks' checks'' : Checks}
    {before after before' after' : List Block} (h : HoistedBlocks checks before checks' after)
    (h' : HoistedBlocks checks' before' checks'' after') :
    HoistedBlocks checks (before ++ before') checks'' (after ++ after') where
  nodes := by simpa using h.nodes.append h'.nodes
  thinned := by simpa using h.thinned.append h'.thinned
  filled block hb := (List.mem_append.mp hb).elim (h.filled block) (h'.filled block)

/-- A block that is emptied is filled again or left out. -/
theorem hoistedBlocks_block {checks checks' : Checks} (label : Label) {before after : List Stmt}
    (hne : before ≠ []) (h : Hoisted checks (nodesOf before) checks' (nodesOf after)) :
    HoistedBlocks checks [⟨label, before⟩] checks' (Checks.block label before after) := by
  rcases Checks.block_cases label before after with
    ⟨hafter, hb⟩ | ⟨-, rfl, rfl, hb⟩ | ⟨-, rfl, hlabel, hb⟩
  · rw [hb]
    exact ⟨by simpa [nodesOfBlocks] using h, .keep _ .nil,
      by simpa [Block.body] using hafter.resolve_left hne⟩
  · rw [hb]
    exact ⟨by simpa [nodesOfBlocks, nodesOf] using h, .drop .nil, by simp⟩
  · have hpass : Hoisted checks' [] checks' (nodesOf [Stmt.pass]) :=
      ⟨by simp, by simp [nodesOf, Stmt.nodes, Stmt.pass, Stmt.isImport],
        by simp [nodesOf, Stmt.nodes, Stmt.pass, Stmt.IsWhole],
        by simp [nodesOf, Stmt.nodes, Stmt.pass, Stmt.frame]⟩
    rw [hb]
    exact ⟨by simpa [nodesOfBlocks, nodesOf] using h.append hpass, .keep _ .nil,
      by simp [Block.body]⟩

/-- Where compound statements have the blocks that they take, and none is empty, it stays so. -/
theorem hoisted_invariant : Checks.Invariant
    (fun _ checks before after checks' =>
      Whole (nodesOf before) → Hoisted checks (nodesOf before) checks' (nodesOf after))
    (fun _ checks before after checks' =>
      Whole (nodesOfBlocks before) → (∀ block ∈ before, block.body ≠ []) →
        HoistedBlocks checks before checks' after) where
  nil _ checks _ := .nil checks
  append hbefore hafter hw := by
    rw [nodesOf_append, whole_append] at hw
    rw [nodesOf_append, nodesOf_append]
    exact (hbefore hw.1).append (hafter hw.2)
  check heads checks site form x e _ he _ :=
    hoisted_check checks _ _ x e (Checks.isImport_of_expectation? he) rfl
  hoist _ checks site form _ _ hi _ :=
    ⟨by simp [Checks.hoist, nodesOf, Stmt.nodes, hi], by simp [nodesOf], whole_nil, rfl⟩
  stay _ checks site form _ _ hi hw :=
    ⟨by simp [nodesOf, Stmt.nodes, hi], by simp [nodesOf, Stmt.nodes, hi], hw, rfl⟩
  compound {_ checks checks' site head before after} hr hblocks hw := by
    simp only [nodesOf, Stmt.nodes, List.append_nil, whole_cons] at hw
    obtain ⟨⟨htakes, hfilled⟩, hw⟩ := hw
    have hb := hblocks hw hfilled
    have hhead : Hoisted checks [.compound site head before] checks
        [.compound site head after] :=
      ⟨by simp [Stmt.isImport], by simp [Stmt.isImport],
        by simpa using ⟨htakes.thinned hb.thinned, hb.filled⟩,
        by simp [Stmt.frame, hr, hb.thinned.filter_isRequired]⟩
    simpa [nodesOf, Stmt.nodes] using hhead.append hb.nodes
  noBlocks _ checks _ _ := ⟨.nil checks, .nil, by simp⟩
  block {_ _ _ before _} label hbody hw hfilled := by
    rw [nodesOfBlocks, nodesOfBlocks, List.append_nil] at hw
    exact hoistedBlocks_block label (hfilled _ List.mem_cons_self) (hbody hw)
  appendBlocks hbefore hafter hw hfilled := by
    rw [nodesOfBlocks_append, whole_append] at hw
    rw [List.forall_mem_append] at hfilled
    exact (hbefore hw.1 hfilled.1).append (hafter hw.2 hfilled.2)

/-! ### Sequences of samples -/

/-- The imports at any depth of a body, in the order of the text. -/
def importsOf (body : List Stmt) : List Stmt := (nodesOf body).filter Stmt.isImport

/-- Puts the checks into the bodies of samples, one after the other. -/
def Checks.insertAll (checks : Checks) : List (List Stmt) → List (List Stmt) × Checks
  | [] => ([], checks)
  | body :: rest =>
      ((checks.insert body).1 :: ((checks.insert body).2.insertAll rest).1,
        ((checks.insert body).2.insertAll rest).2)

/-- What is left of the body of a sample: no import, and a statement wherever there must be one. -/
structure Refilled (body out : List Stmt) : Prop where
  filled : out ≠ []
  noImport : ∀ stmt ∈ nodesOf out, stmt.isImport = false
  whole : Whole (nodesOf out)
  frames : (nodesOf out).filterMap Stmt.frame = (nodesOf body).filterMap Stmt.frame

theorem hoisted_insert (checks : Checks) {body : List Stmt} (h : Fresh (nodesOf body))
    (hw : Whole (nodesOf body)) :
    (checks.insert body).2.imports = checks.imports ++ importsOf body ∧
      Refilled body (checks.insert body).1 := by
  obtain ⟨after, hafter, hbody⟩ := hoisted_invariant.insert checks h
  have hb := hafter hw
  refine ⟨hb.imports, ?_⟩
  rw [hbody]
  by_cases he : after = []
  · rw [if_pos he]
    have hframes := hb.frames
    rw [he] at hframes
    exact ⟨by simp, by simp [nodesOf, Stmt.nodes, Stmt.pass, Stmt.isImport],
      by simp [nodesOf, Stmt.nodes, Stmt.pass, Stmt.IsWhole], hframes⟩
  · rw [if_neg he]
    exact ⟨he, hb.noImport, hb.whole, hb.frames⟩

theorem hoisted_insertAll (checks : Checks) {bodies : List (List Stmt)}
    (h : ∀ body ∈ bodies, Fresh (nodesOf body)) (hw : ∀ body ∈ bodies, Whole (nodesOf body)) :
    (checks.insertAll bodies).2.imports = checks.imports ++ bodies.flatMap importsOf ∧
      List.Forall₂ Refilled bodies (checks.insertAll bodies).1 := by
  induction bodies generalizing checks with
  | nil => exact ⟨by simp [Checks.insertAll], .nil⟩
  | cons body rest ih =>
    obtain ⟨himports, hrefilled⟩ :=
      hoisted_insert checks (h body List.mem_cons_self) (hw body List.mem_cons_self)
    obtain ⟨hrest, hall⟩ := ih (checks.insert body).2
      (fun body hb => h body (List.mem_cons_of_mem _ hb))
      fun body hb => hw body (List.mem_cons_of_mem _ hb)
    refine ⟨?_, .cons hrefilled hall⟩
    simp only [Checks.insertAll, hrest, himports, List.flatMap_cons, List.append_assoc]

/-- A first sample gets its checks, and gives a case, before the samples behind it. -/
theorem casesFrom_cons_ok {index : Nat} {checks checks' : Checks} {sample : Sample}
    {samples : List Sample} {cases : List Case}
    (h : Compilation.casesFrom index checks (sample :: samples) = (checks', .ok cases)) :
    ∃ body rest, sample.parse (some (index : Int)) = .ok body ∧
      Compilation.casesFrom (index + 1) (checks.insert body).2 samples = (checks', .ok rest) ∧
      cases = ⟨sample.caseTitle, (checks.insert body).1, true⟩ :: rest := by
  rw [Compilation.casesFrom] at h
  cases hparse : sample.parse (some (index : Int)) with
  | error fault =>
    rw [hparse] at h
    cases h
  | ok body =>
    rw [hparse] at h
    simp only [Prod.mk.injEq] at h
    obtain ⟨hchecks, hcases⟩ := h
    rcases hrest : Compilation.casesFrom (index + 1) (checks.insert body).2 samples with
      ⟨checks'', fault | rest⟩
    · rw [hrest] at hcases
      cases hcases
    · rw [hrest] at hchecks hcases
      cases hchecks
      cases hcases
      exact ⟨body, rest, rfl, hrest, rfl⟩

/-- The samples of a document get their checks one after the other. -/
theorem insertAll_of_casesFrom {index : Nat} {checks checks' : Checks} {samples : List Sample}
    {cases : List Case} (h : Compilation.casesFrom index checks samples = (checks', .ok cases)) :
    ∃ bodies, List.Forall₂ (fun sample body => ∃ index, Sample.parse sample index = .ok body)
        samples bodies ∧
      checks.insertAll bodies = (cases.map Case.body, checks') := by
  induction samples generalizing index checks cases with
  | nil =>
    cases h
    exact ⟨[], .nil, rfl⟩
  | cons sample samples ih =>
    obtain ⟨body, rest, hparse, hrest, rfl⟩ := casesFrom_cons_ok h
    obtain ⟨bodies, hbodies, hall⟩ := ih hrest
    refine ⟨body :: bodies, .cons ⟨some index, hparse⟩ hbodies, ?_⟩
    rw [Checks.insertAll, hall]
    rfl

/-- What the samples of a sequence become is what they become one by one. -/
theorem exists_of_mem_insertAll {checks : Checks} {bodies : List (List Stmt)} {out : List Stmt}
    (h : out ∈ (checks.insertAll bodies).1) :
    ∃ earlier : Checks, ∃ body ∈ bodies, out = (earlier.insert body).1 := by
  induction bodies generalizing checks with
  | nil => cases h
  | cons body rest ih =>
    rw [Checks.insertAll] at h
    rcases List.mem_cons.mp h with hfirst | hlater
    · exact ⟨checks, body, List.mem_cons_self, hfirst⟩
    · obtain ⟨earlier, other, hmem, hout⟩ := ih hlater
      exact ⟨earlier, other, List.mem_cons_of_mem _ hmem, hout⟩

/-- No sample of a sequence has checks before it gets them. -/
theorem fresh_of_parsed {bodies : List (List Stmt)}
    (h : ∀ body ∈ bodies, ∃ (sample : Sample) (index : Option Int),
      sample.parse index = .ok body) : ∀ body ∈ bodies, Fresh (nodesOf body) := by
  intro body hb
  obtain ⟨sample, index, hparse⟩ := h body hb
  exact (Sample.parse_sound hparse).1

/-- The imports of parsed samples are known in the order of the samples and of their texts. What is
left of each sample has none of them, and holds a statement wherever there must be one. -/
theorem insertAll_hoists {bodies : List (List Stmt)}
    (h : ∀ body ∈ bodies, ∃ (sample : Sample) (index : Option Int),
      sample.parse index = .ok body) :
    (Checks.insertAll {} bodies).2.imports = bodies.flatMap importsOf ∧
      (∀ body ∈ bodies, Sample.InOrder (importsOf body)) ∧
      List.Forall₂ Refilled bodies (Checks.insertAll {} bodies).1 := by
  have hsound : ∀ body ∈ bodies,
      Fresh (nodesOf body) ∧ Whole (nodesOf body) ∧ Sample.InOrder (nodesOf body) := by
    intro body hb
    obtain ⟨sample, index, hparse⟩ := h body hb
    exact Sample.parse_sound hparse
  obtain ⟨himports, hrefilled⟩ := hoisted_insertAll {} (fun body hb => (hsound body hb).1)
    fun body hb => (hsound body hb).2.1
  refine ⟨by simpa using himports, fun body hb => ?_, hrefilled⟩
  exact (hsound body hb).2.2.sublist (List.filter_sublist.map _)

/-- Each block of the sample is emptied. -/
def nestedImports : Sample :=
  { title := none, language := "python+test"
    source := "class C:\n    import os\ntry:\n    import re\nexcept E:\n    import json\n" ++
      "else:\n    import sys\nfinally:\n    from a import b\n" }

theorem insertAll_hoists_nestedImports : ∃ body, nestedImports.parse = .ok body ∧
    (importsOf body).length = 5 ∧
      (Checks.insertAll {} [body, body]).2.imports = [body, body].flatMap importsOf ∧
      (∀ other ∈ [body, body], Sample.InOrder (importsOf other)) ∧
      List.Forall₂ Refilled [body, body] (Checks.insertAll {} [body, body]).1 := by
  have h : nestedImports.parse.toOption.map (fun body => (importsOf body).length) = some 5 := by
    decide +kernel
  obtain ⟨body, hbody, hlength⟩ := exists_of_toOption_map h
  refine ⟨body, hbody, hlength, insertAll_hoists fun other ho => ⟨nestedImports, none, ?_⟩⟩
  simp only [List.mem_cons, List.not_mem_nil, or_false, or_self] at ho
  rw [ho]
  exact hbody

end DocSuite
