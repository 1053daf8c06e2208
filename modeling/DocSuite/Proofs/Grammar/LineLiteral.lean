import DocSuite.Proofs.Grammar.Line

/-!
Lines that names, numbers and strings name. Main statement: the fields of an interpolated string
are read in its own lines, so that a fault in one of them is in a line of which something holds if
that is so of the lines of the string.
-/
namespace DocSuite.Syntax

/-! ### Parts of strings -/

/-- What a run leaves is part of the text. -/
def PlainRun.Leaves (cs : List Char) (result : Except Fault PlainRun) : Prop :=
  ∀ run, result = .ok run → run.rest.Sublist cs

namespace PlainRun.Leaves

variable {cs whole : List Char} {result : Except Fault PlainRun}

theorem ok {run : PlainRun} (h : run.rest.Sublist cs) : Leaves cs (.ok run) := by
  rintro _ ⟨⟩
  exact h

theorem add (h : Leaves cs result) (hs : cs.Sublist whole) (read : List Char) :
    Leaves whole (PlainRun.add read <$> result) := by
  cases result with
  | error fault => exact fun _ he => by cases he
  | ok run =>
    rintro _ ⟨⟩
    exact (h run rfl).trans hs

end PlainRun.Leaves

theorem leaves_brace (top : Bool) (c : Char) (cs : List Char) :
    PlainRun.Leaves (c :: cs) (plainRun.brace top c cs) := by
  unfold plainRun.brace
  split
  · split
    · exact .ok ((List.drop_sublist 1 cs).cons c)
    · split
      · exact fun _ he => by cases he
      · exact .ok (.refl _)
  · exact .ok (.refl _)

theorem leaves_plainRun (isRaw top : Bool) (fuel : Nat) (cs : List Char) :
    PlainRun.Leaves cs (plainRun isRaw top fuel cs) := by
  fun_induction plainRun isRaw top fuel cs
  case case1 | case2 => exact .ok (.refl _)
  case case3 ih | case4 ih | case6 ih | case9 ih => exact ih.add (by grind) _
  case case5 => exact (leaves_brace _ _ _).add (by grind) _
  case case7 => exact .ok (List.nil_sublist _)
  case case8 => exact leaves_brace _ _ _

theorem sublist_of_fieldRest {fuel : Nat} {quote : Option (Char × Bool)}
    {brackets cs rest : List Char} (h : fieldRest fuel quote brackets cs = .ok rest) :
    rest.Sublist cs := by
  -- Each branch fails, leaves the text, or goes on behind its first characters.
  fun_induction fieldRest fuel quote brackets cs <;>
    grind [List.drop_sublist, List.Sublist.trans]

theorem sublist_of_eq_cons {c : Char} {rest cs whole : List Char} (he : cs = c :: rest)
    (h : cs.Sublist whole) : rest.Sublist whole :=
  List.sublist_of_cons_sublist (he ▸ h)

theorem StringParts.sublist_body (spelling : List Char) :
    (StringParts.read spelling).body.Sublist spelling :=
  ((List.take_sublist _ _).trans (List.drop_sublist _ _)).trans (List.drop_sublist _ _)

namespace Grammar

variable {p : Nat → Prop}

/-! ### Names and numbers -/

instance : Within p nameText :=
  inferInstanceAs (Within p ((fun token => identifier token.text) <$> nameToken))

instance : Within p nameExpr := by
  unfold nameExpr
  infer_instance

instance (t : Terminal) (value : Literal) : Within p (constant t value) := by
  unfold constant
  infer_instance

instance : Within p number := by
  unfold number
  have (token : LinedValue p Token) (literal : Except Fault Literal) :
      Within p (match literal with
        | .ok value => pure ⟨token.value.line, .literal value⟩
        | .error fault => raiseAt token.value.line fault : P Expr) := by
    cases literal <;> infer_instance
  infer_instance

/-! ### Strings -/

/-- Reads the text of a field; its faults are in lines of which something holds. -/
def SettlesFields (p : Nat → Prop) (g : Env → Except SyntaxFault Expr) : Prop :=
  ∀ env fault, env.Within p → g env = .error fault → p fault.line

theorem Yields.orRaise {α : Type} {q : α → Prop} {result : Except Fault α}
    (h : ∀ a, result = .ok a → q a) : Yields p q (orRaise result) := by
  cases result with
  | ok a => exact pure (h a rfl)
  | error fault => exact raiseLast fault

theorem countBreaks_eq (cs : List Char) : countBreaks cs = cs.count '\n' := rfl

section

variable {g : Env → Except SyntaxFault Expr} (hg : SettlesFields p g) {token : Token}
  (ht : token.InLines p)

include hg ht

/-- The text of a field begins in the line where the field does. -/
theorem yields_fieldExpr {rest expr : List Char} (hr : rest.Sublist token.text)
    (he : expr.Sublist rest) (mark : Char) :
    Yields p (fun _ => True) (fieldExpr g token rest expr mark) := by
  unfold fieldExpr
  split
  · exact .raiseLast _
  · dsimp only
    split
    next => exact .pure trivial
    next fault hfault =>
      intro env state henv hs
      refine ⟨hg _ fault ?_ hfault, hs⟩
      refine tokensOf_within henv.numbered ?_ fun k hk => ?_
      · have hplain : '\r' ∉ expr := fun hm => ht.plain ((he.trans hr).mem hm)
        simpa using hplain
      · have hfield := he.count_le '\n'
        have hrest := hr.count_le '\n'
        have hk : k ≤ expr.count '\n' := by simpa [List.count_cons] using hk
        rw [countBreaks_eq, countBreaks_eq, Nat.add_assoc]
        exact ht.spelled _ (by omega)

theorem yields_interpolation (isRaw : Bool) (fuel level : Nat) (pieces : List Piece)
    {cs : List Char} (hcs : cs.Sublist token.text) :
    Yields p (fun out => out.2.Sublist token.text)
      (interpolation g token isRaw fuel level pieces cs) := by
  induction fuel generalizing level pieces cs with
  | zero =>
    unfold interpolation
    exact .pure hcs
  | succ fuel ih =>
    unfold interpolation
    refine .bind (.orRaise (leaves_plainRun _ _ _ _)) fun run hrun =>
      .bind (q := fun _ => True) (.orRaise fun _ _ => trivial) fun text _ => ?_
    dsimp only
    split
    · exact ih _ _ (hrun.trans hcs)
    · split
      · split
        · exact .raiseLast _
        · refine .bind (.orRaise fun _ => sublist_of_fieldRest) fun rest hrest => ?_
          split
          · exact .raiseLast _
          · rename_i inner heq _ _ mark after
            have hinner : inner.Sublist token.text :=
              sublist_of_eq_cons heq (hrun.trans hcs)
            have hafter : (mark :: after).Sublist token.text := hrest.trans hinner
            refine .bind (yields_fieldExpr hg ht hinner (List.take_sublist _ _) _) fun value _ => ?_
            generalize hs : (if mark = '=' then
                (some (inner.take
                  (inner.length - (after.dropWhile interpolation.isSpace).length)),
                  after.dropWhile interpolation.isSpace)
              else (none, mark :: after)) = shown
            have hshown : shown.2.Sublist token.text := by
              subst hs
              split
              · exact ((List.dropWhile_sublist _).cons _).trans hafter
              · exact hafter
            -- The conversion, the format and the end of the field each double what is left.
            repeat' first
              | with_reducible exact .raiseLast _
              | with_reducible refine ih _ _ ?_
              | with_reducible refine .pure ?_
              | with_reducible
                  refine .bind (q := fun out => out.2.Sublist token.text) ?_ fun out hout => ?_
              | split
            all_goals first
              | assumption
              | exact sublist_of_eq_cons ‹_› ‹_›
              | exact sublist_of_eq_cons rfl (sublist_of_eq_cons ‹_› ‹_›)
      · split
        · exact .raiseLast _
        · exact .pure (hrun.trans hcs)

theorem yields_addString (first : Bool) (sofar : Adjacent) :
    Yields p (fun _ => True) (addString g first sofar token) := by
  unfold addString
  dsimp only
  split
  · split
    · exact .raiseAt ht.line _
    · refine .bind (q := fun _ => True) (.orRaise fun _ _ => trivial) fun value _ => ?_
      split
      · exact .pure trivial
      · split
        · exact .pure trivial
        · exact .raiseLast _
  · split
    · split
      · exact .raiseLast _
      · refine .bind (yields_interpolation hg ht _ _ _ _ (StringParts.sublist_body _)) ?_
        exact fun _ _ => .pure trivial
    · refine .bind (q := fun _ => True) (.orRaise fun _ _ => trivial) fun value _ => ?_
      split
      · exact .raiseLast _
      · exact .pure trivial

end

theorem yields_addStrings {g : Env → Except SyntaxFault Expr} (hg : SettlesFields p g)
    (first : Bool) (sofar : Adjacent) {tokens : List Token}
    (ht : ∀ token ∈ tokens, token.InLines p) :
    Yields p (fun _ => True) (addStrings g first sofar tokens) := by
  induction tokens generalizing first sofar with
  | nil => exact .pure trivial
  | cons token tokens ih =>
    rw [List.forall_mem_cons] at ht
    exact .bind (yields_addString hg ht.1 first sofar) fun sofar _ => ih false sofar ht.2

theorem yields_adjacentStrings {g : Env → Except SyntaxFault Expr} (hg : SettlesFields p g) :
    Yields p (Expr.InLines p) (adjacentStrings g) := by
  unfold adjacentStrings
  refine .bind (Yields.many1 (.tokenThat _)) ?_
  rintro _ ⟨first, more, rfl, hfirst, hmore⟩
  refine .bind (yields_addStrings hg _ _ (List.forall_mem_cons.mpr ⟨hfirst, hmore⟩)) fun whole _ =>
    .pure (.mk hfirst.line ?_)
  split
  · exact List.forall_mem_nil _
  · exact List.forall_mem_nil _
  · split <;> exact List.forall_mem_nil _

end Grammar

end DocSuite.Syntax
