import DocSuite.Proofs.ScopePart
import DocSuite.Proofs.Thunk
import DocSuite.Suite.Program

/-!
What functions do to names, and where the names that are read in them are found: in the nearest
function around that has them, or in the module. A module is refused if a name that is declared not
to be local is found in no function around. Main statement: names are imported by imports, and by no
other statement.
-/
namespace DocSuite

open DocSuite.Syntax

namespace Syntax

/-! ### Names of targets and patterns -/

mutual

/-- The names that a target binds. -/
def Expr.targetNames : Expr → List String
  | ⟨_, form⟩ => form.targetNames

def Form.targetNames : Form → List String
  | .name id => [id]
  | .starred value => value.targetNames
  | .list elements => targetNamesOf elements
  | .tuple elements => targetNamesOf elements
  | _ => []

def targetNamesOf : List Expr → List String
  | [] => []
  | e :: es => e.targetNames ++ targetNamesOf es

end

mutual

/-- The names that a pattern captures. -/
def Pattern.captures : Pattern → List String
  | .value _ => []
  | .singleton _ => []
  | .sequence patterns => capturesOf patterns
  | .star name => name.toList
  | .mapping _ patterns rest => capturesOf patterns ++ rest.toList
  | .construct _ positional _ named => capturesOf positional ++ capturesOf named
  | .capture none name => name.toList
  | .capture (some pattern) name => pattern.captures ++ name.toList
  | .either patterns => capturesOf patterns

def capturesOf : List Pattern → List String
  | [] => []
  | p :: ps => p.captures ++ capturesOf ps

end

/-! ### Uses of names -/

/-- What a name is to a function that mentions it. -/
inductive NameRole
  | parameter
  | imported
  /-- Bound by a statement that is no import. -/
  | bound
  /-- Bound by an expression that a function is made for. -/
  | moved
  /-- The name of a function that a check makes. -/
  | made
  | global
  | nonlocal
  deriving DecidableEq, Repr

/-- The name keeps this role when imports leave and checks are put in. -/
def NameRole.remains : NameRole → Bool
  | .parameter | .bound | .global | .nonlocal => true
  | .imported | .moved | .made => false

structure NameUse where
  role : NameRole
  name : String
  deriving DecidableEq, Repr

def usesAs (role : NameRole) (names : List String) : List NameUse := names.map (⟨role, ·⟩)

/-- The name that the import of a module binds: that of its package, unless it is renamed. -/
def Alias.moduleName (entry : Alias) : String :=
  entry.rename.getD (String.ofList (entry.name.toList.takeWhile (· ≠ '.')))

/-- The name that the import of a member of a module binds. Nobody knows what a star binds. -/
def Alias.memberName? (entry : Alias) : Option String :=
  if entry.name = "*" then none else some (entry.rename.getD entry.name)

def ScopePart.nameUses : ScopePart → List NameUse
  | .yields _ => []
  | .binds target => usesAs .bound target.targetNames

/-- What the statement does to names itself, its expressions apart. -/
def Simple.ownNameUses : Simple → List NameUse
  | .assign targets _ => usesAs .bound (targetNamesOf targets)
  | .augment target _ _ => usesAs .bound target.targetNames
  | .annotate target _ value bare =>
      if bare || value.isSome then usesAs .bound target.targetNames else []
  | .delete targets => usesAs .bound (targetNamesOf targets)
  | .global names => usesAs .global names
  | .nonlocal names => usesAs .nonlocal names
  | .importModules names => usesAs .imported (names.map Alias.moduleName)
  | .importFrom _ names _ => usesAs .imported (names.filterMap Alias.memberName?)
  | .expr _ | .ret _ | .raise _ _ | .assert _ _ | .pass | .break | .continue => []

def Simple.nameUses (form : Simple) : List NameUse :=
  form.ownNameUses ++ form.scopeParts.flatMap ScopePart.nameUses

def Head.ownNameUses (recorded : Bool) : Head → List NameUse
  | .function _ name _ _ _ => [⟨if recorded then .made else .bound, name⟩]
  | .classDef name _ _ _ => [⟨.bound, name⟩]
  | .forLoop _ target _ => usesAs .bound target.targetNames
  | .withItems _ items => usesAs .bound (targetNamesOf (items.filterMap Prod.snd))
  | .ifThen _ | .whileLoop _ | .matchOn _ | .tryBlock _ => []

def Head.nameUses (recorded : Bool) (head : Head) : List NameUse :=
  head.ownNameUses recorded ++ head.scopeParts.flatMap ScopePart.nameUses

def Label.ownNameUses : Label → List NameUse
  | .handler _ name => usesAs .bound name.toList
  | .case pattern _ => usesAs .bound pattern.captures
  | .body | .orelse | .finalbody => []

def Label.nameUses (label : Label) : List NameUse :=
  label.ownNameUses ++ label.scopeParts.flatMap ScopePart.nameUses

def Param.name : Param → String
  | ⟨name, _, _⟩ => name

def Params.nameUses : Params → List NameUse
  | ⟨positional, plain, rest, keywordOnly, keywordRest⟩ =>
      usesAs .parameter
        ((positional ++ plain ++ rest.toList ++ keywordOnly ++ keywordRest.toList).map Param.name)

mutual

/-- What the statement does to the names of the function in which it stands. -/
def Stmt.nameUses (scope : Scope) : Stmt → List NameUse
  | .simple site form =>
      if (Stmt.simple site form).isDelayedIn scope then
        usesAs .moved (form.nameUses.map NameUse.name)
      else form.nameUses
  | .compound site head blocks =>
      head.nameUses site.recorded ++
        if head.ownScope?.isSome then [] else nameUsesOfBlocks (scope.enter head) blocks

def nameUsesOfBlocks (scope : Scope) : List Block → List NameUse
  | [] => []
  | ⟨label, body⟩ :: rest =>
      label.nameUses ++ (nameUsesOf scope body ++ nameUsesOfBlocks scope rest)

def nameUsesOf (scope : Scope) : List Stmt → List NameUse
  | [] => []
  | stmt :: rest => stmt.nameUses scope ++ nameUsesOf scope rest

end

end Syntax

/-! ### Functions and the functions around them -/

/-- What private names start with, and do not end with. -/
def dunder : List Char := ['_', '_']

/-- The name that a name stands for in the functions of a class: private names have that of the
class in front of them. -/
def privateName (owner : Option String) (name : String) : String :=
  match owner.map fun owner => owner.toList.dropWhile (· = '_') with
  | none | some [] => name
  | some stem =>
      if dunder.isPrefixOf name.toList && !dunder.isSuffixOf name.toList then
        "_" ++ String.ofList stem ++ name
      else name

/-- The names of a function or of a class, as they are written in it. -/
structure FunctionScope where
  /-- The class around, or the class itself. -/
  owner : Option String
  uses : List NameUse
  deriving DecidableEq, Repr

namespace FunctionScope

/-- Some use gives the name this role. -/
def Has (scope : FunctionScope) (role : NameRole) (name : String) : Prop :=
  ∃ use ∈ scope.uses, use.role = role ∧ privateName scope.owner use.name = name

instance (scope : FunctionScope) (role : NameRole) (name : String) :
    Decidable (scope.Has role name) :=
  inferInstanceAs (Decidable (∃ use ∈ scope.uses, _))

def IsLocal (scope : FunctionScope) (name : String) : Prop :=
  scope.Has .parameter name ∨ scope.Has .imported name ∨ scope.Has .bound name ∨
    scope.Has .moved name ∨ scope.Has .made name

instance (scope : FunctionScope) (name : String) : Decidable (scope.IsLocal name) :=
  inferInstanceAs (Decidable (_ ∨ _ ∨ _ ∨ _ ∨ _))

/-- The names without those that imports bind, or expressions that functions are made for. -/
def remaining (scope : FunctionScope) : FunctionScope :=
  { scope with uses := scope.uses.filter fun use => use.role.remains }

/-- The functions of a class do not see its names, but the class itself by this one. -/
def classCell : FunctionScope := ⟨none, [⟨.bound, "__class__"⟩]⟩

/-- The function of a suite, which holds its cases. -/
def suite : FunctionScope := ⟨none, [⟨.bound, Case.functionName⟩]⟩

end FunctionScope

/-- A function or a class, and the functions around it from the inside to the outside. -/
structure ScopeChain where
  isClass : Bool
  scope : FunctionScope
  around : List FunctionScope
  deriving DecidableEq, Repr

/-- A name that is read in the first of some functions, each inside the next, is a name of none of
them: it is found in the module. A name that one of them declares nonlocal never is. -/
def PassesTo (name : String) : List FunctionScope → Prop
  | [] => True
  | scope :: around =>
      scope.Has .global name ∨
        (¬ scope.Has .nonlocal name ∧ ¬ scope.IsLocal name) ∧ PassesTo name around

instance decidablePassesTo (name : String) :
    (scopes : List FunctionScope) → Decidable (PassesTo name scopes)
  | [] => isTrue trivial
  | scope :: around =>
      have := decidablePassesTo name around
      inferInstanceAs (Decidable (scope.Has .global name ∨
        (¬ scope.Has .nonlocal name ∧ ¬ scope.IsLocal name) ∧ PassesTo name around))

/-- Some function binds the name, and none before it sends it to the module. -/
def FindsFunction (name : String) : List FunctionScope → Prop
  | [] => False
  | scope :: around =>
      ¬ scope.Has .global name ∧
        (¬ scope.Has .nonlocal name ∧ scope.IsLocal name ∨ FindsFunction name around)

instance decidableFindsFunction (name : String) :
    (scopes : List FunctionScope) → Decidable (FindsFunction name scopes)
  | [] => isFalse id
  | scope :: around =>
      have := decidableFindsFunction name around
      inferInstanceAs (Decidable (¬ scope.Has .global name ∧
        (¬ scope.Has .nonlocal name ∧ scope.IsLocal name ∨ FindsFunction name around)))

namespace ScopeChain

/-- What is written in the function is found in the module, and under the name that is written. -/
def FindsInModule (chain : ScopeChain) (name : String) : Prop :=
  privateName chain.scope.owner name = name ∧ PassesTo name (chain.scope :: chain.around)

instance (chain : ScopeChain) (name : String) : Decidable (chain.FindsInModule name) :=
  inferInstanceAs (Decidable (_ ∧ _))

/-- What is declared nonlocal is found in a function around. -/
def IsAccepted (chain : ScopeChain) : Prop :=
  ∀ use ∈ chain.scope.uses, use.role = .nonlocal →
    FindsFunction (privateName chain.scope.owner use.name) chain.around

instance (chain : ScopeChain) : Decidable chain.IsAccepted :=
  inferInstanceAs (Decidable (∀ use ∈ chain.scope.uses, _))

/-- A name that is read in one of some functions and classes reaches the module. The module is
refused if it does not accept all of them. -/
def ReachesModule (chains : List ScopeChain) (chain : ScopeChain) (name : String) : Prop :=
  (∀ other ∈ chains, other.IsAccepted) ∧ chain.FindsInModule name

instance (chains : List ScopeChain) (chain : ScopeChain) (name : String) :
    Decidable (ReachesModule chains chain name) :=
  inferInstanceAs (Decidable (_ ∧ _))

/-- The names without those that imports bind, or expressions that functions are made for. -/
def remaining (chain : ScopeChain) : ScopeChain :=
  { chain with
    scope := chain.scope.remaining, around := chain.around.map FunctionScope.remaining }

end ScopeChain

mutual

/-- The functions and classes that are written in the statement, at any depth. -/
def Syntax.Stmt.chains (owner : Option String) (around : List FunctionScope) :
    Stmt → List ScopeChain
  | .simple .. => []
  | .compound site head blocks =>
      match head with
      | .function isAsync _ params _ _ =>
          if site.recorded then []
          else
            let inner := if isAsync then .coroutine else .function
            let scope := ⟨owner, params.nameUses ++ nameUsesOfBlocks inner blocks⟩
            ⟨false, scope, around⟩ :: chainsOfBlocks owner (scope :: around) blocks
      | .classDef name _ _ _ =>
          ⟨true, ⟨some name, nameUsesOfBlocks .classBody blocks⟩, around⟩ ::
            chainsOfBlocks (some name) (.classCell :: around) blocks
      | _ => chainsOfBlocks owner around blocks

def chainsOfBlocks (owner : Option String) (around : List FunctionScope) :
    List Block → List ScopeChain
  | [] => []
  | ⟨_, body⟩ :: rest => chainsOf owner around body ++ chainsOfBlocks owner around rest

def chainsOf (owner : Option String) (around : List FunctionScope) : List Stmt → List ScopeChain
  | [] => []
  | stmt :: rest => stmt.chains owner around ++ chainsOf owner around rest

end

/-- The functions and classes of a sample: its own coroutine, and each that is written in it. -/
def scopeChainsOf (body : List Stmt) : List ScopeChain :=
  let scope := ⟨none, nameUsesOf .coroutine body⟩
  ⟨false, scope, [.suite]⟩ :: chainsOf none [scope, .suite] body

/-- The functions and classes of a case in its suite. -/
def Case.chains (case : Case) : List ScopeChain := case.statement.chains none [.suite]

/-! ### Roles of names -/

namespace Syntax

theorem role_of_mem_usesAs {role : NameRole} {names : List String} {use : NameUse}
    (h : use ∈ usesAs role names) : use.role = role := by
  obtain ⟨name, -, rfl⟩ := List.mem_map.mp h
  rfl

/-- All names keep their roles. -/
def Remaining (uses : List NameUse) : Prop := ∀ use ∈ uses, use.role.remains = true

theorem Remaining.append {uses others : List NameUse} (h : Remaining uses)
    (ho : Remaining others) : Remaining (uses ++ others) :=
  fun use hmem => (List.mem_append.mp hmem).elim (h use) (ho use)

theorem remaining_usesAs {role : NameRole} (names : List String) (h : role.remains = true) :
    Remaining (usesAs role names) := by
  intro use hmem
  rw [role_of_mem_usesAs hmem]
  exact h

theorem remaining_bound (names : List String) : Remaining (usesAs .bound names) :=
  remaining_usesAs names rfl

theorem remaining_scopeParts (parts : List ScopePart) :
    Remaining (parts.flatMap ScopePart.nameUses) := by
  intro use hmem
  obtain ⟨part, -, hpart⟩ := List.mem_flatMap.mp hmem
  cases part with
  | yields => cases hpart
  | binds target => exact remaining_bound _ use hpart

theorem Simple.remaining_nameUses {site : Site} {form : Simple}
    (h : (Stmt.simple site form).isImport = false) : Remaining form.nameUses := by
  refine Remaining.append ?_ (remaining_scopeParts _)
  cases form with
  | assign | augment | delete => exact remaining_bound _
  | annotate target hint value bare =>
    rw [ownNameUses]
    split
    · exact remaining_bound _
    · exact remaining_bound []
  | global | nonlocal => exact remaining_usesAs _ rfl
  | importModules | importFrom => cases h
  | _ => exact remaining_bound []

theorem Simple.role_of_mem_nameUses {site : Site} {form : Simple} {use : NameUse}
    (h : (Stmt.simple site form).isImport = true) (hm : use ∈ form.nameUses) :
    use.role = .imported := by
  cases form with
  | importModules names =>
    exact role_of_mem_usesAs (by simpa [nameUses, ownNameUses, scopeParts] using hm)
  | importFrom source names level =>
    exact role_of_mem_usesAs (by simpa [nameUses, ownNameUses, scopeParts] using hm)
  | _ => cases h

theorem Head.remaining_nameUses (head : Head) : Remaining (head.nameUses false) := by
  refine Remaining.append ?_ (remaining_scopeParts _)
  cases head with
  | function isAsync name => exact remaining_bound [name]
  | classDef name => exact remaining_bound [name]
  | forLoop | withItems => exact remaining_bound _
  | ifThen | whileLoop | matchOn | tryBlock => exact remaining_bound []

theorem Label.remaining_nameUses (label : Label) : Remaining label.nameUses := by
  refine Remaining.append ?_ (remaining_scopeParts _)
  cases label with
  | handler | case => exact remaining_bound _
  | body | orelse | finalbody => exact remaining_bound []

theorem Params.remaining_nameUses (params : Params) : Remaining params.nameUses := by
  obtain ⟨positional, plain, rest, keywordOnly, keywordRest⟩ := params
  exact remaining_usesAs _ rfl

@[simp] theorem nameUsesOf_append (scope : Scope) (as bs : List Stmt) :
    nameUsesOf scope (as ++ bs) = nameUsesOf scope as ++ nameUsesOf scope bs := by
  induction as with
  | nil => rfl
  | cons a as ih => simp [nameUsesOf, ih]

@[simp] theorem nameUsesOfBlocks_append (scope : Scope) (as bs : List Block) :
    nameUsesOfBlocks scope (as ++ bs) =
      nameUsesOfBlocks scope as ++ nameUsesOfBlocks scope bs := by
  induction as with
  | nil => rfl
  | cons a as ih =>
    obtain ⟨label, body⟩ := a
    simp [nameUsesOfBlocks, ih]

end Syntax

section

variable (owner : Option String) (around : List FunctionScope)

@[simp] theorem chainsOf_append (as bs : List Stmt) :
    chainsOf owner around (as ++ bs) = chainsOf owner around as ++ chainsOf owner around bs := by
  induction as with
  | nil => rfl
  | cons a as ih => simp [chainsOf, ih]

@[simp] theorem chainsOfBlocks_append (as bs : List Block) :
    chainsOfBlocks owner around (as ++ bs) =
      chainsOfBlocks owner around as ++ chainsOfBlocks owner around bs := by
  induction as with
  | nil => rfl
  | cons a as ih =>
    obtain ⟨label, body⟩ := a
    simp [chainsOfBlocks, ih]

end

namespace Case

variable (case : Case)

/-- A case binds one name in the function of its suite. -/
theorem nameUses_statement (scope : Scope) :
    case.statement.nameUses scope = FunctionScope.suite.uses := by
  have hscope : (Head.function case.isAsync functionName Params.empty
      [Check.supportCall "it" [Check.textExpr case.title]] none).ownScope?.isSome = true := by
    cases case.isAsync <;> rfl
  rw [statement, registered, Stmt.nameUses, if_pos hscope]
  simp [FunctionScope.suite, Head.nameUses, Head.ownNameUses, Head.scopeParts, scopePartsOf,
    scopeParts_supportCall, scopeParts_textExpr, Params.empty, Params.scopeParts,
    scopePartsOfParams, scopePartsOfOption]

/-- The functions and classes of a sample are those of its case. -/
theorem chains_eq_scopeChainsOf (h : case.isAsync = true) :
    case.chains = scopeChainsOf case.body := by
  have hlabel : Label.body.nameUses = [] := rfl
  have hparams : Params.empty.nameUses = [] := rfl
  cases hbody : case.body with
  | nil =>
    simp [chains, statement, registered, h, hbody, Stmt.chains, scopeChainsOf, chainsOf,
      chainsOfBlocks, nameUsesOf, nameUsesOfBlocks, hlabel, hparams, Stmt.pass, Stmt.nameUses,
      Stmt.isDelayedIn, Stmt.annotationKind?, Simple.nameUses, Simple.ownNameUses,
      Simple.scopeParts]
  | cons stmt rest =>
    simp [chains, statement, registered, h, hbody, Stmt.chains, scopeChainsOf, chainsOfBlocks,
      nameUsesOfBlocks, hlabel, hparams]

end Case

/-- Names of functions that checks make are private to no class. -/
theorem privateName_thunkName (owner : Option String) (n : Nat) :
    privateName owner (Ledger.thunkName n) = Ledger.thunkName n := by
  have hsuffix : dunder.isSuffixOf (Ledger.thunkName n).toList = true := by
    have hdunder : "__".toList = dunder := rfl
    rw [List.isSuffixOf_iff_suffix, Ledger.toList_thunkName, hdunder, ← List.append_assoc]
    exact List.suffix_append _ _
  rw [privateName, hsuffix]
  split <;> simp

theorem FunctionScope.has_remaining_iff (scope : FunctionScope) (role : NameRole)
    (name : String) :
    scope.remaining.Has role name ↔ scope.Has role name ∧ role.remains = true := by
  constructor
  · rintro ⟨use, hmem, rfl, hname⟩
    obtain ⟨hmem, hrole⟩ := List.mem_filter.mp hmem
    exact ⟨⟨use, hmem, rfl, hname⟩, hrole⟩
  · rintro ⟨⟨use, hmem, rfl, hname⟩, hrole⟩
    exact ⟨use, List.mem_filter.mpr ⟨hmem, hrole⟩, rfl, hname⟩

theorem ScopeChain.isAccepted_iff (chain : ScopeChain) :
    chain.IsAccepted ↔
      ∀ name, chain.scope.Has .nonlocal name → FindsFunction name chain.around := by
  constructor
  · rintro h name ⟨use, hmem, hrole, rfl⟩
    exact h use hmem hrole
  · exact fun h use hmem hrole => h _ ⟨use, hmem, hrole, rfl⟩

end DocSuite
