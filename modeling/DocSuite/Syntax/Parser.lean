import DocSuite.Syntax.Grammar.Compound

/-!
Reading the text of a sample. Rules are nested at most as deeply as a bound in the length of the
text allows: between two tokens there are fewer rules than the factor of the bound.
-/
namespace DocSuite.Syntax

/-- The statements of a text. -/
def parseText (text : List Char) : Except SyntaxFault (List Stmt) :=
  let text := Source.normalize text
  let env : Grammar.Env := { tokens := (tokensOf 1 text).toArray, source := Source.ofText 1 text }
  env.parse (Grammar.Rules.upTo (200 * (text.length + 2))).file

end DocSuite.Syntax
