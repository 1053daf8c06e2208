import DocSuite.Syntax.Literal

/-!
The body of an interpolated string: where its plain text ends, and where the expression of a
field ends. Main statement: what ends a run of plain text is a brace or the end of the body.
-/
namespace DocSuite.Syntax

/-- A run of plain text. -/
structure PlainRun where
  text : List Char
  rest : List Char
  /-- A brace was written twice: the text goes on behind it. -/
  doubled : Bool
  deriving DecidableEq, Repr

namespace PlainRun

def add (cs : List Char) (run : PlainRun) : PlainRun := { run with text := cs ++ run.text }

end PlainRun

/-- Reads plain text; `before` is an escape that a brace may end. Braces are doubled at the outer
level only, `top`. -/
def plainRun (isRaw top : Bool) (fuel : Nat) (cs : List Char) : Except Fault PlainRun :=
  match fuel, cs with
  | 0, cs => .ok ⟨[], cs, false⟩
  | _, [] => .ok ⟨[], [], false⟩
  | fuel + 1, c :: cs =>
      if c = '\\' ∧ !isRaw then
        match cs with
        | 'N' :: '{' :: inner =>
            let name := inner.takeWhile (· != '}')
            let read := 'N' :: '{' :: inner.take (name.length + 1)
            PlainRun.add (c :: read) <$> plainRun isRaw top fuel (inner.drop (name.length + 1))
        | 'N' :: d :: rest => PlainRun.add [c, 'N', d] <$> plainRun isRaw top fuel rest
        | d :: rest =>
            if d = '{' ∨ d = '}' then PlainRun.add [c] <$> brace d rest
            else PlainRun.add [c, d] <$> plainRun isRaw top fuel rest
        | [] => .ok ⟨[c], [], false⟩
      else if c = '{' ∨ c = '}' then brace c cs
      else PlainRun.add [c] <$> plainRun isRaw top fuel cs
where
  brace (c : Char) (cs : List Char) : Except Fault PlainRun :=
    if top then
      if cs.head? = some c then .ok ⟨[c], cs.drop 1, true⟩
      else if c = '}' then .error .loneBrace
      else .ok ⟨[], c :: cs, false⟩
    else .ok ⟨[], c :: cs, false⟩

/-- What follows the expression of a field. `quote` is the quote of the string in which the text
stands, with whether it is tripled; `brackets` are the open ones, the innermost first. -/
def fieldRest (fuel : Nat) (quote : Option (Char × Bool)) (brackets cs : List Char) :
    Except Fault (List Char) :=
  match fuel, cs with
  | _, [] =>
      match quote, brackets with
      | some _, _ => .error .fieldUnterminated
      | none, bracket :: _ => .error (.fieldUnmatched bracket)
      | none, [] => .ok []
  | 0, cs => .ok cs
  | fuel + 1, c :: cs =>
      if c = '\\' then .error .fieldBackslash
      else
        match quote with
        | some (q, triple) =>
            if c = q then
              if triple then
                match cs with
                | d :: e :: rest =>
                    if d = q ∧ e = q then fieldRest fuel none brackets rest
                    else fieldRest fuel quote brackets cs
                | _ => fieldRest fuel quote brackets cs
              else fieldRest fuel none brackets cs
            else fieldRest fuel quote brackets cs
        | none =>
            if c = '\'' ∨ c = '"' then
              match cs with
              | d :: e :: rest =>
                  if d = c ∧ e = c then fieldRest fuel (some (c, true)) brackets rest
                  else fieldRest fuel (some (c, false)) brackets cs
              | _ => fieldRest fuel (some (c, false)) brackets cs
            else if c = '[' ∨ c = '{' ∨ c = '(' then
              if 200 ≤ brackets.length then .error .fieldBrackets
              else fieldRest fuel none (c :: brackets) cs
            else if c = '#' then .error .fieldComment
            else if brackets.isEmpty ∧ endsField c then
              if (c = '!' ∨ c = '=' ∨ c = '<' ∨ c = '>') ∧ cs.head? = some '=' then
                fieldRest fuel none brackets (cs.drop 1)
              else if c = '>' ∨ c = '<' then fieldRest fuel none brackets cs
              else .ok (c :: cs)
            else if c = ']' ∨ c = '}' ∨ c = ')' then
              match brackets with
              | [] => .error (.fieldUnmatched c)
              | bracket :: outer =>
                  if (bracket = '(' ∧ c = ')') ∨ (bracket = '[' ∧ c = ']') ∨
                      (bracket = '{' ∧ c = '}') then
                    fieldRest fuel none outer cs
                  else .error (.fieldMismatched c bracket)
            else fieldRest fuel none brackets cs
where
  /-- Marks that end an expression, or may start an operator of two characters. -/
  endsField (c : Char) : Bool :=
    c == '!' || c == ':' || c == '}' || c == '=' || c == '<' || c == '>'

end DocSuite.Syntax
