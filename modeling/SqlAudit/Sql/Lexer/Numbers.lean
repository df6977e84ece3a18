import SqlAudit.Sql.Dialect
import SqlAudit.Sql.Lexer.Fault
import SqlAudit.Text.Hex

/-! # Numbers

A number has digits, a fraction and an exponent, as in `1`, `.5`, `1.` and `2e-3`. A lone point is a
symbol. In MySQL a word may begin with digits, so what looks like a number may be one.
-/

namespace SqlAudit.Sql

/-- The leading digits; where digits may be grouped, an underscore before a digit belongs to them.
-/
def digitRun (grouped : Bool) (isDigit : Char → Bool) : List Char → List Char × List Char
  | [] => ([], [])
  | c :: cs =>
    if isDigit c || (grouped && c = '_' && cs.head?.any Text.isHexDigit) then
      let r := digitRun grouped isDigit cs
      (c :: r.1, r.2)
    else ([], c :: cs)

/-- The exponent at the front, and the rest; an `e` without digits is none. -/
def exponentRun (cs : List Char) : List Char × List Char :=
  match cs with
  | e :: rest =>
    if e = 'e' || e = 'E' then
      let (sign, rest) := match rest with
        | c :: rest' => if c = '+' || c = '-' then ([c], rest') else ([], rest)
        | [] => ([], [])
      let (digits, rest) := takeRun Char.isDigit rest
      if digits.isEmpty then ([], cs) else (e :: sign ++ digits, rest)
    else ([], cs)
  | [] => ([], [])

/-- The number or point at the front, given the token that touches it on the left. -/
def scanNumber (d : Dialect) (before : Option Token) (cs : List Char) : Scan :=
  let afterWord := match before with
    | some (.word _ _) => true
    | _ => false
  match cs with
  | '.' :: '_' :: rest =>
    if afterWord then .ok (.symbol ".", '_' :: rest) else .error ⟨"Unexpected character '_'", cs⟩
  | _ =>
    let (whole, rest) := digitRun d.groupsDigits Char.isDigit cs
    match whole, rest with
    | ['0'], 'x' :: rest =>
      let (digits, rest) := digitRun d.groupsDigits Text.isHexDigit rest
      .ok (.string .hex (String.ofList digits), rest)
    | _, _ =>
      let (point, rest) := match rest with
        | '.' :: rest' => (['.'], rest')
        | _ => ([], rest)
      if whole.isEmpty && d.hasDigitWords && afterWord then .ok (.symbol ".", rest)
      else
        let (fraction, rest) := digitRun d.groupsDigits Char.isDigit rest
        let number := whole ++ point ++ fraction
        if number = ['.'] then .ok (.symbol ".", rest)
        else
          let (exponent, rest) := exponentRun rest
          let (tail, afterTail) := takeRun d.isWordPart rest
          if d.hasDigitWords && exponent.isEmpty && !tail.isEmpty then
            .ok (.word (String.ofList (number ++ tail)) none, afterTail)
          else if d.hasDigitWords && !exponent.isEmpty && before = some (.symbol ".") then
            .ok (.word (String.ofList (number ++ exponent)) none, rest)
          else
            match rest with
            | 'L' :: rest => .ok (.number (String.ofList (number ++ exponent)) true, rest)
            | _ => .ok (.number (String.ofList (number ++ exponent)) false, rest)

end SqlAudit.Sql
