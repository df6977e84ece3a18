/-! # Cutting and joining text

`splitOn` cuts a text at every occurrence of a character and `joinWith` puts pieces together again;
a text always has one piece more than separators, so `joinWith` undoes `splitOn`.
-/

namespace SqlAudit.Text

/-- The pieces between the occurrences of a separator; never empty. -/
def splitChars (separator : Char) : List Char → List (List Char)
  | [] => [[]]
  | c :: cs =>
    if c = separator then [] :: splitChars separator cs
    else
      match splitChars separator cs with
      | [] => [[c]]
      | piece :: rest => (c :: piece) :: rest

def splitOn (separator : Char) (s : String) : List String :=
  (splitChars separator s.toList).map String.ofList

/-- The texts one after the other with a separator between neighbours. -/
def joinWith (separator : String) : List String → String
  | [] => ""
  | [s] => s
  | s :: rest => s ++ separator ++ joinWith separator rest

/-- The parts before and after the first occurrence of a separator. -/
def cutChars (separator : Char) : List Char → Option (List Char × List Char)
  | [] => none
  | c :: cs =>
    if c = separator then some ([], cs)
    else (cutChars separator cs).map fun parts => (c :: parts.1, parts.2)

def cut (separator : Char) (s : String) : Option (String × String) :=
  (cutChars separator s.toList).map fun parts => (String.ofList parts.1, String.ofList parts.2)

/-- The text with every occurrence of one character replaced by a text. -/
def replaceChar (c : Char) (text s : String) : String :=
  String.ofList (s.toList.flatMap fun d => if d = c then text.toList else [d])

def removeChar (c : Char) (s : String) : String :=
  String.ofList (s.toList.filter (· != c))

/-- What follows a given beginning, if the characters start with it. -/
def dropStart : List Char → List Char → Option (List Char)
  | [], cs => some cs
  | _ :: _, [] => none
  | p :: ps, c :: cs => if p = c then dropStart ps cs else none

/-- What follows the first occurrence of a pattern, if it occurs. -/
def afterFirst (pattern : List Char) : List Char → Option (List Char)
  | [] => dropStart pattern []
  | c :: cs =>
    match dropStart pattern (c :: cs) with
    | some rest => some rest
    | none => afterFirst pattern cs

end SqlAudit.Text
