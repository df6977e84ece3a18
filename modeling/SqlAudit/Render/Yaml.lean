import SqlAudit.Render.Document
import SqlAudit.Render.Yaml.Scalar

/-! # YAML

Documents as YAML in block style. The entries of a list stand as far in as the key they belong to,
and an empty list or record is written between brackets.
-/

namespace SqlAudit.Render.Yaml

def margin (width : Nat) : String :=
  String.ofList (List.replicate width ' ')

/-- A text as the value of something that stands at the given width. -/
def scalarText (width : Nat) (s : String) : String :=
  String.ofList (scalarLine (margin (width + 2)).toList s)

mutual

/-- A value behind a key that stands at the given width. -/
def fieldValue (width : Nat) : Document → String
  | .text value => " " ++ scalarText width value
  | .number value => " " ++ toString value ++ "\n"
  | .list [] => " []\n"
  | .list (item :: rest) =>
    "\n" ++ margin width ++ "- " ++ itemValue width item ++ writeItems width rest
  | .record [] => " \x7b\x7d\n"
  | .record ((key, value) :: rest) =>
    "\n" ++ margin (width + 2) ++ key ++ ":" ++ fieldValue (width + 2) value ++
      writeFields (width + 2) rest

/-- A value behind a dash that stands at the given width. -/
def itemValue (width : Nat) : Document → String
  | .text value => scalarText width value
  | .number value => toString value ++ "\n"
  | .list [] => "[]\n"
  | .list (item :: rest) =>
    "- " ++ itemValue (width + 2) item ++ writeItems (width + 2) rest
  | .record [] => "\x7b\x7d\n"
  | .record ((key, value) :: rest) =>
    key ++ ":" ++ fieldValue (width + 2) value ++ writeFields (width + 2) rest

def writeItems (width : Nat) : List Document → String
  | [] => ""
  | item :: rest => margin width ++ "- " ++ itemValue width item ++ writeItems width rest

def writeFields (width : Nat) : List (String × Document) → String
  | [] => ""
  | (key, value) :: rest =>
    margin width ++ key ++ ":" ++ fieldValue width value ++ writeFields width rest

end

def render : Document → String
  | .text value => scalarText 0 value
  | .number value => toString value ++ "\n"
  | .list [] => "[]\n"
  | .list (item :: rest) => "- " ++ itemValue 0 item ++ writeItems 0 rest
  | .record [] => "\x7b\x7d\n"
  | .record ((key, value) :: rest) => key ++ ":" ++ fieldValue 0 value ++ writeFields 0 rest

end SqlAudit.Render.Yaml
