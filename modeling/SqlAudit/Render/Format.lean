import SqlAudit.Render.Json
import SqlAudit.Render.Plain
import SqlAudit.Render.Yaml

/-! # Formats of reports -/

namespace SqlAudit.Render

inductive Format where
  | text
  | json
  | yaml
  deriving DecidableEq, Repr, Inhabited

/-- How a report is written; colours and details are for the text format only. -/
structure Options where
  format : Format := .text
  colored : Bool := true
  verbose : Bool := false
  deriving DecidableEq, Repr, Inhabited

def report (options : Options) (entries : List ScriptEntry) : String :=
  match options.format with
  | .text => plainText options.colored options.verbose entries
  | .json => Json.render (.ofEntries entries)
  | .yaml => Yaml.render (.ofEntries entries)

end SqlAudit.Render
