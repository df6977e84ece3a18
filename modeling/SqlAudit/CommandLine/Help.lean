import SqlAudit.CommandLine.Command

/-! # Help texts

What the program prints when it is asked for help or for its version.
-/

namespace SqlAudit.CommandLine

def versionText : String := "sql-review 0.1.0\n"

def page (lines : List String) : String :=
  String.join (lines.map (· ++ "\n"))

def programHelp : String :=
  page
    ["SQL Review - rule-based review of SQL statements against a schema",
     "",
     "Usage: sql-review <COMMAND>",
     "",
     "Commands:",
     "  review  Review SQL statements against schema",
     "  rules   List the enabled review rules",
     "  help    Print this message or the help of the given subcommand(s)",
     "",
     "Options:",
     "  -h, --help     Print help",
     "  -V, --version  Print version"]

/-- The help text on the review command; it shows the database that the environment names. -/
def reviewHelp (environment : Option String) : String :=
  page
    ["Review SQL statements against schema",
     "",
     "Usage: sql-review review [OPTIONS] --schema <SCHEMA> --queries <QUERIES>",
     "",
     "Options:",
     "  -s, --schema <SCHEMA>",
     "          Path to SQL schema file (CREATE TABLE / CREATE INDEX)",
     "  -q, --queries <QUERIES>",
     "          Path to SQL statements file (use - for stdin)",
     "      --dialect <DIALECT>",
     "          SQL dialect for parsing [default: generic] " ++
       "[possible values: generic, mysql, postgresql, sqlite]",
     "      --database <DATABASE>",
     "          Current database name for qualified table names [env: SQL_REVIEW_DATABASE=" ++
       environment.getD "" ++ "]",
     "  -r, --rows <TABLE=ROWS>",
     "          Estimated row count, as TABLE=ROWS (repeatable)",
     "  -f, --output-format <OUTPUT_FORMAT>",
     "          Output format [default: text] [possible values: text, json, yaml]",
     "  -v, --verbose",
     "          Show statement SQL and rule statistics",
     "      --no-color",
     "          Disable colored output",
     "  -h, --help",
     "          Print help"]

def rulesHelp : String :=
  page
    ["List the enabled review rules",
     "",
     "Usage: sql-review rules [OPTIONS]",
     "",
     "Options:",
     "      --no-color  Disable colored output",
     "  -h, --help      Print help"]

def helpHelp : String :=
  page
    ["Print this message or the help of the given subcommand(s)",
     "",
     "Usage: sql-review help [COMMAND]...",
     "",
     "Arguments:",
     "  [COMMAND]...  Print help for the subcommand(s)"]

def Topic.text (environment : Option String) : Topic → String
  | .program => programHelp
  | .review => reviewHelp environment
  | .rules => rulesHelp
  | .help => helpHelp

/-- What is said about arguments that are no command. -/
def Refusal.complaint (r : Refusal) : String :=
  let error (what : String) : String :=
    page ["error: " ++ what, "", "For more information, try '--help'."]
  match r with
  | .unknownArgument => error "unexpected argument found"
  | .invalidValue => error "invalid or missing value for an argument"
  | .argumentConflict => error "an argument cannot be used multiple times"
  | .tooManyValues => error "unexpected value for an argument that takes none"
  | .missingRequiredArgument =>
    error "the required arguments --schema <SCHEMA> and --queries <QUERIES> were not provided"
  | .invalidSubcommand => error "unrecognized subcommand"
  | .nothingAsked => programHelp
  | .help _ | .version => ""

end SqlAudit.CommandLine
