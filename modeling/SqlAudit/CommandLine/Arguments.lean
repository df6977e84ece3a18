import SqlAudit.CommandLine.Command
import SqlAudit.Text.Pieces

/-! # Arguments

A command is read from left to right. The value of an option may be the next argument; it is checked
when the next option comes or the arguments end, so that an unknown argument behind it is reported
first. An argument that begins with a hyphen is never taken as a value, except the hyphen alone.
-/

namespace SqlAudit.CommandLine

inductive Setting where
  | schema
  | queries
  | dialect
  | database
  | rows
  | format
  deriving DecidableEq, Repr, Inhabited

inductive Switch where
  | verbose
  | noColor
  deriving DecidableEq, Repr, Inhabited

inductive Item where
  | setting (s : Setting)
  | switch (s : Switch)
  | help
  deriving DecidableEq, Repr, Inhabited

structure Options where
  topic : Topic
  long : List (String × Item)
  short : List (Char × Item)

def Options.review : Options :=
  { topic := .review
    long :=
      [("schema", .setting .schema), ("queries", .setting .queries), ("dialect", .setting .dialect),
       ("database", .setting .database), ("rows", .setting .rows),
       ("output-format", .setting .format), ("verbose", .switch .verbose),
       ("no-color", .switch .noColor), ("help", .help)]
    short :=
      [('s', .setting .schema), ('q', .setting .queries), ('r', .setting .rows),
       ('f', .setting .format), ('v', .switch .verbose), ('h', .help)] }

def Options.rules : Options :=
  { topic := .rules
    long := [("no-color", .switch .noColor), ("help", .help)]
    short := [('h', .help)] }

structure Given where
  schema : Option String := none
  queries : Option String := none
  dialect : Option Dialect := none
  database : Option String := none
  rows : List String := []
  format : Option Render.Format := none
  verbose : Bool := false
  noColor : Bool := false
  /-- The option whose value is still to be checked, with the value if it is there. -/
  pending : Option (Setting × Option String) := none

def dialectNamed? : String → Option Dialect
  | "generic" => some .generic
  | "mysql" => some .mysql
  | "postgresql" => some .postgresql
  | "sqlite" => some .sqlite
  | _ => none

def formatNamed? : String → Option Render.Format
  | "text" => some .text
  | "json" => some .json
  | "yaml" => some .yaml
  | _ => none

def path? (value : String) : Option String :=
  if value.isEmpty then none else some value

namespace Given

/-- A value for something that may be given once. -/
def once {α : Type} (old : Option α) (new : Option α) : Except Refusal (Option α) :=
  match old, new with
  | some _, _ => .error .argumentConflict
  | none, none => .error .invalidValue
  | none, some value => .ok (some value)

def assign (g : Given) (value : String) : Setting → Except Refusal Given
  | .schema => do pure { g with schema := ← once g.schema (path? value) }
  | .queries => do pure { g with queries := ← once g.queries (path? value) }
  | .dialect => do pure { g with dialect := ← once g.dialect (dialectNamed? value) }
  | .database => do pure { g with database := ← once g.database (some value) }
  | .rows => .ok { g with rows := g.rows ++ [value] }
  | .format => do pure { g with format := ← once g.format (formatNamed? value) }

/-- Checks the value that is still to be checked. -/
def settle (g : Given) : Except Refusal Given :=
  match g.pending with
  | none => .ok g
  | some (_, none) => .error .invalidValue
  | some (s, some value) => assign { g with pending := none } value s

def turnOn (g : Given) : Switch → Except Refusal Given
  | .verbose => if g.verbose then .error .argumentConflict else .ok { g with verbose := true }
  | .noColor => if g.noColor then .error .argumentConflict else .ok { g with noColor := true }

/-- Takes in an option with the value attached to it, if there is one. -/
def take (topic : Topic) (g : Given) (item : Item) (attached : Option String) :
    Except Refusal Given :=
  match item, attached with
  | .setting s, some value => do (← g.settle).assign value s
  | .setting s, none => do pure { ← g.settle with pending := some (s, none) }
  | .switch _, some _ | .help, some _ => .error .tooManyValues
  | .switch s, none => do (← g.settle).turnOn s
  | .help, none => do
    let _ ← g.settle
    throw (.help topic)

def takeLong (options : Options) (g : Given) (argument : String) : Except Refusal Given :=
  let (name, attached) := match Text.cut '=' argument with
    | some (name, value) => (name, some value)
    | none => (argument, none)
  match options.long.lookup name with
  | some item => g.take options.topic item attached
  | none => .error .unknownArgument

/-- Takes in an argument with one hyphen: switches, and an option whose value is the rest of the
argument. -/
def takeShort (options : Options) : Given → List Char → Except Refusal Given
  | g, [] => .ok g
  | g, c :: cs =>
    match options.short.lookup c, cs with
    | none, _ => .error .unknownArgument
    | some (.setting s), [] => g.take options.topic (.setting s) none
    | some (.setting s), '=' :: value =>
      g.take options.topic (.setting s) (some (String.ofList value))
    | some (.setting s), value => g.take options.topic (.setting s) (some (String.ofList value))
    | some item, cs => do takeShort options (← g.take options.topic item none) cs

/-- Takes in the arguments of a command. Nothing may follow two hyphens that stand alone. -/
def takeAll (options : Options) : Given → List String → Except Refusal Given
  | g, [] => g.settle
  | g, argument :: rest =>
    match argument.toList with
    | ['-', '-'] => if rest.isEmpty then g.settle else .error .unknownArgument
    | '-' :: '-' :: name => do takeAll options (← g.takeLong options (String.ofList name)) rest
    | '-' :: c :: cs => do takeAll options (← g.takeShort options (c :: cs)) rest
    | _ =>
      match g.pending with
      | some (s, none) => takeAll options { g with pending := some (s, some argument) } rest
      | _ => .error .unknownArgument

/-- The review that is asked for. The environment may name the database if no option does. -/
def request (g : Given) (environment : Option String) : Except Refusal ReviewRequest :=
  match g.schema, g.queries with
  | some schema, some queries =>
    .ok
      { schema, queries
        dialect := g.dialect.getD .generic
        database := g.database.or environment
        rows := g.rows
        format := g.format.getD .text
        verbose := g.verbose
        noColor := g.noColor }
  | _, _ => .error .missingRequiredArgument

end Given

def helpTopic : List String → Except Refusal Topic
  | [] => .ok .program
  | ["review"] => .ok .review
  | ["rules"] => .ok .rules
  | ["help"] => .ok .help
  | _ => .error .invalidSubcommand

def programOption : List Char → Refusal
  | 'h' :: _ => .help .program
  | 'V' :: _ => .version
  | _ => .unknownArgument

def programLongOption (argument : String) : Refusal :=
  match Text.cut '=' argument with
  | some (name, _) => if name = "help" || name = "version" then .tooManyValues else .unknownArgument
  | none =>
    if argument = "help" then .help .program
    else if argument = "version" then .version
    else .unknownArgument

def commandNames : List String := ["review", "rules", "help"]

/-- Reads the arguments of the program. The environment may name the database. -/
def Command.read (environment : Option String) : List String → Except Refusal Command
  | [] => .error .nothingAsked
  | "review" :: rest => do
    let given ← Given.takeAll .review {} rest
    pure (.review (← given.request environment))
  | "rules" :: rest => do
    let given ← Given.takeAll .rules {} rest
    pure (.rules given.noColor)
  | "help" :: rest => do throw (.help (← helpTopic rest))
  | argument :: rest =>
    match argument.toList with
    | ['-', '-'] =>
      match rest with
      | [] => .error .nothingAsked
      | name :: _ =>
        .error (if commandNames.contains name then .unknownArgument else .invalidSubcommand)
    | '-' :: '-' :: name => .error (programLongOption (String.ofList name))
    | '-' :: c :: cs => .error (programOption (c :: cs))
    | _ => .error .invalidSubcommand

end SqlAudit.CommandLine
