import SqlppBench.Command.Arguments

/-! # Help

What is printed for someone who asks for help, and what is said about arguments that are of no use.
-/

namespace SqlppBench

namespace Switch

/-- What a switch is for. -/
def summary : Switch → String
  | .file => "Configuration file path"
  | .config => "Configuration file path"
  | .verbose => "Enable verbose logging"
  | .logJson => "Emit logs as JSON lines"
  | .url => "Query service URL"
  | .scope => "Scope (dataverse) holding the relation"
  | .relation => "Relation (dataset) to operate on"
  | .batchInserts => "Inserts per statement"
  | .batchUpdates => "Updates per statement"
  | .upsert => "Use UPSERT for inserts"
  | .printStatements => "Log every statement sent"
  | .json => "Print the schema as JSON"
  | .fields => "Fields to return (all when omitted)"
  | .records => "Number of records to insert"
  | .clients => "Number of concurrent clients"
  | .fieldLength => "Bytes per generated field value"
  | .keyPrefix => "Prefix of generated keys"
  | .help => "Print help"
  | .version => "Print version"

/-- How a switch is written. -/
def usage (s : Switch) : String :=
  let letter := match s.letter? with
    | some c => String.ofList ['-', c, ',', ' ']
    | none => "    "
  let valueName := String.ofList (s.name.toList.map fun c => if c == '-' then '_' else c.toUpper)
  letter ++ "--" ++ s.name ++ (if s.takesValue then " <" ++ valueName ++ ">" else "")

end Switch

/-- How a place is written. -/
def Place.usage : Place → String
  | .key => "<KEY>"
  | .start => "<START>"
  | .count => "<COUNT>"
  | .assignments => "[FIELD=VALUE]..."

/-- A line of help: a term and what it is about. -/
def helpLine (term about : String) : String :=
  "  " ++ term ++ String.ofList (List.replicate (36 - term.length) ' ') ++ " " ++ about

/-- The help on a part of the command line. -/
def Level.helpText (l : Level) : String :=
  let usage := match l with
    | .top => "Usage: asterbench [OPTIONS] <COMMAND>"
    | .command c => " ".intercalate
        (["Usage: asterbench", c.name, "[OPTIONS]"] ++ c.places.map Place.usage)
  let commands := match l with
    | .top => ["", "Commands:"] ++ CommandName.all.map fun c => helpLine c.name c.summary
    | .command c => ["", c.summary]
  let options := l.switches.filter (· != .config) |>.map fun s => helpLine s.usage s.summary
  "\n".intercalate ([usage] ++ commands ++ ["", "Options:"] ++ options)

/-- What is said about arguments that are of no use. -/
def UsageFault.message : UsageFault → String
  | .unknownArgument argument => "unexpected argument '" ++ argument ++ "' found"
  | .unknownCommand word => "unrecognized subcommand '" ++ word ++ "'"
  | .missingArgument => "the required arguments were not provided"
  | .badValue value => "invalid value '" ++ value ++ "'"
  | .missingValue s => "a value is required for '--" ++ s.name ++ "'"
  | .repeatedSwitch s => "the argument '--" ++ s.name ++ "' cannot be used multiple times"
  | .surplusValue s => "unexpected value for '--" ++ s.name ++ "'"
  | .missingCommand => "a command is required"
  | .noArguments | .help => Level.top.helpText
  | .version => ""

end SqlppBench
