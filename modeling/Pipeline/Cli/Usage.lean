import Pipeline.Cli.Arguments

/-!
# Help and usage

What is shown when a command line asks for help or cannot be understood (specification, section 15).
-/

namespace Pipeline.Cli

/-- The name and the number of the program. -/
def versionText : String := "nodecd 0.1.0\n"

/-- The options of both levels, with what they are for. -/
def commonOptions : List (String × String) :=
  [("-v, --verbose", "Enable verbose logging"),
    ("    --config <CONFIG>", "Path to pipeline configuration file (skips discovery)"),
    ("-C, --directory <DIRECTORY>", "Working directory for discovery and commands"),
    ("-h, --help", "Print help")]

/-- The options of a level, with what they are for. -/
def Level.options : Level → List (String × String)
  | .top => commonOptions ++ [("-V, --version", "Print version")]
  | .run =>
    [("    --json", "Print the outcome as JSON when the pipeline finishes"),
      ("    --max-output-lines <MAX_OUTPUT_LINES>", "Truncate step output to this many lines")] ++
      commonOptions
  | .validate => ("    --json", "Output the parsed configuration in JSON format") :: commonOptions

/-- What a level is about. -/
def Level.about : Level → String
  | .top => "Runs the build/test pipeline described in nodecd.yaml"
  | .run => "Run the pipeline"
  | .validate => "Validate the pipeline configuration and print the compiled plan"

/-- How a level is used. -/
def Level.usage : Level → String
  | .top => "Usage: nodecd [OPTIONS] <COMMAND>"
  | .run => "Usage: nodecd run [OPTIONS]"
  | .validate => "Usage: nodecd validate [OPTIONS]"

/-- Rows in two columns. -/
def columns (rows : List (String × String)) : String :=
  let width := (rows.map fun r => r.1.length).foldl max 0
  String.join <| rows.map fun r =>
    "  " ++ r.1 ++ String.ofList (List.replicate (width - r.1.length) ' ') ++ "  " ++ r.2 ++ "\n"

/-- The commands, with what they are for. -/
def commandRows : List (String × String) :=
  [("run", Level.run.about), ("validate", Level.validate.about),
    ("help", "Print this message or the help of the given subcommand(s)")]

/-- The help about a level. -/
def Level.help (level : Level) : String :=
  level.about ++ "\n\n" ++ level.usage ++ "\n\n" ++
    (if level = .top then "Commands:\n" ++ columns commandRows ++ "\n" else "") ++
    "Options:\n" ++ columns level.options

namespace UsageError

/-- Whether the command line asked for what is shown. -/
def isAnswer : UsageError → Bool
  | displayHelp _ | displayVersion => true
  | _ => false

/-- What is shown. -/
def message : UsageError → String
  | displayHelp level => level.help
  | displayHelpOnMissingArgumentOrSubcommand => Level.top.help
  | displayVersion => versionText
  | invalidSubcommand => "error: unrecognized subcommand\n"
  | missingSubcommand => "error: a subcommand is required but one was not provided\n"
  | unknownArgument => "error: unexpected argument found\n"
  | argumentConflict => "error: an argument cannot be used multiple times\n"
  | invalidValue => "error: a value is required for an argument but none was supplied\n"
  | valueValidation => "error: invalid value for an argument\n"
  | tooManyValues => "error: unexpected value for an argument\n"

end UsageError

end Pipeline.Cli
