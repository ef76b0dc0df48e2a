import Turnstile.Cli.Arguments

/-!
# Help

What the program says about itself. Commands and options are listed with an
explanation beside each, all explanations of a list in one column.

## Main definitions

* `Cli.Topic.page`: The help about a topic.
* `Cli.versionText`: The version.
-/

namespace Turnstile

namespace Cli

/-- The name of the program. -/
def programName : String := "remedy-queue"

/-- The version of the program. -/
def versionText : String := programName ++ " 0.1.0"

/-- A text filled up with blanks to a width. -/
def padded (width : Nat) (s : String) : String :=
  s ++ String.ofList (List.replicate (width - s.length) ' ')

/-- Terms, each with an explanation beside it. -/
def glossary (entries : List (String × String)) : List String :=
  let width := (entries.map fun e => e.1.length).foldl max 0
  entries.map fun (term, explanation) => "  " ++ padded width term ++ "  " ++ explanation

/-- How an option is shown. -/
def OptionName.term : OptionName → String
  | .verbose => "-v, --verbose"
  | .config => "-c, --config <CONFIG>"
  | .remedy => "    --remedy <REMEDY>"
  | .requests => "    --requests <REQUESTS>"
  | .group => "    --group <GROUP>"
  | .help => "-h, --help"
  | .version => "-V, --version"

/-- What an option is for. -/
def OptionName.explanation : OptionName → String
  | .verbose => "Enable verbose logging"
  | .config =>
    "Path to the configuration file (default: ~/.config/remedy-queue/config.toml)"
  | .remedy => "Remedy to run"
  | .requests => "Number of concurrent requests [default: 10]"
  | .group => "Value for the remedy's prioritization header"
  | .help => "Print help"
  | .version => "Print version"

/-- What a topic is about. -/
def Topic.about : Topic → String
  | .program => "Strategy-based admission queues with Prometheus metrics"
  | .serve => "Run the admission gateway"
  | .checkConfig => "Validate the configuration and print the configured remedies"
  | .simulate => "Send a burst of requests through a remedy and report the outcome"
  | .help => "Print this message or the help of the given subcommand(s)"

/-- How to call the program for what a topic is about. -/
def Topic.usage : Topic → String
  | .program => "[OPTIONS] [COMMAND]"
  | .serve => "serve [OPTIONS]"
  | .checkConfig => "check-config [OPTIONS]"
  | .simulate => "simulate [OPTIONS] --remedy <REMEDY>"
  | .help => "help [COMMAND]..."

/-- The options of a topic in the order in which they are shown. -/
def Topic.options : Topic → List OptionName
  | .program => [.verbose, .config, .help, .version]
  | .serve | .checkConfig => [.config, .help]
  | .simulate => [.remedy, .config, .requests, .group, .help]
  | .help => []

/-- The commands, each with what it is about. -/
def commandEntries : List (String × String) := [
  ("serve", Topic.serve.about),
  ("check-config", Topic.checkConfig.about),
  ("simulate", Topic.simulate.about),
  ("help", Topic.help.about)]

/-- A part of a page under a heading; without entries there is none. -/
def part (heading : String) (entries : List (String × String)) : List String :=
  if entries.isEmpty then [] else "" :: (heading ++ ":") :: glossary entries

/-- The help about a topic. -/
def Topic.page (t : Topic) : String :=
  let commands := if t = .program then commandEntries else []
  let arguments := if t = .help then [("[COMMAND]...", "Print help for the subcommand(s)")] else []
  "\n".intercalate (
    [t.about, "", "Usage: " ++ programName ++ " " ++ t.usage] ++
    part "Commands" commands ++
    part "Arguments" arguments ++
    part "Options" (t.options.map fun o => (o.term, o.explanation)))

end Cli

end Turnstile
