import Turnstile.Text.Digits

/-!
# Arguments

The command line: options, a command, and the options of the command. An option
has a long name, most have a letter as well, and letters may be put together
behind one dash. The value of an option follows as the next argument or is
attached to the option; the next argument is no value if it begins with a dash,
unless it is a single dash. No option may be given twice to the same command.

The option that names the configuration may stand before and after the command,
and what stands after it wins. Reading stops at the first mistake or at the
first option that asks for help or for the version, whichever comes first. A
value that is an argument of its own is looked at when the next option comes, or
else when all is read, so a mistake in it may be hidden by a command behind it
that asks for help.

## Main definitions

* `Cli.Command`, `Cli.Invocation`: What to do.
* `Cli.Topic`: What there is help about.
* `Cli.Stop`: Why there is nothing to do.
* `Cli.Scope`, `Cli.OptionName`: The options, and where each may stand.
* `Cli.Invocation.parse`: Reading a command line.
-/

namespace Turnstile

namespace Cli

/-- What the program is asked to do. -/
inductive Command where
  /-- Answer requests. -/
  | serve
  /-- Show the configuration. -/
  | checkConfig
  /-- Send a burst of requests for a remedy, perhaps all of one group. -/
  | simulate (remedy : String) (requests : Nat) (group : Option String)
deriving DecidableEq

/-- A command line that asks for something. -/
structure Invocation where
  /-- Whether to log more. -/
  verbose : Bool := false
  /-- The path of the configuration. -/
  config : Option String := none
  /-- What to do. -/
  command : Option Command := none
deriving DecidableEq

/-- What there is help about. -/
inductive Topic where
  /-- The program. -/
  | program
  /-- Answering requests. -/
  | serve
  /-- Showing the configuration. -/
  | checkConfig
  /-- Sending a burst of requests. -/
  | simulate
  /-- Help. -/
  | help
deriving DecidableEq

/-- Why a command line asks for nothing to be done. -/
inductive Stop where
  /-- It asks for help. -/
  | help (topic : Topic)
  /-- It asks for the version. -/
  | version
  /-- It has a mistake. -/
  | misuse
deriving DecidableEq

/-- Where an option stands: before the command or after it. -/
inductive Scope where
  /-- Before the command. -/
  | program
  /-- Behind the command to answer requests. -/
  | serve
  /-- Behind the command to show the configuration. -/
  | checkConfig
  /-- Behind the command to send a burst of requests. -/
  | simulate
deriving DecidableEq

namespace Scope

/-- What the help at a place is about. -/
def topic : Scope → Topic
  | program => .program
  | serve => .serve
  | checkConfig => .checkConfig
  | simulate => .simulate

/-- The place behind a command. -/
def ofCommand? : String → Option Scope
  | "serve" => some serve
  | "check-config" => some checkConfig
  | "simulate" => some simulate
  | _ => none

end Scope

/-- An option. -/
inductive OptionName where
  /-- Log more. -/
  | verbose
  /-- The path of the configuration. -/
  | config
  /-- The remedy to send requests for. -/
  | remedy
  /-- The number of requests. -/
  | requests
  /-- The group of the requests. -/
  | group
  /-- Ask for help. -/
  | help
  /-- Ask for the version. -/
  | version
deriving DecidableEq

namespace OptionName

/-- The long name of an option. -/
def long : OptionName → String
  | verbose => "verbose"
  | config => "config"
  | remedy => "remedy"
  | requests => "requests"
  | group => "group"
  | help => "help"
  | version => "version"

/-- The letter of an option. -/
def letter? : OptionName → Option Char
  | verbose => some 'v'
  | config => some 'c'
  | help => some 'h'
  | version => some 'V'
  | _ => none

/-- Whether an option has a value. -/
def takesValue : OptionName → Bool
  | config | remedy | requests | group => true
  | verbose | help | version => false

end OptionName

/-- The options that may stand at a place. -/
def Scope.options : Scope → List OptionName
  | program => [.verbose, .config, .help, .version]
  | serve | checkConfig => [.config, .help]
  | simulate => [.remedy, .requests, .group, .config, .help]

/-- What the options at one place say. -/
structure Given where
  /-- Whether to log more. -/
  verbose : Bool := false
  /-- The path of the configuration. -/
  config : Option String := none
  /-- The remedy to send requests for. -/
  remedy : Option String := none
  /-- The number of requests. -/
  requests : Option Nat := none
  /-- The group of the requests. -/
  group : Option String := none
  /-- The last option and its value, if that was not looked at yet. -/
  pending : Option (OptionName × String) := none

/-- A number of requests. -/
def count? (s : String) : Option Nat :=
  (Text.signedNatural? s.toList).filter (· < UInt64.size)

namespace Given

/-- Take an option without a value. -/
def flag (scope : Scope) (g : Given) : OptionName → Except Stop Given
  | .help => .error (.help scope.topic)
  | .version => .error .version
  | .verbose => if g.verbose then .error .misuse else .ok { g with verbose := true }
  | _ => .error .misuse

/-- Take an option with its value. A path is not empty. -/
def value (g : Given) (name : OptionName) (s : String) : Except Stop Given :=
  match name with
  | .config =>
    if g.config.isSome || s.isEmpty then .error .misuse else .ok { g with config := s }
  | .remedy => if g.remedy.isSome then .error .misuse else .ok { g with remedy := s }
  | .requests =>
    match g.requests, count? s with
    | none, some n => .ok { g with requests := n }
    | _, _ => .error .misuse
  | .group => if g.group.isSome then .error .misuse else .ok { g with group := s }
  | _ => .error .misuse

/-- Look at the value that was not looked at yet. -/
def settled (g : Given) : Except Stop Given :=
  match g.pending with
  | none => .ok g
  | some (name, s) => { g with pending := none }.value name s

end Given

/-- What an argument turns out to be. -/
inductive Argument where
  /-- Options are read, and the last one may still want its value. -/
  | options (given : Given) (wanting : Option OptionName)
  /-- The end of the options. -/
  | escape
  /-- Anything else. -/
  | plain (s : String)

/-- Read letters behind one dash. -/
def letters (scope : Scope) (g : Given) : List Char → Except Stop Argument
  | [] => .ok (.options g none)
  | c :: cs =>
    match scope.options.find? fun o => o.letter? == some c with
    | none => .error .misuse
    | some name =>
      if name.takesValue then
        match cs with
        | [] => .ok (.options g (some name))
        | '=' :: attached => do
          return .options (← g.value name (String.ofList attached)) none
        | attached => do return .options (← g.value name (String.ofList attached)) none
      else
        match g.flag scope name with
        | .ok g => letters scope g cs
        | .error stop => .error stop

/-- Read a long option behind two dashes. -/
def longOption (scope : Scope) (g : Given) (cs : List Char) : Except Stop Argument :=
  let name := String.ofList (cs.takeWhile (· != '='))
  match scope.options.find? fun o => o.long == name with
  | none => .error .misuse
  | some name =>
    match cs.dropWhile (· != '='), name.takesValue with
    | [], true => .ok (.options g (some name))
    | [], false => do return .options (← g.flag scope name) none
    | _ :: attached, true => do return .options (← g.value name (String.ofList attached)) none
    | _ :: _, false => .error .misuse

/-- Read an argument where no value is wanted. -/
def argument (scope : Scope) (g : Given) (s : String) : Except Stop Argument :=
  match s.toList with
  | ['-', '-'] => .ok .escape
  | '-' :: '-' :: cs => do longOption scope (← g.settled) cs
  | '-' :: c :: cs => do letters scope (← g.settled) (c :: cs)
  | _ => .ok (.plain s)

/-- Whether an argument may be the value of the option before it. -/
def mayBeValue (s : String) : Bool :=
  s == "-" || !s.startsWith "-"

/-- Read options up to the end, or up to the first argument that is none; this
    one and those behind it are left. Behind the end of the options nothing may
    follow. -/
def options (scope : Scope) : Given → List String → Except Stop (Given × List String)
  | g, [] => .ok (g, [])
  | g, s :: rest =>
    match argument scope g s with
    | .error stop => .error stop
    | .ok .escape => if rest.isEmpty then .ok (g, []) else .error .misuse
    | .ok (.plain s) => .ok (g, s :: rest)
    | .ok (.options g none) => options scope g rest
    | .ok (.options g (some name)) =>
      match rest with
      | [] => .error .misuse
      | v :: rest =>
        if mayBeValue v then options scope { g with pending := some (name, v) } rest
        else .error .misuse

/-- What is asked for by names behind the command for help. -/
def helpFor : List String → Stop
  | [] => .help .program
  | ["help"] => .help .help
  | [name] =>
    match Scope.ofCommand? name with
    | some scope => .help scope.topic
    | none => .misuse
  | _ => .misuse

/-- The command that a place stands behind. -/
def commandAt (scope : Scope) (g : Given) : Except Stop (Option Command) :=
  match scope with
  | .program => .ok none
  | .serve => .ok (some .serve)
  | .checkConfig => .ok (some .checkConfig)
  | .simulate =>
    match g.remedy with
    | some remedy => .ok (some (.simulate remedy (g.requests.getD 10) g.group))
    | none => .error .misuse

/-- Read a command line. -/
def Invocation.parse (arguments : List String) : Except Stop Invocation := do
  let (outer, rest) ← options .program {} arguments
  match rest with
  | [] =>
    let outer ← outer.settled
    return { verbose := outer.verbose, config := outer.config }
  | "help" :: names => .error (helpFor names)
  | name :: rest =>
    match Scope.ofCommand? name with
    | none => .error .misuse
    | some scope =>
      match ← options scope {} rest with
      | (inner, []) =>
        let inner ← inner.settled
        let outer ← outer.settled
        return {
          verbose := outer.verbose
          config := inner.config.or outer.config
          command := ← commandAt scope inner }
      | _ => .error .misuse

end Cli

end Turnstile
