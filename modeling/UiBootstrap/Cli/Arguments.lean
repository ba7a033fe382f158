import UiBootstrap.Text.Basic

/-!
# Arguments

The arguments of the program are read from front to back. The first names a subcommand; after it
come options and, where there is one, the template. A request for help is honoured where it is met,
and any fault before it counts first. What the options may not do together is checked at the end.

An option that takes a value has it in the same argument, behind an equals sign or right behind the
letter, or in the next one, which may then not look like an option. Behind two dashes nothing is an
option. No option may be given twice, and no path may be empty.
-/

namespace UiBootstrap.Cli

/-- What the program is asked to do. -/
inductive Command where
  /-- Print the fragment. -/
  | render (base : Bool) (config : Option Text)
  /-- Print the fragment for the call that sets up authorization. -/
  | renderOauth
  /-- Print how each variable was resolved, as JSON or for a human reader. -/
  | explain (base human : Bool) (config : Option Text)
  /-- Put the script into the call region of a template. -/
  | inject (template : Text) (config : Option Text)
  deriving DecidableEq, Repr

/-- What the arguments ask for. -/
inductive Request where
  | run (command : Command)
  | help
  | version
  deriving DecidableEq, Repr

/-- The subcommands. -/
inductive Subcommand where
  | render
  | explain
  | inject
  deriving DecidableEq, Repr

/-- The options without a value. -/
inductive Flag where
  | base
  | oauth
  | human
  deriving DecidableEq, Repr

namespace Subcommand

/-- Every subcommand by name. -/
def all : List (Text × Subcommand) :=
  [("render", .render), ("explain", .explain), ("inject", .inject)]

/-- The subcommand with a name. -/
def ofName? (name : Text) : Option Subcommand := all.lookup name

/-- The flags of a subcommand, by name. -/
def flags : Subcommand → List (Text × Flag)
  | .render => [("base", .base), ("oauth", .oauth)]
  | .explain => [("base", .base), ("human", .human)]
  | .inject => []

/-- Whether a subcommand takes a template. -/
def takesTemplate : Subcommand → Bool
  | .inject => true
  | _ => false

end Subcommand

/-- What one argument is. -/
inductive Token where
  /-- No option. -/
  | positional
  /-- Two dashes, behind which nothing is an option. -/
  | escape
  | help
  | flag (flag : Flag)
  /-- The option for an overrides file, with its path if that is in the same argument. -/
  | config (path : Option Text)
  | unknown
  deriving DecidableEq, Repr

/-- What a long option is, read behind its dashes. -/
def Token.ofLong (sub : Subcommand) (body : Text) : Token :=
  let name := body.takeWhile (· ≠ '=')
  let value := (body.dropWhile (· ≠ '=')).tail?
  if name = "config" then .config value
  else if value.isSome then .unknown
  else if name = "help" then .help
  else (sub.flags.lookup name).elim .unknown .flag

/-- What a short option is, read behind its dash. -/
def Token.ofShort : Text → Token
  | [] => .positional
  | c :: rest =>
    if c = 'h' then .help
    else if c = 'c' then
      match rest with
      | [] => .config none
      | '=' :: path => .config (some path)
      | path => .config (some path)
    else .unknown

/-- What an argument is. -/
def Token.of (sub : Subcommand) : Text → Token
  | ['-', '-'] => .escape
  | '-' :: '-' :: body => .ofLong sub body
  | '-' :: body => .ofShort body
  | _ => .positional

/-- Whether an argument looks like an option, and so cannot be the value of the one before it. -/
def looksLikeOption : Text → Bool
  | '-' :: _ :: _ => true
  | _ => false

/-- The options and the template that have been read so far. -/
structure Found where
  flags : List Flag := []
  config : Option Text := none
  template : Option Text := none
  deriving DecidableEq, Repr

namespace Found

/-- Notes a flag, unless it has been given before. -/
def addFlag? (found : Found) (flag : Flag) : Option Found :=
  if flag ∈ found.flags then none else some { found with flags := flag :: found.flags }

/-- Notes the path of an overrides file, unless it is empty or there is one already. -/
def addConfig? (found : Found) (path : Text) : Option Found :=
  if path.isEmpty ∨ found.config.isSome then none else some { found with config := some path }

/-- Notes the template, unless none is wanted, it is empty, or there is one already. -/
def addTemplate? (found : Found) (sub : Subcommand) (path : Text) : Option Found :=
  if ¬ sub.takesTemplate ∨ path.isEmpty ∨ found.template.isSome then none
  else some { found with template := some path }

/-- The command that the options make up, if they agree with each other. -/
def command? (found : Found) : Subcommand → Option Command
  | .render =>
    if .oauth ∈ found.flags then
      if .base ∈ found.flags ∨ found.config.isSome then none else some .renderOauth
    else some (.render (.base ∈ found.flags) found.config)
  | .explain => some (.explain (.base ∈ found.flags) (.human ∈ found.flags) found.config)
  | .inject => found.template.map fun template => .inject template found.config

end Found

/-- Reads the arguments behind a subcommand; `escaped` says whether two dashes have been met. -/
def scan (sub : Subcommand) (escaped : Bool) (found : Found) : List Text → Option Request
  | [] => (found.command? sub).map .run
  | arg :: rest =>
    match if escaped then .positional else Token.of sub arg with
    | .positional => (found.addTemplate? sub arg).bind fun found => scan sub escaped found rest
    | .escape => scan sub true found rest
    | .help => some .help
    | .flag flag => (found.addFlag? flag).bind fun found => scan sub escaped found rest
    | .config (some path) => (found.addConfig? path).bind fun found => scan sub escaped found rest
    | .config none =>
      match rest with
      | [] => none
      | path :: rest =>
        if looksLikeOption path then none
        else (found.addConfig? path).bind fun found => scan sub escaped found rest
    | .unknown => none

/-- Reads the arguments behind the word `help`: the name of one subcommand, or nothing. -/
def helpRequest? : List Text → Option Request
  | [] => some .help
  | [name] => if name = "help" ∨ (Subcommand.ofName? name).isSome then some .help else none
  | _ => none

/-- Reads a first argument that names no subcommand: a request for help or for the version. -/
def topRequest? (arg : Text) : Option Request :=
  if arg = "--help" then some .help
  else if arg = "--version" then some .version
  else
    match arg with
    | '-' :: 'h' :: _ => some .help
    | '-' :: 'V' :: _ => some .version
    | _ => none

/-- What the arguments ask for; none if they are at fault. -/
def Request.ofArguments? : List Text → Option Request
  | [] => none
  | arg :: rest =>
    if arg = "help" then helpRequest? rest
    else
      match Subcommand.ofName? arg with
      | some sub => scan sub false {} rest
      | none => topRequest? arg

end UiBootstrap.Cli
