import PageCheck.InputKind

/-! The arguments of the command.  Options with a value take it from the same
argument or from the next one, letters may be joined, and two dashes end the
options.  Whoever gives an option twice, or something that does not belong there,
has not understood the command. -/

set_option autoImplicit false

namespace PageCheck

inductive OutputFormat where
  | text
  | json
  | yaml
deriving DecidableEq

structure Arguments where
  file : Option String
  config : Option String
  kind : Option InputKind
  format : Option OutputFormat
  extract : Bool
  verbosity : Nat

inductive Request where
  | check (arguments : Arguments) (file : String)
  | help
  | version
  | misuse

namespace Arguments

def none : Arguments :=
  ⟨.none, .none, .none, .none, false, 0⟩

inductive Valued where
  | config
  | kind
  | format
deriving DecidableEq

inductive Switch where
  | extract
  | verbose
  | help
  | version
deriving DecidableEq

inductive Flag where
  | valued (name : Valued)
  | switch (name : Switch)

def longFlag? (name : String) : Option Flag :=
  match name with
  | "config" => some (.valued .config)
  | "kind" => some (.valued .kind)
  | "format" => some (.valued .format)
  | "extract" => some (.switch .extract)
  | "verbose" => some (.switch .verbose)
  | "help" => some (.switch .help)
  | "version" => some (.switch .version)
  | _ => .none

def shortFlag? : Char → Option Flag
  | 'c' => some (.valued .config)
  | 'k' => some (.valued .kind)
  | 'f' => some (.valued .format)
  | 'v' => some (.switch .verbose)
  | 'h' => some (.switch .help)
  | 'V' => some (.switch .version)
  | _ => .none

def kindOf? : String → Option InputKind
  | "html" => some .html
  | "markdown" => some .markdown
  | _ => .none

def formatOf? : String → Option OutputFormat
  | "text" => some .text
  | "json" => some .json
  | "yaml" => some .yaml
  | _ => .none

def give (arguments : Arguments) (name : Valued) (value : String) : Option Arguments :=
  match name with
  | .config =>
      if arguments.config.isSome || value.isEmpty then .none
      else some { arguments with config := some value }
  | .kind =>
      if arguments.kind.isSome then .none
      else (kindOf? value).map fun kind => { arguments with kind := some kind }
  | .format =>
      if arguments.format.isSome then .none
      else (formatOf? value).map fun format => { arguments with format := some format }

def giveFile (arguments : Arguments) (value : String) : Option Arguments :=
  if arguments.file.isSome || value.isEmpty then .none
  else some { arguments with file := some value }

inductive Step where
  | going (arguments : Arguments)
  | awaiting (arguments : Arguments) (name : Valued)
  | stopped (request : Request)

def Step.ofGiven : Option Arguments → Step
  | .none => .stopped .misuse
  | some arguments => .going arguments

def turn (arguments : Arguments) : Switch → Step
  | .extract =>
      if arguments.extract then .stopped .misuse else .going { arguments with extract := true }
  | .verbose => .going { arguments with verbosity := arguments.verbosity + 1 }
  | .help => .stopped .help
  | .version => .stopped .version

/-- Letters behind one dash.  The rest behind a letter that takes a value is the
value; an equals sign before it does not belong to it. -/
def letters (arguments : Arguments) : List Char → Step
  | [] => .going arguments
  | letter :: rest =>
      match shortFlag? letter with
      | .none => .stopped .misuse
      | some (.valued name) =>
          match rest with
          | [] => .awaiting arguments name
          | '=' :: value => .ofGiven (arguments.give name (String.ofList value))
          | value => .ofGiven (arguments.give name (String.ofList value))
      | some (.switch name) =>
          match arguments.turn name with
          | .going arguments => letters arguments rest
          | step => step

/-- A name behind two dashes, perhaps with a value behind an equals sign. -/
def long (arguments : Arguments) (text : List Char) : Step :=
  let name := String.ofList (text.takeWhile (· != '='))
  match longFlag? name, text.dropWhile (· != '=') with
  | some (.valued name), [] => .awaiting arguments name
  | some (.valued name), _ :: value => .ofGiven (arguments.give name (String.ofList value))
  | some (.switch name), [] => arguments.turn name
  | _, _ => .stopped .misuse

def finish (arguments : Arguments) : Request :=
  match arguments.file with
  | .none => .misuse
  | some file => .check arguments file

def files (arguments : Arguments) : List String → Request
  | [] => arguments.finish
  | value :: rest =>
      match arguments.giveFile value with
      | .none => .misuse
      | some arguments => files arguments rest

/-- Whether an argument looks like an option, so that it cannot be a value. -/
def looksLikeOption (value : String) : Bool :=
  match value.toList with
  | ['-'] => false
  | '-' :: _ => true
  | _ => false

def step (arguments : Arguments) (value : String) : Step :=
  match value.toList with
  | '-' :: '-' :: name => arguments.long name
  | '-' :: letter :: rest => arguments.letters (letter :: rest)
  | _ => .ofGiven (arguments.giveFile value)

/-- The rest of the arguments, with the option that waits for a value, if any. -/
def readFrom (arguments : Arguments) : Option Valued → List String → Request
  | .none, [] => arguments.finish
  | some _, [] => .misuse
  | some name, value :: rest =>
      if looksLikeOption value then .misuse
      else
        match arguments.give name value with
        | .none => .misuse
        | some arguments => readFrom arguments .none rest
  | .none, value :: rest =>
      if value = "--" then files arguments rest
      else
        match arguments.step value with
        | .going arguments => readFrom arguments .none rest
        | .awaiting arguments name => readFrom arguments (some name) rest
        | .stopped request => request

def read (values : List String) : Request :=
  readFrom none .none values

end Arguments

end PageCheck
