import PageCheck.Command.Arguments
import PageCheck.Config.Load
import PageCheck.Output.Json
import PageCheck.Output.Summary
import PageCheck.Output.Yaml

/-! Running the command: what it reads, what it prints and how it exits.  The
registry is loaded before the document is read. -/

set_option autoImplicit false

namespace PageCheck

namespace Command

structure Outcome where
  exit : Nat
  output : String
  failure : Option String

def Outcome.failed (reason : String) : Outcome :=
  ⟨1, "", some s!"Error: {reason}"⟩

def versionText : String :=
  "markup-lint 0.3.0\n"

def helpText : String :=
  "Validate an HTML fragment and extract its content tree

Usage: markup-lint [OPTIONS] <FILE>

Arguments:
  <FILE>  Document to check

Options:
  -c, --config <CONFIG>  Component registry file (TOML, YAML or JSON)
  -k, --kind <KIND>      Input kind; inferred from the file extension when omitted [possible values: html, markdown]
  -f, --format <FORMAT>  Output format [default: text] [possible values: text, json, yaml]
      --extract          Always extract the content tree, even when validation fails
  -v, --verbose...       Increase log verbosity (-v info, -vv debug)
  -h, --help             Print help
  -V, --version          Print version
"

def render (format : OutputFormat) (report : Report) : String :=
  match format with
  | .text => report.summary
  | .json => Json.pretty 0 report.toData ++ "\n"
  | .yaml => Yaml.document report.toData

/-- The report, with the tree even of an invalid document if that is wanted. -/
def reportOn (engine : Engine) (extract : Bool) (kind : InputKind) (document : Document) :
    Option Report := do
  let report ← engine.process document kind
  match extract, report.tree with
  | true, none => do
      let tree ← engine.extract document kind
      return { report with tree := some tree }
  | _, _ => return report

def finish (engine : Engine) (arguments : Arguments) (file : String) (bytes : List UInt8) :
    Outcome :=
  let kind := arguments.kind.getD (.ofPath file)
  match reportOn engine arguments.extract kind (.ofBytes bytes) with
  | none => ⟨101, "", none⟩
  | some report =>
      { exit := if report.verdict.isValid then 0 else 1
        output := render (arguments.format.getD .text) report
        failure := none }

section

variable {m : Type → Type} [Monad m] (read : String → m (Option (List UInt8)))
  (environment : List (String × String))

def registry (arguments : Arguments) : m (Except Outcome Registry) := do
  match arguments.config with
  | none => return .ok .standard
  | some path =>
      match ← Registry.load read environment path with
      | .ok registry => return .ok registry
      | .error _ => return .error (.failed s!"Invalid component registry {path}")

def check (arguments : Arguments) (file : String) : m Outcome := do
  match ← registry read environment arguments with
  | .error outcome => return outcome
  | .ok registry =>
      match Engine.ofRegistry registry with
      | .error _ => return .failed "Failed to resolve components"
      | .ok engine =>
          match ← read file with
          | none => return .failed s!"Failed to read {file}"
          | some bytes => return finish engine arguments file bytes

/-- A run with the arguments given, in an environment with files to read. -/
def run (values : List String) : m Outcome := do
  match Arguments.read values with
  | .misuse => return ⟨2, "", none⟩
  | .version => return ⟨0, versionText, none⟩
  | .help => return ⟨0, helpText, none⟩
  | .check arguments file => check read environment arguments file

end

end Command

end PageCheck
