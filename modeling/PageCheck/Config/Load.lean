import PageCheck.Config.JsonText
import PageCheck.Config.Override
import PageCheck.Config.Toml.Document
import PageCheck.Config.Yaml.Document
import PageCheck.Text.Utf8

/-! Loading a registry: the settings of a file, those of the environment on top
of them, and the registry that they describe, which has to resolve. -/

set_option autoImplicit false

namespace PageCheck

inductive SettingFormat where
  | toml
  | json
  | yaml
deriving DecidableEq

namespace SettingFormat

def ofExtension? (extension : List Char) : Option SettingFormat :=
  match String.ofList extension with
  | "toml" => some .toml
  | "json" => some .json
  | "yaml" => some .yaml
  | "yml" => some .yaml
  | _ => none

def read? (format : SettingFormat) (text : List Char) : Option Setting :=
  let setting := match format with
    | .toml => Toml.read? text
    | .json => JsonText.read? text
    | .yaml => Yaml.read? text
  setting.filter fun
    | .table _ => true
    | _ => false

end SettingFormat

namespace Registry

def ofSettings (settings : Setting) : Except ConfigurationError Registry :=
  match settings.registry? Setting.asName? with
  | none => .error .load
  | some registry => do
      registry.check
      return registry

def ofText (environment : List (String × String)) (format : SettingFormat) (text : List Char) :
    Except ConfigurationError Registry :=
  match format.read? text with
  | none => .error .load
  | some file => ofSettings (Environment.override environment (Setting.ofFile file))

/-- The contents of a file without a byte order mark. -/
def contents (bytes : List UInt8) : List Char :=
  match bytes with
  | 0xEF :: 0xBB :: 0xBF :: rest => Utf8.decode rest
  | _ => Utf8.decode bytes

def triedExtensions : List String :=
  ["toml", "json", "yaml", "yml"]

/-- The contents of the first of the files that is there, with its name. -/
def findFile {m : Type → Type} [Monad m] (read : String → m (Option (List UInt8))) :
    List String → m (Option (String × List UInt8))
  | [] => return none
  | name :: rest => do
      match ← read name with
      | some bytes => return some (name, bytes)
      | none => findFile read rest

/-- The registry of a file; its name tells the format. -/
def load {m : Type → Type} [Monad m] (read : String → m (Option (List UInt8)))
    (environment : List (String × String)) (path : String) :
    m (Except ConfigurationError Registry) := do
  let candidates := path :: triedExtensions.map fun extension => s!"{path}.{extension}"
  match ← findFile read candidates with
  | none => return .error .load
  | some (name, bytes) =>
      match (FilePath.extension? name.toList).bind SettingFormat.ofExtension? with
      | none => return .error .load
      | some format => return ofText environment format (contents bytes)

end Registry

end PageCheck
