import ResourceWait.Config.Basic
import ResourceWait.Files.Tree
import ResourceWait.Toml.Document
import ResourceWait.Toml.Writer

/-!
# Configuration files

A configuration is kept as a TOML file. Loading one that is not there gives the usual configuration;
one that is there has to be text, to be TOML, to fit, and to make sense, in this order. Saving looks
at all that can go wrong with the configuration before it touches any file.
-/

namespace ResourceWait

/-- **Why a configuration could not be loaded or saved.** -/
inductive ConfigError where
  /-- The files did not allow it. -/
  | io (cause : FileError)
  /-- The text is not TOML. -/
  | malformed
  /-- The text is TOML, but no configuration. -/
  | unfit (error : DataError)
  /-- A number is beyond what TOML can write. -/
  | unwritable
  /-- The configuration makes no sense. -/
  | invalid (reason : InvalidConfig)
deriving DecidableEq

/-- **The message of an error.** -/
def ConfigError.message : ConfigError → String
  | io cause => "IO error: " ++ cause.message
  | malformed => "Config parse error: not a TOML document"
  | unfit error => "Config parse error: " ++ error.message .positional
  | unwritable => "Config serialize error: out-of-range value for u64 type"
  | invalid reason => "Invalid configuration: " ++ reason.message

namespace PollConfig

/-- **The configuration that a TOML text holds**, whether or not it makes sense. -/
def ofToml (text : String) : Except ConfigError PollConfig :=
  match Toml.read text with
  | none => .error .malformed
  | some table => match Record.read .ignored table.toNode with
    | .ok config => .ok config
    | .error .malformed => .error .malformed
    | .error (.data e) => .error (.unfit e)

/-- **The TOML text of a configuration**, if all its numbers can be written. -/
def toToml (config : PollConfig) : Except ConfigError String :=
  match Toml.writeDocument (Record.fields.writeTable (Record.toTuple config)) with
  | some text => .ok text
  | none => .error .unwritable

/-- Refuses a configuration that makes no sense. -/
def check (config : PollConfig) : Except ConfigError Unit :=
  config.validate.mapError ConfigError.invalid

/-- **Loads a configuration.** -/
def load (tree : FileTree) (path : FilePath) : Except ConfigError PollConfig := do
  if tree.isThere path then
    let text ← (tree.readText path).mapError ConfigError.io
    let config ← ofToml text
    config.check
    return config
  else return {}

/-- The text to save a configuration as, if there is one and it makes sense. -/
def textToSave (config : PollConfig) : Except ConfigError String := do
  config.check
  config.toToml

/-- **Saves a configuration**, and makes the directories around its file. -/
def save (config : PollConfig) (tree : FileTree) (path : FilePath) :
    Except ConfigError Unit × FileTree :=
  match config.textToSave with
  | .error e => (.error e, tree)
  | .ok text =>
    let (result, tree) := tree.writeBelow path text.toUTF8
    (result.mapError .io, tree)

/-- **Where a configuration is kept** unless it is said otherwise: below the home directory, or, when
that is not known, below the working directory. -/
def defaultPath (home : Option String) : FilePath :=
  ((FilePath.mk (home.getD ".")).join ".stackwait").join "config.toml"

/-- Loads the configuration that is kept there. -/
def loadDefault (tree : FileTree) (home : Option String) : Except ConfigError PollConfig :=
  load tree (defaultPath home)

end PollConfig

end ResourceWait
