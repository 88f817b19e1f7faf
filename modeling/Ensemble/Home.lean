import Ensemble.Settings.Document
import Ensemble.State.Storage

/-!
# The home of an ensemble

Where the configuration and the state are kept below the home directory of a user, and how they are
loaded and saved there.  A configuration that is not there is the default one.
-/

namespace Ensemble.Home

/-- The directory that everything is kept in. -/
def directory : Path := [".polyphon"]

/-- The file of the configuration. -/
def configPath : Path := directory ++ ["polyphon.toml"]

/-- The file of the state. -/
def statePath : Path := directory ++ ["organization.json"]

/-- Loads the configuration. -/
def loadConfig (fs : FileSystem) : Attempt Config := do
  if fs.contains configPath then Config.read (← fs.read configPath) else return .default

/-- Saves a configuration. -/
def saveConfig (fs : FileSystem) (config : Config) : Attempt Unit × FileSystem :=
  FileSystem.andThen (fs.ensureDirectory directory) fun fs =>
    match config.write with
    | .error failure => (.error failure, fs)
    | .ok text => fs.write configPath text

end Ensemble.Home
