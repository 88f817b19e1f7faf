import Ensemble.Simulation.Outside
import Ensemble.State.Storage

/-!
# Applications

An application runs an ensemble by a configuration: the configuration is checked, it may put echoing
agents in the place of those on offer, and it supplies the limits of reflection.  Its state can be
saved into a file.
-/

namespace Ensemble

namespace Config

/-- The agents of an application; echoing ones if they are configured and others are not at hand. -/
def agents (c : Config) (offered : Agents) : Agents :=
  if c.demo && !offered.areImmediate then .echoing Agents.defaultOpening else offered

/-- The configuration with echoing agents. -/
def withDemo (c : Config) : Config :=
  { c with demo := true }

end Config

/-- A running application. -/
structure Application where
  config : Config
  simulation : Simulation

namespace Application

/-- Starts an application with the agents on offer. -/
def start (config : Config) (offered : Agents) (fresh : Nat → Id) (now : Timestamp) :
    Attempt Application := do
  config.check
  Watchdog.checkPatrol config.watchdog (Watchdog.interval config.watchdog)
  return ⟨config, .start (config.agents offered) fresh now⟩

/-- Starts an application with echoing agents. -/
def startDemo (config : Config) (fresh : Nat → Id) (now : Timestamp) : Attempt Application :=
  start config.withDemo (.echoing Agents.defaultOpening) fresh now

end Application

/-- Saves the state of a simulation into a file. -/
def Simulation.persist (s : Simulation) (fs : FileSystem) (p : Path) :
    Attempt Unit × FileSystem × Simulation :=
  match s.savedState with
  | (.ok state, s) =>
    let (answer, fs) := state.save fs p s.now
    (answer, fs, s)
  | (.error failure, s) => (.error failure, fs, s)

end Ensemble
