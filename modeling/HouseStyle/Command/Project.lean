import HouseStyle.Config.Project
import HouseStyle.Plugin
import HouseStyle.Registry

/-!
# Projects

Every task starts from a project: the closest folder with a project file, its configuration, and the
registry with the rules of its plugins.
-/

namespace HouseStyle.Command

/-- A project that is ready for a task. -/
structure Project where
  root : Path
  config : Config
  registry : Registry
  /-- What is logged on the way. -/
  records : List LogRecord

/-- Why a project is not ready. -/
inductive ProjectError where
  | load (error : LoadError)
  | plugin (error : PluginError)
  | registry (error : RegistryError)

/-- The project of a path. -/
def Project.find (modules : PluginModules) (tree : FileTree) (cwd start : Path) :
    Except ProjectError Project := do
  let root := tree.projectRoot cwd start
  let config ← (Config.load tree cwd root).mapError .load
  let rules ← (Plugin.load modules config.plugins).mapError .plugin
  let registry ← (Registry.register {} rules).mapError .registry
  return { root, config, registry, records := Registry.records rules }

end HouseStyle.Command
