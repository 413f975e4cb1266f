import HouseStyle.Registry

/-!
# Plugins

A plugin is named by a module and perhaps one of its attributes. A module exports rules as a list or by
functions without arguments that lead to one; an attribute may be such an export itself.

Main definitions:
* `Export`, `PluginModule`: what modules hold.
* `Plugin.load`: the rules of a list of plugin names.
-/

namespace HouseStyle

/-- Kinds of values that are of no use to a plugin. -/
inductive PlainKind where
  | int | text | float | null | table | bool
deriving Repr, DecidableEq

/-- A value that a module holds. -/
inductive Export where
  | rule (rule : PluginRule)
  | list (items : List Export)
  | tuple (items : List Export)
  /-- A function without arguments and what it returns. -/
  | factory (result : Export)
  | value (kind : PlainKind)

/-- A module that can be imported, or that fails with a text when it is. -/
inductive PluginModule where
  | loaded (attributes : List (Text × Export))
  | failing (reason : Text)

/-- The modules by their names. -/
abbrev PluginModules := List (Text × PluginModule)

/-- Why a module cannot be imported. -/
inductive ImportFault where
  | emptyName
  | relative (name : Text)
  | notFound (name : Text)
  /-- The name lies below a module that has no parts. -/
  | notAPackage (name parent : Text)
  | raised (reason : Text)
deriving Repr, DecidableEq

/-- Why a plugin cannot be loaded. -/
inductive PluginError where
  | importFailed (module : Text) (fault : ImportFault)
  | noAttribute (module attr : Text)
  | noExport
  | notARule (type : Text)
  | unsupported (type : Text)
deriving Repr, DecidableEq

/-- The wording of an import fault. -/
def ImportFault.message : ImportFault → Text
  | .emptyName => "Empty module name"
  | .relative name =>
    "the 'package' argument is required to perform a relative import for " ++ name.quoted
  | .notFound name => "No module named " ++ name.quoted
  | .notAPackage name parent =>
    "No module named " ++ name.quoted ++ "; " ++ parent.quoted ++ " is not a package"
  | .raised reason => reason

/-- The wording of a plugin error. -/
def PluginError.message : PluginError → Text
  | .importFailed module fault =>
    "Failed to import plugin module " ++ module.quoted ++ ": " ++ fault.message
  | .noAttribute module attr =>
    "Plugin module " ++ module.quoted ++ " has no attribute " ++ attr.quoted
  | .noExport => "Plugin module must define \x60codingstandard_rules()\x60 or \x60RULES\x60."
  | .notARule type => "Plugin rules must be BaseRule instances, got: " ++ type
  | .unsupported type => "Unsupported plugin export type: " ++ type

namespace Export

/-- The name of the type of a value. -/
def typeName : Export → Text
  | .rule r => r.className
  | .list _ => "list"
  | .tuple _ => "tuple"
  | .factory _ => "function"
  | .value .int => "int"
  | .value .text => "str"
  | .value .float => "float"
  | .value .null => "NoneType"
  | .value .table => "dict"
  | .value .bool => "bool"

/-- Every item is a rule. -/
def itemRules : List Export → Except PluginError (List PluginRule)
  | [] => .ok []
  | .rule r :: es => (itemRules es).map (r :: ·)
  | e :: _ => .error (.notARule e.typeName)

/-- The rules of an export. -/
def rules : Export → Except PluginError (List PluginRule)
  | .list items => itemRules items
  | .tuple items => itemRules items
  | .factory result => rules result
  | e => .error (.unsupported e.typeName)

end Export

namespace Plugin

/-- Imports the module whose name has the given parts, last part first. -/
def importParts (modules : PluginModules) :
    List Text → Except ImportFault (List (Text × Export))
  | [] => .error .emptyName
  | part :: parents =>
    let name := Text.joinWith "." (part :: parents).reverse
    match modules.lookup name with
    | some (.loaded attributes) => .ok attributes
    | some (.failing reason) => .error (.raised reason)
    | none =>
      if parents.isEmpty then .error (.notFound name)
      else
        match importParts modules parents with
        | .error e => .error e
        | .ok _ => .error (.notAPackage name (Text.joinWith "." parents.reverse))

/-- Imports a module by its name. -/
def importModule (modules : PluginModules) (name : Text) :
    Except ImportFault (List (Text × Export)) :=
  if name.isEmpty then .error .emptyName
  else if name.head? = some '.' then .error (.relative name)
  else importParts modules (Text.splitOn '.' name).reverse

/-- The rules that a module exports: by function, else by list. -/
def moduleRules (attributes : List (Text × Export)) : Except PluginError (List PluginRule) :=
  match attributes.lookup "codingstandard_rules".toList, attributes.lookup "RULES".toList with
  | some e, _ => e.rules
  | none, some e => e.rules
  | none, none => .error .noExport

/-- The rules of one plugin, `module` or `module:attribute`. -/
def loadOne (modules : PluginModules) (spec : Text) : Except PluginError (List PluginRule) :=
  let name := spec.takeWhile (· ≠ ':')
  match importModule modules name with
  | .error e => .error (.importFailed name e)
  | .ok attributes =>
    match spec.dropWhile (· ≠ ':') with
    | [] => moduleRules attributes
    | _ :: attr =>
      match attributes.lookup attr with
      | some e => e.rules
      | none => .error (.noAttribute name attr)

/-- The rules of a list of plugins, in order; blank names are passed over. -/
def load (modules : PluginModules) : List Text → Except PluginError (List PluginRule)
  | [] => .ok []
  | spec :: specs => do
    let first ← if spec.strip.isEmpty then .ok [] else loadOne modules spec.strip
    return first ++ (← load modules specs)

end Plugin

end HouseStyle
