import HouseStyle.Cache
import HouseStyle.Registry

/-!
# The catalog of rules

The catalog is the registry as it serves a running process. Registrations replace the rules of plugins,
and what is read about all rules is computed once and kept in caches, under the number of registrations
so far.

Main definitions:
* `Catalog`, `Catalog.register`: the registry with its caches, and the registration of rules.
* `Catalog.readRules`, `Catalog.readIds`, `Catalog.readMetas`: what is read, with the catalog afterwards.
* `Catalog.step`, `Catalog.run`: the answers to requests, one after the other.
-/

namespace HouseStyle

/-- The registry with the caches of what was read. -/
structure Catalog where
  registry : Registry := {}
  /-- The number of registrations. -/
  generation : Nat := 0
  /-- All rules, by generation. -/
  rules : Cache 4 Nat (List Rule) := {}
  /-- What is told about all rules, by generation: a table from ids. -/
  metas : Cache 4 Nat (List (Text × RuleMeta)) := {}

namespace Catalog

/-- Replaces the rules of plugins, which starts a new generation. -/
def register (c : Catalog) (rules : List PluginRule) : Except RegistryError Catalog :=
  match c.registry.register rules with
  | .error e => .error e
  | .ok registry => .ok { c with registry, generation := c.generation + 1 }

/-! ## Reading -/

/-- All rules, sorted by id. -/
def readRules (c : Catalog) : List Rule × Catalog :=
  let rules := (c.rules.find? c.generation).getD c.registry.rules
  (rules, { c with rules := c.rules.use c.generation rules })

/-- The ids of all rules. -/
def readIds (c : Catalog) : List Text × Catalog :=
  let (rules, c) := c.readRules
  (rules.map (·.ruleId), c)

/-- What is told about all rules, by their ids. A table that is not kept is made from the rules, which
    are themselves read through their cache. -/
def readMetas (c : Catalog) : List (Text × RuleMeta) × Catalog :=
  match c.metas.find? c.generation with
  | some table => (table, { c with metas := c.metas.use c.generation table })
  | none =>
    let (rules, c) := c.readRules
    let table := rules.map fun r => (r.ruleId, r.info)
    (table, { c with metas := c.metas.use c.generation table })

/-! ## Requests -/

/-- What a process asks of the catalog. -/
inductive Request where
  | register (rules : List PluginRule)
  | rules
  | ids
  | metas
deriving Repr, DecidableEq

/-- The answer to a request. -/
inductive Answer where
  | registered
  | refused (error : RegistryError)
  | rules (rules : List Rule)
  | ids (ids : List Text)
  | metas (table : List (Text × RuleMeta))
deriving Repr, DecidableEq

/-- The answer to a request. Rules that are refused leave everything as it is. -/
def step (c : Catalog) : Request → Answer × Catalog
  | .register rules =>
    match c.register rules with
    | .ok c => (.registered, c)
    | .error e => (.refused e, c)
  | .rules => let (rules, c) := c.readRules; (.rules rules, c)
  | .ids => let (ids, c) := c.readIds; (.ids ids, c)
  | .metas => let (table, c) := c.readMetas; (.metas table, c)

/-- The answers to requests, one after the other. -/
def run (c : Catalog) : List Request → List Answer × Catalog
  | [] => ([], c)
  | r :: rs =>
    let (answer, c) := c.step r
    let (answers, c) := c.run rs
    (answer :: answers, c)

end Catalog

end HouseStyle
