import GridOutage.OutageList.Basic

/-!
# Exporting lists (`service` and `evaluator` of ctg-contingency)

The contingencies that a list stands for on a network. Only references to filters kept elsewhere
need more than the network: they are answered by a filter service, which may be anything that
runs in a monad.
-/
namespace GridOutage

open Document (Value)

/-- What answers references to filters: what is known of the elements that they match. Mirrors
`FilterExport`. -/
abbrev FilterSource (m : Type → Type) := List Uuid → m (Except Error (List Attributes))

/-- The contingencies of a list. Mirrors `ExportedContingencies`. -/
structure Exported where
  id : Uuid
  name : String
  contingencies : List Contingency
  deriving DecidableEq

/-- How many contingencies there are, and how many identifiers are missing in them together. -/
structure ContingencyCount where
  contingencies : Nat
  missing : Nat
  deriving DecidableEq, Repr

namespace ContingencyCount

def encode (c : ContingencyCount) : Value :=
  .obj [("contingencies", .int c.contingencies), ("notFoundElements", .int c.missing)]

end ContingencyCount

namespace Exported

def count (e : Exported) : ContingencyCount :=
  ⟨e.contingencies.length, e.contingencies.foldr (fun c n => c.missing.size + n) 0⟩

def encode (e : Exported) : Value :=
  .obj [("listId", e.id.encode), ("name", .str e.name),
    ("contingencies", .arr (e.contingencies.map Contingency.encode))]

end Exported

namespace OutageList

/-- What is known of an identifier, if it is that of equipment. Mirrors
`NetworkFilterEvaluator::resolve`. -/
def resolve (net : Network) (id : String) : Option Attributes :=
  (net.equipment? id).map Equipment.attributes

variable [PatternEngine]

/-- The contingencies of a content that needs no filter source. -/
def localContingencies (net : Network) (id : Uuid) : ListContent → Except Error (List Contingency)
  | .form spec => do
    let f ← spec.compile.mapError .rejected
    Contingency.perElement (f.matchingAttributes net)
  | .identifiers groups => Contingency.perGroup groups (resolve net)
  | .filters _ => .error (.list (.noFilterService id))
  | .script _ => .error (.list (.scriptNotExported id))

/-- The contingencies of a list. Mirrors the cases of `ContingencyListService::export`. -/
def contingencies {m : Type → Type} [Monad m] (net : Network) (source : Option (FilterSource m))
    (l : OutageList) : m (Except Error (List Contingency)) :=
  match l.content, source with
  | .filters ids, some ask => do
    return (← ask ids) >>= Contingency.perElement
  | content, _ => pure (localContingencies net l.id content)

def exported {m : Type → Type} [Monad m] (net : Network) (source : Option (FilterSource m))
    (l : OutageList) : m (Except Error Exported) := do
  return (← l.contingencies net source).map fun cs => ⟨l.id, l.name, cs⟩

end OutageList

end GridOutage
