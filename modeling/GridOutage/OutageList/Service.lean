import GridOutage.OutageList.Export
import GridOutage.OutageList.Program

/-!
# The list service (`service` of ctg-contingency)

Managing stored lists. Every operation checks what it is given before it changes the store, and
changes the store at most once. New identifiers and the time come from outside: `fresh` is an
identifier that may be used for a new list, and `now` the time of the change.
-/
namespace GridOutage.OutageList

open GridOutage.Filter (FilterSpec)

/-! ## Managing -/

/-- A new list with a valid content. -/
def create (fresh : Uuid) (now : Instant) (name : String) (content : ListContent) :
    Operation OutageList := do
  content.validate
  let l : OutageList := { id := fresh, name := name, modified := now, content := content }
  Operation.insert l
  return l

/-- The list of an identifier. -/
def get (id : Uuid) : Operation OutageList := do
  match ← Operation.get id with
  | some l => return l
  | none => throw (.list (.unknown id))

def list : Operation (List OutageList) := Operation.list

/-- A list with another name and another, valid content. -/
def update (now : Instant) (id : Uuid) (name : String) (content : ListContent) :
    Operation OutageList := do
  content.validate
  let l : OutageList := { id := id, name := name, modified := now, content := content }
  match ← Operation.replace l with
  | some _ => return l
  | none => throw (.list (.unknown id))

def delete (id : Uuid) : Operation Unit := do
  match ← Operation.delete id with
  | some _ => return ()
  | none => throw (.list (.unknown id))

/-- A copy of a list under a new identifier, if there is such a list. Mirrors
`ContingencyListStore::duplicate`. -/
def copy? (fresh : Uuid) (now : Instant) (id : Uuid) : Operation (Option OutageList) := do
  match ← Operation.get id with
  | some l =>
    let copy := { l with id := fresh, modified := now }
    Operation.insert copy
    return some copy
  | none => return none

/-- A copy of a list under a new identifier. Mirrors `ContingencyListService::duplicate`. -/
def duplicate (fresh : Uuid) (now : Instant) (id : Uuid) : Operation OutageList := do
  match ← copy? fresh now id with
  | some copy => return copy
  | none => throw (.list (.unknown id))

/-! ## Scripts -/

def specScript (spec : FilterSpec) : Operation String :=
  liftM (spec.toScript.mapError Error.rejected)

/-- The script of a form or of a script list. Mirrors `ContingencyListService::script_of`. -/
def scriptOf (id : Uuid) : Operation String := do
  match (← get id).content with
  | .form spec => specScript spec
  | .script s => return s
  | content => throw (.list (.noScriptForm id content.kind))

/-- The script of a form. Mirrors `ContingencyListService::form_script`. -/
def formScript (id : Uuid) : Operation String := do
  match (← get id).content with
  | .form spec => specScript spec
  | content => throw (.list (.notAForm id content.kind))

/-- A new list that holds the script of a form. Mirrors
`ContingencyListService::new_script_from_form`. -/
def newScript (fresh : Uuid) (now : Instant) (id : Uuid) (name : String) : Operation OutageList := do
  create fresh now name (.script (← formScript id))

/-- A form turned into a list that holds its script, under the same identifier and name. Mirrors
`ContingencyListService::replace_form_with_script`. -/
def replaceWithScript (now : Instant) (id : Uuid) : Operation OutageList := do
  let script ← formScript id
  let l ← get id
  update now id l.name (.script script)

/-! ## Exporting -/

variable [PatternEngine]

/-- The contingencies of a stored list on a network. Mirrors `ContingencyListService::export`. -/
def export? (net : Network) (source : Option (FilterSource Id)) (id : Uuid) : Operation Exported := do
  let l ← get id
  (l.exported net source).run

def count (net : Network) (source : Option (FilterSource Id)) (id : Uuid) :
    Operation ContingencyCount :=
  Exported.count <$> export? net source id

/-- The contingencies of several lists, in the order of the identifiers. A list that cannot be
exported does not keep the others from it. Mirrors `ContingencyListService::export_all`. -/
def exportAll (net : Network) (source : Option (FilterSource Id)) (ids : List Uuid) :
    Operation (List (Except Error Exported)) :=
  ids.mapM fun id => ExceptT.lift (ExceptT.run (export? net source id))

end GridOutage.OutageList
