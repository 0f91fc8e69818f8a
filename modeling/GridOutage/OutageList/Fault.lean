import GridOutage.Uuid

/-!
# Why a list operation fails (messages of ctg-contingency)
-/
namespace GridOutage

/-- What a list is made of. -/
inductive ListKind where
  | form | identifiers | filters | script
  deriving DecidableEq, Repr, Inhabited

namespace ListKind

def all : List ListKind := [.form, .identifiers, .filters, .script]

def name : ListKind → String
  | .form => "FORM"
  | .identifiers => "IDENTIFIER_LIST"
  | .filters => "FILTER_BASED"
  | .script => "SCRIPT"

end ListKind

namespace OutageList

inductive Fault where
  | unknown (id : Uuid)
  | alreadyExists (id : Uuid)
  /-- The script of a list that has none. -/
  | noScriptForm (id : Uuid) (kind : ListKind)
  /-- A conversion to a script of a list that is not a form. -/
  | notAForm (id : Uuid) (kind : ListKind)
  | noFilterService (id : Uuid)
  | scriptNotExported (id : Uuid)
  | blankGroup
  | noFilter
  | blankScript
  deriving DecidableEq

namespace Fault

def text : Fault → String
  | .unknown id => "contingency list " ++ id.toText
  | .alreadyExists id => "contingency list " ++ id.toText ++ " already exists"
  | .noScriptForm id kind => kind.name ++ " list " ++ id.toText ++ " has no script form"
  | .notAForm id kind =>
    "only form lists convert to scripts, " ++ id.toText ++ " is " ++ kind.name
  | .noFilterService id =>
    "list " ++ id.toText ++ " is filter based but no filter service is configured"
  | .scriptNotExported id =>
    "script list " ++ id.toText ++ " is executed by the legacy engine and cannot be exported"
  | .blankGroup => "identifier groups need a non-empty id"
  | .noFilter => "filter-based list references no filter"
  | .blankScript => "script list is empty"

end Fault

end OutageList

end GridOutage
