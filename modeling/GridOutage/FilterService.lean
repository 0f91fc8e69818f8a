import GridOutage.Address
import GridOutage.Document.Elements
import GridOutage.Document.Format
import GridOutage.OutageList.Export

/-!
# The filter service (`evaluator` of ctg-contingency)

Filters kept elsewhere are evaluated by a service that is asked over HTTP: one request names a
network, perhaps a variant of it, and the filters, and the answer is a list of what is known of
the elements that match. An answer that is an error, or that does not arrive in full, may be
asked for again; one that arrives and cannot be decoded is a fault of its own.
-/
namespace GridOutage

open Document (Value)

/-- A network as the service knows it. Mirrors `FilterServiceClient`. -/
structure FilterService where
  baseUrl : String
  network : Uuid
  variant : Option String := none
  /-- How many seconds a request may take. -/
  timeout : Nat := 30
  deriving DecidableEq

/-- An answer to a request: its status, and its body unless that does not arrive in full. -/
structure Answer where
  status : Nat
  body : Option String
  deriving DecidableEq, Repr

namespace FilterService

/-- The base address without slashes at its end. -/
def base (s : FilterService) : String :=
  String.ofList (s.baseUrl.toList.reverse.dropWhile (· == '/')).reverse

def exportUrl (s : FilterService) : String := s.base ++ "/v1/filters/export"

/-- What is asked about some filters. -/
def query (s : FilterService) (ids : List Uuid) : List (String × String) :=
  [("networkUuid", s.network.toText)] ++ (s.variant.toList.map fun v => ("variantId", v)) ++
    ids.map fun id => ("ids", id.toText)

/-- The address to ask about some filters at, if the base address is one. -/
def address? (s : FilterService) (ids : List Uuid) : Option Address :=
  (Address.ofText? s.exportUrl).map (·.withPairs (s.query ids))

/-- An answer with one of these statuses has no body. -/
def isBodiless (status : Nat) : Bool := status == 204 || status == 304

/-- What an answer says of some filters. Mirrors `FilterServiceClient::read_attributes`. -/
def understand (s : FilterService) (ids : List Uuid) (a : Answer) : Except Error (List Attributes) :=
  if a.status == 404 then .error (.filtersUnknown ids s.network)
  else if 400 ≤ a.status then .error (.serviceStatus a.status)
  else match if isBodiless a.status then some "" else a.body with
    | none => .error .serviceUnreachable
    | some text =>
      (Document.decodeJson (fun o => Document.list (Attributes.decode o)) text).mapError
        (.undecodable .parse)

/-- The service as a source, with a way to exchange the request at an address for an answer in some
seconds. -/
def source {m : Type → Type} [Monad m] (exchange : Nat → Address → m (Option Answer))
    (s : FilterService) : FilterSource m := fun ids => do
  let some address := s.address? ids | return .error .serviceUnreachable
  match ← exchange s.timeout address with
  | some a => return s.understand ids a
  | none => return .error .serviceUnreachable

end FilterService

end GridOutage
