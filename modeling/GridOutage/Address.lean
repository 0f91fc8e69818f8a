import GridOutage.Text.Blank
import GridOutage.Text.Digits

/-!
# Web addresses (url)

An address says where to ask for what over HTTP: a host, a path on it and a query. It is read
the way browsers read one: tabs and line breaks count for nothing, a backslash is a slash, segments
of dots are resolved, and a character that cannot stand in its part is written by its bytes. What
comes after a number sign never reaches the host.

* `ofText?`: the address of a text.
* `withPairs`: an address with names and values added to its query.
* `target`: what the host is asked for.
-/
namespace GridOutage

/-! ## Characters written by their bytes -/

/-- A byte as two capital hex digits after a percent sign. -/
def percentByte (b : UInt8) : List Char :=
  ['%', (Nat.digitChar (b.toNat / 16)).toUpper, (Nat.digitChar (b.toNat % 16)).toUpper]

/-- A character by the bytes of its UTF-8 form. -/
def percentChar (c : Char) : List Char := (String.singleton c).toUTF8.toList.flatMap percentByte

/-- The characters that `keeps` keeps stand for themselves. -/
def percentText (keeps : Char → Bool) (cs : List Char) : List Char :=
  cs.flatMap fun c => if keeps c then [c] else percentChar c

/-- A printable ASCII character other than the blank. -/
def isGraphic (c : Char) : Bool := 0x20 < c.toNat && c.toNat < 0x7F

def isPathChar (c : Char) : Bool :=
  isGraphic c && c ∉ ['"', '#', '<', '>', '?', '\x60', '\x7b', '\x7d']

def isQueryChar (c : Char) : Bool := isGraphic c && c ∉ ['"', '#', '<', '>', '\'']

/-! ## Forms -/

/-- The characters that stand for themselves in a form. -/
def isFormChar (c : Char) : Bool := c.isAlphanum || c == '*' || c == '-' || c == '.' || c == '_'

/-- A text in a form: a blank becomes a plus, and what cannot stand for itself is written by its
bytes. -/
def formText (s : String) : List Char :=
  s.toList.flatMap fun c => if c == ' ' then ['+'] else percentText isFormChar [c]

/-- Names and values as a form. -/
def formPairs (pairs : List (String × String)) : List Char :=
  List.intercalate ['&'] (pairs.map fun (k, v) => formText k ++ '=' :: formText v)

/-! ## Addresses -/

structure Address where
  host : String
  /-- The number under which the host listens. -/
  tcp : Nat := 80
  /-- The segments of the path, each after a slash. -/
  path : List (List Char)
  query : List Char := []
  deriving DecidableEq, Repr

namespace Address

/-- A segment that stands for the path before it. -/
def isSelf (s : List Char) : Bool :=
  [".", "%2e"].any (Text.sameIgnoringCase · (String.ofList s))

/-- A segment that takes back the one before it. -/
def isParent (s : List Char) : Bool :=
  ["..", ".%2e", "%2e.", "%2e%2e"].any (Text.sameIgnoringCase · (String.ofList s))

/-- The segments of a path with those of dots resolved, after the reversed ones before them. At the
end of a path a segment of dots leaves an empty one. -/
def resolve : List (List Char) → List (List Char) → List (List Char)
  | done, [] => done.reverse
  | done, s :: rest =>
    let before := if isParent s then done.drop 1 else done
    let dots := isParent s || isSelf s
    if dots && !rest.isEmpty then resolve before rest
    else resolve ((if dots then [] else s) :: before) rest

def isSlash (c : Char) : Bool := c == '/' || c == '\\'

/-- The parts of a text between slashes. -/
def segments : List Char → List (List Char)
  | [] => [[]]
  | c :: cs =>
    if isSlash c then [] :: segments cs
    else match segments cs with
      | s :: rest => (c :: s) :: rest
      | [] => [[c]]

/-- The host, and the number it listens under, of the part of an address that says where to ask. -/
def site? (authority : List Char) : Option (String × Nat) := do
  let site := (authority.reverse.takeWhile (· != '@')).reverse
  let host := site.takeWhile (· != ':')
  let tcp ← match site.dropWhile (· != ':') with
    | [] | [':'] => some 80
    | _ :: digits => (Text.natural? 10 digits).filter (· < 65536)
  if host.isEmpty || !host.all (fun c => c.isAlphanum || c == '.' || c == '-' || c == '_') then none
  else some (String.ofList host, tcp)

/-- What stands after the first of a character. -/
def after (c : Char) (cs : List Char) : List Char := (cs.dropWhile (· != c)).drop 1

/-- The address of a text. -/
def ofText? (s : String) : Option Address := do
  let cs := (s.toList.filter fun c => c ∉ ['\t', '\n', '\r']).dropWhile (·.toNat ≤ 0x20)
  if String.ofList ((cs.take 5).map Char.toLower) ≠ "http:" then none
  else
    let rest := (cs.drop 5).dropWhile isSlash
    let isEnd (c : Char) : Bool := isSlash c || c == '?' || c == '#'
    let (host, tcp) ← site? (rest.takeWhile (!isEnd ·))
    let rest := (rest.dropWhile (!isEnd ·)).takeWhile (· != '#')
    let path := (rest.takeWhile (· != '?')).drop 1
    some {
      host := host
      tcp := tcp
      path := (resolve [] (segments path)).map (percentText isPathChar)
      query := percentText isQueryChar (after '?' rest) }

/-- The address with names and values added to its query. -/
def withPairs (a : Address) (pairs : List (String × String)) : Address :=
  { a with query := a.query ++ (if a.query.isEmpty then [] else ['&']) ++ formPairs pairs }

/-- What the host is asked for. -/
def target (a : Address) : String :=
  String.ofList (a.path.flatMap ('/' :: ·) ++ if a.query.isEmpty then [] else '?' :: a.query)

end Address

end GridOutage
