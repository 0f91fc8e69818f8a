import GridOutage.FilterService

/-!
# HTTP messages (ureq)

The text of a request for an address, and the answer in the bytes that come back on a connection
that is closed after it. A body ends where its length or its last chunk says, or else with the
connection; one that ends earlier did not arrive in full.
-/
namespace GridOutage.Http

/-! ## Requests -/

/-- The first line of a request at an address. -/
def requestLine (a : Address) : String := "GET " ++ a.target ++ " HTTP/1.1"

/-- The text of a request at an address. -/
def requestText (a : Address) : String :=
  String.join ([requestLine a, "Host: " ++ a.host ++ ":" ++ toString a.tcp, "Accept: */*",
    "Connection: close", ""].map (· ++ "\r\n"))

/-! ## Answers -/

/-- The first line of some bytes without its break, and the bytes after it. -/
def line? : List UInt8 → Option (List UInt8 × List UInt8)
  | [] => none
  | 13 :: 10 :: rest => some ([], rest)
  | b :: rest => (line? rest).map fun (l, r) => (b :: l, r)

/-- The text of ASCII bytes. -/
def asciiText (bytes : List UInt8) : String := String.ofList (bytes.map fun b => Char.ofNat b.toNat)

/-- The lines of a head up to the empty one, and the bytes after it. -/
def head? : Nat → List UInt8 → Option (List String × List UInt8)
  | 0, _ => none
  | n + 1, bytes => do
    let (l, rest) ← line? bytes
    if l.isEmpty then some ([], rest)
    else
      let (ls, rest) ← head? n rest
      some (asciiText l :: ls, rest)

/-- The status of a first line. -/
def status? (l : String) : Option Nat :=
  match l.splitOn " " with
  | _ :: code :: _ => Text.natural? 10 code.toList
  | _ => none

/-- The value of a field of a head, whatever the case of its name. -/
def fieldValue? (name : String) (lines : List String) : Option String :=
  lines.findSome? fun l => match l.splitOn ":" with
    | k :: rest =>
      if Text.sameIgnoringCase k name then some (Text.trim (String.intercalate ":" rest)) else none
    | [] => none

/-- The bytes of a body in chunks, if the last one is there. -/
def chunks? : Nat → List UInt8 → Option (List UInt8)
  | 0, _ => none
  | n + 1, bytes => do
    let (l, rest) ← line? bytes
    let size ← Text.natural? 16 ((asciiText l).toList.takeWhile (· != ';'))
    if size = 0 then some []
    else if rest.length < size + 2 then none
    else (chunks? n (rest.drop (size + 2))).map (rest.take size ++ ·)

/-- The bytes of a body, if it is there in full. -/
def body? (fields : List String) (bytes : List UInt8) : Option (List UInt8) :=
  if (fieldValue? "transfer-encoding" fields).any (Text.sameIgnoringCase "chunked") then
    chunks? (bytes.length + 1) bytes
  else match fieldValue? "content-length" fields with
    | some length => do
      let n ← Text.natural? 10 length.toList
      if bytes.length < n then none else some (bytes.take n)
    | none => some bytes

/-- The text of a body; bytes that are no text are not JSON either, and count as an empty text. -/
def bodyText (bytes : List UInt8) : String := (String.fromUTF8? ⟨bytes.toArray⟩).getD ""

/-- The answer in the bytes of a connection. -/
def answer? (bytes : List UInt8) : Option Answer := do
  let (lines, rest) ← head? (bytes.length + 1) bytes
  let status ← status? (← lines.head?)
  some ⟨status, (body? lines.tail rest).map bodyText⟩

end GridOutage.Http
