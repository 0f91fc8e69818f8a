import GridOutage.Document.Value
import GridOutage.Document.Yaml.Token

/-!
# Reading YAML (serde_yaml)

The values of token lists. Scalars that are not quoted stay untyped, an empty place is an untyped
scalar without text, and an alias is the value of its anchor. Where the tokens stop making sense
the value is `broken`, and nothing is read after it.
-/
namespace GridOutage.Document.Yaml

/-- The values of the anchors met so far, latest first. -/
abbrev Anchors := List (String × Value)

/-- What was read, the anchors known then, and the tokens after it unless reading broke off. -/
structure Read (α : Type) where
  value : α
  anchors : Anchors
  rest : Option (List Token)

/-- The value of an empty place. -/
def nothing : Value := .plain ""

/-- The anchors before a node, a tag skipped, and the tokens of the node. -/
def properties : List Token → List String × Bool × List Token
  | .anchor a :: .tag :: ts | .tag :: .anchor a :: ts => ([a], true, ts)
  | .anchor a :: ts => ([a], true, ts)
  | .tag :: ts => ([], true, ts)
  | ts => ([], false, ts)

/-- The text of a key. Keys that are not scalars are not read. -/
def entry (key value : Value) : String × Value :=
  match key with
  | .str k | .plain k => (k, value)
  | _ => ("", .broken)

/-- Whether one of some tokens comes next. -/
def next (ends : List Token) : List Token → Bool
  | [] => false
  | t :: _ => ends.contains t

mutual

/-- A node. Block collections are only read where `block` says so, and a sequence without its own
indentation where `flush` does. -/
def node (fuel : Nat) (block flush : Bool) (as : Anchors) (ts : List Token) : Read Value :=
  match fuel with
  | 0 => ⟨.broken, as, none⟩
  | fuel + 1 =>
    match ts with
    | .alias a :: rest => match as.lookup a with
      | some v => ⟨v, as, some rest⟩
      | none => ⟨.broken, as, none⟩
    | ts =>
      let (names, given, ts) := properties ts
      let r := content fuel block flush given as ts
      { r with anchors := names.map (·, r.value) ++ r.anchors }

/-- A node after its anchor and tag. -/
def content (fuel : Nat) (block flush given : Bool) (as : Anchors) (ts : List Token) : Read Value :=
  match fuel with
  | 0 => ⟨.broken, as, none⟩
  | fuel + 1 =>
    let items (r : Read (List Value)) : Read Value := ⟨.arr r.value, r.anchors, r.rest⟩
    let entries (r : Read (List (String × Value))) : Read Value := ⟨.obj r.value, r.anchors, r.rest⟩
    match ts with
    | .scalar s plain :: rest => ⟨if plain then .plain s else .str s, as, some rest⟩
    | .flowSequence :: .flowSequenceEnd :: rest => ⟨.arr [], as, some rest⟩
    | .flowSequence :: rest => items (flowItems fuel as rest)
    | .flowMapping :: .flowMappingEnd :: rest => ⟨.obj [], as, some rest⟩
    | .flowMapping :: rest => entries (flowEntries fuel as rest)
    | .blockSequence :: rest =>
      if block then items (blockItems fuel false as rest) else ⟨.broken, as, none⟩
    | .blockMapping :: rest =>
      if block then entries (blockEntries fuel as rest) else ⟨.broken, as, none⟩
    | .blockEntry :: rest =>
      if flush then items (blockItems fuel true as (.blockEntry :: rest))
      else if given then ⟨nothing, as, some ts⟩ else ⟨.broken, as, none⟩
    | .broken :: _ => ⟨.broken, as, none⟩
    | ts => if given then ⟨nothing, as, some ts⟩ else ⟨.broken, as, none⟩

/-- A node unless one of some tokens says that its place is empty. -/
def place (fuel : Nat) (block flush : Bool) (ends : List Token) (as : Anchors) (ts : List Token) :
    Read Value :=
  match fuel with
  | 0 => ⟨.broken, as, none⟩
  | fuel + 1 => if next ends ts then ⟨nothing, as, some ts⟩ else node fuel block flush as ts

/-- The items of a block sequence; one without its own indentation ends before any other token. -/
def blockItems (fuel : Nat) (flush : Bool) (as : Anchors) (ts : List Token) : Read (List Value) :=
  match fuel with
  | 0 => ⟨[.broken], as, none⟩
  | fuel + 1 =>
    match ts with
    | .blockEntry :: rest =>
      let ends : List Token := if flush then [.blockEntry, .key, .value, .blockEnd] else [.blockEntry, .blockEnd]
      let r := place fuel true false ends as rest
      match r.rest with
      | none => ⟨[r.value], r.anchors, none⟩
      | some rest =>
        let more := blockItems fuel flush r.anchors rest
        { more with value := r.value :: more.value }
    | .blockEnd :: rest => if flush then ⟨[], as, some ts⟩ else ⟨[], as, some rest⟩
    | .broken :: _ => ⟨[.broken], as, none⟩
    | ts => if flush then ⟨[], as, some ts⟩ else ⟨[.broken], as, none⟩

/-- The entries of a block mapping. -/
def blockEntries (fuel : Nat) (as : Anchors) (ts : List Token) : Read (List (String × Value)) :=
  match fuel with
  | 0 => ⟨[("", .broken)], as, none⟩
  | fuel + 1 =>
    let ends : List Token := [.key, .value, .blockEnd]
    match ts with
    | .key :: rest =>
      let k := place fuel true true ends as rest
      match k.rest with
      | none => ⟨[("", .broken)], k.anchors, none⟩
      | some rest =>
        let v : Read Value := match rest with
          | .value :: rest => place fuel true true ends k.anchors rest
          | .broken :: _ => ⟨.broken, k.anchors, none⟩
          | rest => ⟨nothing, k.anchors, some rest⟩
        match v.rest with
        | none => ⟨[entry k.value v.value], v.anchors, none⟩
        | some rest =>
          let more := blockEntries fuel v.anchors rest
          { more with value := entry k.value v.value :: more.value }
    | .blockEnd :: rest => ⟨[], as, some rest⟩
    | _ => ⟨[("", .broken)], as, none⟩

/-- The items of a flow sequence. An item with a colon is a mapping of one entry. -/
def flowItems (fuel : Nat) (as : Anchors) (ts : List Token) : Read (List Value) :=
  match fuel with
  | 0 => ⟨[.broken], as, none⟩
  | fuel + 1 =>
    let r : Read Value := match ts with
      | .key :: rest =>
        let e := flowEntry fuel [.value, .flowEntry, .flowSequenceEnd] [.flowEntry, .flowSequenceEnd] as rest
        ⟨.obj [e.value], e.anchors, e.rest⟩
      | ts => node fuel false false as ts
    match r.rest with
    | none => ⟨[r.value], r.anchors, none⟩
    | some (.flowSequenceEnd :: rest) => ⟨[r.value], r.anchors, some rest⟩
    | some (.flowEntry :: .flowSequenceEnd :: rest) => ⟨[r.value], r.anchors, some rest⟩
    | some (.flowEntry :: rest) =>
      let more := flowItems fuel r.anchors rest
      { more with value := r.value :: more.value }
    | some _ => ⟨[r.value, .broken], r.anchors, none⟩

/-- The entries of a flow mapping. An item without a colon is a key with an empty value. -/
def flowEntries (fuel : Nat) (as : Anchors) (ts : List Token) : Read (List (String × Value)) :=
  match fuel with
  | 0 => ⟨[("", .broken)], as, none⟩
  | fuel + 1 =>
    let r : Read (String × Value) := match ts with
      | .key :: rest =>
        flowEntry fuel [.value, .flowEntry, .flowMappingEnd] [.flowEntry, .flowMappingEnd] as rest
      | ts =>
        let k := node fuel false false as ts
        ⟨entry k.value nothing, k.anchors, k.rest⟩
    match r.rest with
    | none => ⟨[r.value], r.anchors, none⟩
    | some (.flowMappingEnd :: rest) => ⟨[r.value], r.anchors, some rest⟩
    | some (.flowEntry :: .flowMappingEnd :: rest) => ⟨[r.value], r.anchors, some rest⟩
    | some (.flowEntry :: rest) =>
      let more := flowEntries fuel r.anchors rest
      { more with value := r.value :: more.value }
    | some _ => ⟨[r.value, ("", .broken)], r.anchors, none⟩

/-- One entry inside brackets, after its key mark. -/
def flowEntry (fuel : Nat) (keyEnds valueEnds : List Token) (as : Anchors) (ts : List Token) :
    Read (String × Value) :=
  match fuel with
  | 0 => ⟨("", .broken), as, none⟩
  | fuel + 1 =>
    let k := place fuel false false keyEnds as ts
    match k.rest with
    | none => ⟨("", .broken), k.anchors, none⟩
    | some (.value :: rest) =>
      let v := place fuel false false valueEnds k.anchors rest
      ⟨entry k.value v.value, v.anchors, v.rest⟩
    | some (.broken :: _) => ⟨entry k.value .broken, k.anchors, none⟩
    | some rest => ⟨entry k.value nothing, k.anchors, some rest⟩

end

/-- A document at the front of the tokens. -/
def document (ts : List Token) : Read Value :=
  let fuel := 8 * ts.length + 8
  match ts with
  | [] => ⟨nothing, [], some []⟩
  | .documentStart :: rest | .directive :: .documentStart :: rest =>
    match rest with
    | [] => ⟨nothing, [], some []⟩
    | rest => place fuel true false [.directive, .documentStart, .documentEnd] [] rest
  | ts => node fuel true false [] ts

/-- The value of a text, and whether nothing but the end of the document comes after it. -/
def read (s : String) : Value × Bool :=
  let r := document (tokens s.toList)
  (r.value, r.rest.any fun ts => ts.all (· == .documentEnd))

end GridOutage.Document.Yaml
