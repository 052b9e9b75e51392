import Glitch.Toml.Lexeme
/-!
Reading a whole TOML document: lines of key/value pairs, table headers and arrays-of-tables
headers, with values that may be arrays and inline tables.

A table may be defined once. A header may name a table that only a longer header implied, but not
one that was defined or that dotted keys made; dotted keys may extend only the tables that dotted
keys made. An array-of-tables header adds a table to its array, and later headers and keys reach
into the array's last table. Inline tables are closed: no header or key outside them adds to them.
-/
namespace Glitch.Toml

def skipArraySpace : Nat → List Char → Result (List Char)
  | 0, cs => .ok cs
  | fuel + 1, cs => do
    let cs := cs.dropWhile isBlank
    let cs ← skipComment cs
    match lineBreak? cs with
    | some rest => skipArraySpace fuel rest
    | none => pure cs

/-- Insert a value under a dotted key into the entries of an inline table. The tables that the
dotted key implies are inline tables marked implicit, and only those may be extended. -/
def inlineInsert (v : Value) : List String → List (String × Value) → Result (List (String × Value))
  | [], kvs => .ok kvs
  | [k], kvs =>
    match lookup k kvs with
    | some _ => fail ("duplicate key " ++ k)
    | none => .ok (kvs ++ [(k, v)])
  | k :: ks, kvs =>
    match lookup k kvs with
    | none => do
      let inner ← inlineInsert v ks []
      pure (kvs ++ [(k, .inline inner true)])
    | some (.inline es true) => do
      let inner ← inlineInsert v ks es
      pure (replaceEntry k (.inline inner true) kvs)
    | some _ => fail ("duplicate key " ++ k)

mutual

/-- A value starting here: a string, array, inline table, boolean, number or date-time. -/
def readValue : Nat → List Char → Result (Value × List Char)
  | 0, _ => fail "value too deep"
  | fuel + 1, cs =>
    match cs with
    | '"' :: _ => do
      let (s, rest) ← readString cs
      pure (.str s, rest)
    | '\'' :: _ => do
      let (s, rest) ← readString cs
      pure (.str s, rest)
    | '[' :: rest => readArray fuel [] rest
    | '{' :: rest => readInline fuel [] (rest.dropWhile isBlank)
    | _ => readScalar cs

def readArray : Nat → List Value → List Char → Result (Value × List Char)
  | 0, _, _ => fail "array too long"
  | fuel + 1, acc, cs => do
    let cs ← skipArraySpace (cs.length + 1) cs
    match cs with
    | ']' :: rest => pure (.array acc.reverse, rest)
    | _ =>
      let (v, rest) ← readValue fuel cs
      let rest ← skipArraySpace (rest.length + 1) rest
      match rest with
      | ',' :: more => readArray fuel (v :: acc) more
      | ']' :: more => pure (.array (v :: acc).reverse, more)
      | _ => fail "expected a comma or the end of the array"

def readInline : Nat → List (String × Value) → List Char → Result (Value × List Char)
  | 0, _, _ => fail "inline table too long"
  | fuel + 1, acc, cs =>
    match cs with
    | '}' :: rest => if acc.isEmpty then .ok (.inline [] false, rest) else fail "trailing comma in inline table"
    | _ => do
      let (keys, rest) ← dottedKey (cs.length + 1) [] cs
      let rest := rest.dropWhile isBlank
      let rest ← match rest with
        | '=' :: r => pure (r.dropWhile isBlank)
        | _ => fail "expected ="
      let (v, rest) ← readValue fuel rest
      let acc ← inlineInsert v keys acc
      let rest := rest.dropWhile isBlank
      match rest with
      | ',' :: more => readInline fuel acc (more.dropWhile isBlank)
      | '}' :: more => pure (.inline acc false, more)
      | _ => fail "expected a comma or the end of the inline table"

end

/-- The state of reading a document: the root as finished so far, the table being filled with its
header path, and whether that header opened an array of tables. Before the first header the table
being filled is the root itself, with the empty path. -/
structure Reading where
  root : Table
  current : Table
  path : List String
  isArray : Bool

def Reading.start : Reading := ⟨⟨[], false, false⟩, ⟨[], false, false⟩, [], false⟩

def Reading.finish (s : Reading) : Result Table :=
  match s.path.getLast?, s.path.dropLast with
  | none, _ => .ok s.current
  | some key, parentPath =>
    let cur := s.current.toValue
    Prod.fst <$> modifyAt false (fun parent =>
      match lookup key parent.entries, s.isArray with
      | none, true => .ok ({ parent with entries := parent.entries ++ [(key, .tables [cur])] }, ())
      | some (.tables ts), true => .ok ({ parent with entries := replaceEntry key (.tables (ts ++ [cur])) parent.entries }, ())
      | none, false => .ok ({ parent with entries := parent.entries ++ [(key, cur)] }, ())
      | some (.table _ true _), false => .ok ({ parent with entries := replaceEntry key cur parent.entries }, ())
      | _, _ => fail ("duplicate key " ++ key)) parentPath s.root

def Reading.header (s : Reading) (path : List String) (isArray : Bool) : Result Reading := do
  let root ← s.finish
  match path.getLast? with
  | none => fail "empty header"
  | some key =>
    let (root, entries) ← modifyAt false (fun parent =>
      match lookup key parent.entries, isArray with
      | none, _ => .ok (parent, [])
      | some (.tables _), true => .ok (parent, [])
      | some (.table es true false), false => .ok ({ parent with entries := removeEntry key parent.entries }, es)
      | _, _ => fail ("duplicate key " ++ key)) path.dropLast root
    pure ⟨root, ⟨entries, false, false⟩, path, isArray⟩

def Reading.keyValue (s : Reading) (keys : List String) (v : Value) : Result Reading := do
  match keys.getLast? with
  | none => fail "empty key"
  | some key =>
    let path := keys.dropLast
    let (current, _) ← modifyAt true (fun t =>
      if t.dotted == path.isEmpty then fail ("duplicate key " ++ key)
      else match lookup key t.entries with
        | some _ => fail ("duplicate key " ++ key)
        | none => .ok ({ t with entries := t.entries ++ [(key, v)] }, ())) path s.current
    pure { s with current := current }

/-- The end of a line: blanks, an optional comment, then a line break or the end of the text. -/
def endOfLine (cs : List Char) : Result (List Char) := do
  let cs ← skipComment (cs.dropWhile isBlank)
  match cs with
  | [] => pure []
  | _ => match lineBreak? cs with
    | some rest => pure rest
    | none => fail "expected the end of the line"

/-- A header after its opening bracket (or brackets), up to its closing bracket (or brackets). -/
def readHeader (isArray : Bool) (cs : List Char) : Result (List String × List Char) := do
  let (keys, rest) ← dottedKey (cs.length + 1) [] (cs.dropWhile isBlank)
  match rest.dropWhile isBlank, isArray with
  | ']' :: ']' :: more, true => pure (keys, more)
  | ']' :: more, false => pure (keys, more)
  | _, _ => fail "expected the end of the header"

def readLines : Nat → Reading → List Char → Result Reading
  | 0, _, _ => fail "document too long"
  | fuel + 1, s, cs => do
    match cs.dropWhile isBlank with
    | [] => pure s
    | '[' :: '[' :: rest =>
      let (path, rest) ← readHeader true rest
      readLines fuel (← s.header path true) (← endOfLine rest)
    | '[' :: rest =>
      let (path, rest) ← readHeader false rest
      readLines fuel (← s.header path false) (← endOfLine rest)
    | line =>
      match line with
      | '#' :: _ => readLines fuel s (← endOfLine line)
      | _ =>
        match lineBreak? line with
        | some rest => readLines fuel s rest
        | none =>
          let (keys, rest) ← dottedKey (line.length + 1) [] line
          let rest ← match rest.dropWhile isBlank with
            | '=' :: r => pure (r.dropWhile isBlank)
            | _ => fail "expected ="
          let (v, rest) ← readValue (rest.length + 1) rest
          readLines fuel (← s.keyValue keys v) (← endOfLine rest)

def parse (text : String) : Result Value := do
  let cs := match text.toList with
    | '\uFEFF' :: rest => rest
    | cs => cs
  let s ← readLines (cs.length + 1) Reading.start cs
  let root ← s.finish
  pure root.toValue

end Glitch.Toml
