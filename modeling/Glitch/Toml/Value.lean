import Glitch.Float.Binary
/-!
Values of TOML documents. Tables keep their keys in document order.

A standard table remembers how it came to exist: `implicit` when only a longer header or a dotted
key implied it, and `dotted` when dotted keys made it. These two flags decide which later headers
and keys may still add to it. An inline table is closed once written, except for the tables that
dotted keys inside it imply, which carry `implicit`.
-/
namespace Glitch.Toml

/-- A value of a TOML document. -/
inductive Value where
  | str (s : String)
  | int (i : Int)
  | float (x : F64)
  | bool (b : Bool)
  | datetime (text : String)
  | array (xs : List Value)
  | inline (kvs : List (String × Value)) (implicit : Bool)
  | table (kvs : List (String × Value)) (implicit dotted : Bool)
  | tables (ts : List Value)
  deriving Inhabited

def lookup (k : String) : List (String × Value) → Option Value
  | [] => none
  | (k', v) :: rest => if k' = k then some v else lookup k rest

def replaceEntry (k : String) (v : Value) : List (String × Value) → List (String × Value)
  | [] => []
  | (k', w) :: rest => if k' = k then (k', v) :: rest else (k', w) :: replaceEntry k v rest

def removeEntry (k : String) : List (String × Value) → List (String × Value)
  | [] => []
  | (k', w) :: rest => if k' = k then rest else (k', w) :: removeEntry k rest

/-- A standard table being built: its entries and how it came to exist. -/
structure Table where
  entries : List (String × Value)
  implicit : Bool
  dotted : Bool

def Table.toValue (t : Table) : Value := .table t.entries t.implicit t.dotted

/-- A TOML text could not be read; the reason says where it went wrong. -/
structure SyntaxError where
  reason : String
  deriving DecidableEq, Repr

abbrev Result (α : Type) := Except SyntaxError α

def fail {α : Type} (reason : String) : Result α := .error ⟨reason⟩

/-- Apply `f` to the table at `path` below `t`, creating implicit tables that are missing. Through
an array of tables the path goes into its last table. With `dotted`, the tables passed through
must be implicit, and the tables created are marked dotted. -/
def modifyAt {α : Type} (dotted : Bool) (f : Table → Result (Table × α)) : List String → Table → Result (Table × α)
  | [], t => f t
  | k :: ks, t =>
    match lookup k t.entries with
    | none => do
      let (child, a) ← modifyAt dotted f ks ⟨[], true, dotted⟩
      pure ({ t with entries := t.entries ++ [(k, child.toValue)] }, a)
    | some (.table es imp dot) => do
      if dotted && !imp then fail ("duplicate key " ++ k)
      else
        let (child, a) ← modifyAt dotted f ks ⟨es, imp, dot⟩
        pure ({ t with entries := replaceEntry k child.toValue t.entries }, a)
    | some (.tables ts) =>
      match ts.getLast? with
      | some (.table es imp dot) => do
        let (child, a) ← modifyAt dotted f ks ⟨es, imp, dot⟩
        pure ({ t with entries := replaceEntry k (.tables (ts.dropLast ++ [child.toValue])) t.entries }, a)
      | _ => fail ("duplicate key " ++ k)
    | some _ => fail ("cannot extend a value at key " ++ k)

end Glitch.Toml
