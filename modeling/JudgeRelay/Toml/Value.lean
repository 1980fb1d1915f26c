/-!
# TOML values and documents

A TOML document is a table of keys. `Value` is what a document means once read.
`Node` is a document while it is being read: it remembers how each table came to be,
because that decides what the rest of the document may still add to it.

* A table named by a `[header]` is defined; no later header may name it again.
* A table that exists only because a longer header or key passed through it is
  implicit; one later header may still define it.
* A table made by a dotted key (`a.b = 1` makes table `a`) can only be extended by
  more dotted keys.
* A value given as `key = value`, an inline table or array included, is closed.
* An array of tables grows by one table with each `[[header]]`; headers and dotted
  keys that pass through it reach its last table.
-/

namespace JudgeRelay

namespace Toml

/-- A TOML value. Floats and date-times keep their text. -/
inductive Value where
  | string (s : String)
  | integer (n : Int)
  | float (text : String)
  | boolean (b : Bool)
  | datetime (text : String)
  | array (items : List Value)
  | table (entries : List (String × Value))
  deriving Repr, Inhabited

/-- How a table being read came to be. -/
inductive Kind where
  /-- Named by a header, or the document itself. -/
  | defined
  /-- Passed through by a longer header. -/
  | implicit
  /-- Made by a dotted key. -/
  | dotted
  /-- One table of an array of tables. -/
  | element
  deriving DecidableEq, Repr

/-- A document being read. -/
inductive Node where
  /-- A closed value. -/
  | leaf (v : Value)
  /-- A table and how it came to be. -/
  | table (kind : Kind) (entries : List (String × Node))
  /-- An array of tables, the newest first. -/
  | tables (elements : List (List (String × Node)))
  deriving Inhabited

/-- Members of a table being read. -/
abbrev Entries := List (String × Node)

/-- Replaces the node under a key, or adds it at the end. -/
def Entries.put (es : Entries) (k : String) (n : Node) : Entries :=
  if es.any (·.1 == k) then es.map fun (k', m) => if k' == k then (k, n) else (k', m)
  else es ++ [(k, n)]

/-- The node under a key. -/
def Entries.get? (es : Entries) (k : String) : Option Node :=
  (List.find? (fun e => e.1 == k) es).map (·.2)

/-- Applies `f` to the table at `path` below a table of kind `kind`, making missing
tables on the way (dotted ones when `dotted`, else implicit ones). A dotted path may
not enter a table defined by a header, and no path may enter a closed value. -/
def modifyAt (kind : Kind) (es : Entries) (dotted : Bool)
    (f : Kind → Entries → Except String Entries) : List String → Except String Entries
  | [] => f kind es
  | k :: ks =>
    match es.get? k with
    | none => do
      let fresh : Kind := if dotted then .dotted else .implicit
      let sub ← modifyAt fresh [] dotted f ks
      pure (es.put k (.table fresh sub))
    | some (.leaf _) => throw ("key " ++ k ++ " is not a table")
    | some (.tables []) => throw ("key " ++ k ++ " is empty")
    | some (.tables (e :: rest)) => do
      let sub ← modifyAt .element e dotted f ks
      pure (es.put k (.tables (sub :: rest)))
    | some (.table kd sub) =>
      if dotted && kd == .defined then throw ("table " ++ k ++ " is already defined")
      else do
        let sub ← modifyAt kd sub dotted f ks
        pure (es.put k (.table kd sub))

/-- Defines table `k` by a header: new, or implicit until now. -/
def defineTable (k : String) (es : Entries) : Except String Entries :=
  match es.get? k with
  | none => pure (es.put k (.table .defined []))
  | some (.table .implicit sub) => pure (es.put k (.table .defined sub))
  | some _ => throw ("table " ++ k ++ " is already defined")

/-- Adds a table to the array of tables `k`, making the array if new. -/
def appendTable (k : String) (es : Entries) : Except String Entries :=
  match es.get? k with
  | none => pure (es.put k (.tables [[]]))
  | some (.tables els) => pure (es.put k (.tables ([] :: els)))
  | some _ => throw ("key " ++ k ++ " is not an array of tables")

/-- Sets `path ++ [k]` to a value, below a table of kind `kind`. The table that
receives `k` must be one made by dotted keys exactly when the path is not empty, and
must not hold `k` yet. -/
def setValue (kind : Kind) (es : Entries) (path : List String) (k : String) (v : Value) :
    Except String Entries :=
  modifyAt kind es true (fun kd sub =>
    if (kd == .dotted) == path.isEmpty then throw ("key " ++ k ++ " is defined twice")
    else match sub.get? k with
      | some _ => throw ("key " ++ k ++ " is defined twice")
      | none => pure (sub.put k (.leaf v))) path

/-- What a finished document means. -/
def Node.toValue : Node → Value
  | .leaf v => v
  | .table _ es => .table (entriesValue es)
  | .tables els => .array (elementsValue els).reverse
where
  /-- Members of a finished table. -/
  entriesValue : Entries → List (String × Value)
    | [] => []
    | (k, n) :: rest => (k, n.toValue) :: entriesValue rest
  /-- Tables of a finished array of tables, newest first. -/
  elementsValue : List Entries → List Value
    | [] => []
    | es :: rest => .table (entriesValue es) :: elementsValue rest

end Toml

end JudgeRelay
