import ServiceCharter.Toml.Value

/-!
# Building TOML tables

A document names its tables in headers and in dotted keys, and a table may be named before it is
defined. `TableKind` remembers how a table came to be, which decides how it may still grow:

* a header may define a table that was only named on the way to another, but no table twice;
* a dotted key enters tables that have no header, and it adds only to tables made by dotted keys;
* the name of a list of tables stands for its last element;
* a value is complete.
-/

namespace ServiceCharter.Toml

/-- How a table came to be. -/
inductive TableKind where
  /-- Its own header defined it; so is the table of the whole document. -/
  | headed
  /-- The header of a table inside it named it. -/
  | implied
  /-- A dotted key named it. -/
  | dotted
deriving DecidableEq, Repr

/-- What stands under a key. -/
inductive Entry where
  | value (v : Value)
  | table (kind : TableKind) (entries : List (String × Entry))
  /-- A list of tables: the last element, and those before it, the latest first. -/
  | tables (last : List (String × Entry)) (earlier : List (List (String × Entry)))

/-- A table that is being built. -/
structure Open where
  kind : TableKind
  entries : Table Entry

namespace Open

/-- A table without entries. -/
def empty (kind : TableKind) : Open := ⟨kind, []⟩

/-- The table with an entry stored under a key. -/
def put (t : Open) (key : String) (e : Entry) : Open := ⟨t.kind, t.entries.insert key e⟩

/-- Changes the table to which a path leads; tables on the way that do not exist are made. The flag
says that the path belongs to a dotted key. -/
def modifyAt (viaDotted : Bool) (change : Open → Option Open) : List String → Open → Option Open
  | [], t => change t
  | key :: path, t =>
    match t.entries.get? key with
    | none =>
      (modifyAt viaDotted change path (empty (if viaDotted then .dotted else .implied))).map
        fun u => t.put key (.table u.kind u.entries)
    | some (.value _) => none
    | some (.table kind entries) =>
      if viaDotted && kind == .headed then none
      else
        (modifyAt viaDotted change path ⟨kind, entries⟩).map
          fun u => t.put key (.table u.kind u.entries)
    | some (.tables last earlier) =>
      (modifyAt viaDotted change path ⟨.headed, last⟩).map
        fun u => t.put key (.tables u.entries earlier)

/-- Adds a value under a new key, behind the path of a dotted key. -/
def add (t : Open) (path : List String) (key : String) (v : Value) : Option Open :=
  t.modifyAt true
    (fun u =>
      -- A dotted key ends in a table that dotted keys made, and a plain key never does.
      if (u.kind == .dotted) == path.isEmpty || (u.entries.get? key).isSome then none
      else some (u.put key (.value v)))
    path

/-- Defines the table with a key by its header. -/
def define (t : Open) (key : String) : Option Open :=
  match t.entries.get? key with
  | none => some (t.put key (.table .headed []))
  | some (.table .implied entries) => some (t.put key (.table .headed entries))
  | some _ => none

/-- Begins a new element of the list of tables with a key. -/
def defineElement (t : Open) (key : String) : Option Open :=
  match t.entries.get? key with
  | none => some (t.put key (.tables [] []))
  | some (.tables last earlier) => some (t.put key (.tables [] (last :: earlier)))
  | some _ => none

end Open

/-! ### Finished tables -/

mutual

/-- The value that an entry is. -/
def Entry.close : Entry → Value
  | .value v => v
  | .table _ entries => .table (closeAll entries)
  | .tables last earlier => .array ((closeElements earlier).reverse ++ [.table (closeAll last)])

/-- The members that the entries of a table are. -/
def closeAll : List (String × Entry) → List (String × Value)
  | [] => []
  | (key, e) :: entries => (key, e.close) :: closeAll entries

/-- The values that the elements of a list of tables are. -/
def closeElements : List (List (String × Entry)) → List Value
  | [] => []
  | entries :: elements => .table (closeAll entries) :: closeElements elements

end

/-- A key with the path of its dots, and its value. -/
structure Pair where
  path : List String
  key : String
  value : Value

/-- The members of an inline table. -/
def inlineTable? (pairs : List Pair) : Option (Table Value) :=
  (pairs.foldlM (fun (t : Open) p => t.add p.path p.key p.value) (Open.empty .headed)).map
    fun t => closeAll t.entries

/-! ### Documents -/

/-- A statement of a document. -/
inductive Statement where
  | pair (p : Pair)
  | header (path : List String) (key : String)
  | elementHeader (path : List String) (key : String)

/-- A document that is being built: its table, and the path of the table to which pairs are
added. -/
structure Builder where
  root : Open
  current : List String

/-- Takes up a statement. -/
def Builder.step (b : Builder) : Statement → Option Builder
  | .pair p =>
    (b.root.modifyAt false (fun t => t.add p.path p.key p.value) b.current).map
      fun root => ⟨root, b.current⟩
  | .header path key =>
    (b.root.modifyAt false (fun t => t.define key) path).map fun root => ⟨root, path ++ [key]⟩
  | .elementHeader path key =>
    (b.root.modifyAt false (fun t => t.defineElement key) path).map
      fun root => ⟨root, path ++ [key]⟩

/-- The members of the document that the statements make. -/
def document? (statements : List Statement) : Option (Table Value) :=
  (statements.foldlM Builder.step ⟨Open.empty .headed, []⟩).map fun b => closeAll b.root.entries

end ServiceCharter.Toml
