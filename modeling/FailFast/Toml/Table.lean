import FailFast.Number.Binary64

/-!
# Values and tables

A document is a table: keys in order with their values.  A table remembers how it came about,
because that decides what may still be added to it:

- a `header` table has a header line of its own and is never opened again;
- an `implied` table exists because a longer header runs through it, and may still get its header;
- a `dotted` table was made by a dotted key and takes further dotted keys only;
- an `inline` table is complete as written.

`edit` walks down a path and changes the table at its end; `assign`, `openSection` and
`closeSection` are the changes that key lines and header lines make.

Main results:

- `lookup_append_new`: appending a fresh key makes it readable.
-/

namespace FailFast.Toml

/-- How a table came about. -/
inductive Origin where
  | header
  | implied
  | dotted
  | inline
deriving DecidableEq, Inhabited

/-- A value of a document. -/
inductive Value where
  | string (text : String)
  | integer (value : Int)
  | float (value : Binary64)
  | boolean (value : Bool)
  | dateTime (text : String)
  | array (items : List Value)
  | table (origin : Origin) (entries : List (String × Value))
  | tables (sections : List (List (String × Value)))
deriving Inhabited

/-- The keys of a table with their values, in order. -/
abbrev Entries := List (String × Value)

/-- A key written with dots: the tables it runs through and its last part. -/
structure Path where
  parents : List String
  last : String
deriving DecidableEq, Inhabited

namespace Entries

/-- Replace the value of a key that is present. -/
def replace (es : Entries) (key : String) (value : Value) : Entries :=
  es.map fun e => if e.1 = key then (key, value) else e

/-- Remove a key. -/
def remove (es : Entries) (key : String) : Entries := es.filter (·.1 ≠ key)

theorem lookup_append_new {es : Entries} {key : String} {value : Value}
    (h : es.lookup key = none) : List.lookup key (es ++ [(key, value)]) = some value := by
  induction es with
  | nil => simp
  | cons e es ih =>
    obtain ⟨k, v⟩ := e
    simp only [List.lookup_cons, List.cons_append] at h ⊢
    split at h
    · simp at h
    · exact ih h

/-- Change the table at the end of a path.

A missing table on the way is made, as `dotted` on the way of a dotted key and as `implied` on the
way of a header.  A dotted key does not run through a table that has a header of its own, and
nothing runs through an inline table or a value that is no table.  In a list of tables the path
goes on in the latest one. -/
def edit (byDots : Bool) (change : Origin → Entries → Option Entries) :
    List String → Origin → Entries → Option Entries
  | [], origin, es => change origin es
  | key :: rest, _, es =>
    match es.lookup key with
    | none => do
      let made := if byDots then Origin.dotted else Origin.implied
      let sub ← edit byDots change rest made []
      return es ++ [(key, .table made sub)]
    | some (.table .inline _) => none
    | some (.table .header sub) =>
      if byDots then none
      else do
        let sub ← edit byDots change rest .header sub
        return es.replace key (.table .header sub)
    | some (.table origin sub) => do
      let sub ← edit byDots change rest origin sub
      return es.replace key (.table origin sub)
    | some (.tables sections) =>
      match sections.getLast? with
      | none => none
      | some latest => do
        let sub ← edit byDots change rest .header latest
        return es.replace key (.tables (sections.dropLast ++ [sub]))
    | some _ => none

/-- What the table at the end of a path holds, if it exists only because headers run through it. -/
def implied : List String → Entries → Entries
  | [], _ => []
  | key :: rest, es =>
    match es.lookup key with
    | some (.table origin sub) =>
      if rest.isEmpty then if origin = .implied then sub else []
      else implied rest sub
    | some (.tables sections) => implied rest (sections.getLast?.getD [])
    | _ => []

/-- Give a new key its value; keys below dots are only added to tables made by dots. -/
def assign (es : Entries) (path : Path) (value : Value) : Option Entries :=
  edit true (fun origin sub =>
    if !path.parents.isEmpty && origin ≠ .dotted then none
    else if (sub.lookup path.last).isSome then none
    else some (sub ++ [(path.last, value)])) path.parents .header es

end Entries

/-! ## Sections -/

/-- A header line: one table, or the next of a list of tables. -/
structure Header where
  path : Path
  repeated : Bool
deriving DecidableEq, Inhabited

/-- A document under construction: the finished part and the section that is being filled. -/
structure Draft where
  root : Entries
  header : Option Header
  body : Entries
deriving Inhabited

namespace Draft

/-- Nothing read yet: the section without header is being filled. -/
def start : Draft := ⟨[], none, []⟩

/-- Add a key to the section that is being filled. -/
def assign (d : Draft) (path : Path) (value : Value) : Option Draft := do
  let body ← d.body.assign path value
  return { d with body := body }

/-- Put the finished section into its place. -/
def closeSection (d : Draft) : Option Entries :=
  match d.header with
  | none => some d.body
  | some h =>
    d.root.edit false (fun _ es =>
      match h.repeated, es.lookup h.path.last with
      | true, none => some (es ++ [(h.path.last, .tables [d.body])])
      | true, some (.tables sections) =>
        some (es.replace h.path.last (.tables (sections ++ [d.body])))
      | true, some _ => none
      | false, none => some (es ++ [(h.path.last, .table .header d.body)])
      | false, some (.table .implied _) => some (es.replace h.path.last (.table .header d.body))
      | false, some _ => none) h.path.parents .header

/-- Finish the current section and start the one of a header, which keeps what a table that was only
implied already holds.  A header for a table that is taken is refused when its section is closed. -/
def openSection (d : Draft) (h : Header) : Option Draft := do
  let root ← d.closeSection
  let body := if h.repeated then [] else Entries.implied (h.path.parents ++ [h.path.last]) root
  return ⟨root, some h, body⟩

end Draft

end FailFast.Toml
