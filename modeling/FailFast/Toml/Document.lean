import FailFast.Toml.DateTime

/-!
# Documents

A document is a sequence of lines: key lines, header lines and blank or comment lines.  Values nest
in arrays and inline tables up to a limit.

Main results:

- `parse_empty`: the empty text is the empty table.
-/

namespace FailFast.Toml

/-- A word that stands for a value. -/
def keyword (word : String) (value : Value) : Reader Value := fun cs =>
  if word.toList.isPrefixOf cs then some (value, cs.drop word.length) else none

/-- A number, a date or a time. -/
def numeric : Reader Value := fun cs =>
  match dateTime cs with
  | some (text, rest) => some (.dateTime text, rest)
  | none =>
    match float cs with
    | some (x, rest) => some (.float x, rest)
    | none => (integer cs).map fun (i, rest) => (.integer i, rest)

/-- A value that is not made of other values. -/
def scalar : Reader Value := fun cs =>
  match cs with
  | [] => none
  | c :: _ =>
    if c = '"' || c = '\'' then (anyString cs).map fun (s, rest) => (.string s, rest)
    else if isDecimal c || c = '+' || c = '-' then numeric cs
    else if c = 't' then keyword "true" (.boolean true) cs
    else if c = 'f' then keyword "false" (.boolean false) cs
    else if c = 'i' || c = 'n' then (specialFloat cs).map fun (x, rest) => (.float x, rest)
    else none

/-- The items of an array after its opening bracket, in at most `fuel` steps.

Blanks, line ends and comments may stand around items, and a comma may follow the last one. -/
def arrayItems (item : Reader Value) : Nat → Reader (List Value)
  | 0, _ => none
  | fuel + 1, cs =>
    match skipTrivia false cs with
    | ']' :: rest => some ([], rest)
    | cs => do
      let (value, rest) ← item cs
      match skipTrivia false rest with
      | ',' :: rest => do
        let (values, rest) ← arrayItems item fuel rest
        return (value :: values, rest)
      | ']' :: rest => return ([value], rest)
      | _ => none

/-- A key, an equals sign and a value, with blanks around each. -/
def keyValue (item : Reader Value) : Reader (Path × Value) := fun cs => do
  let (path, rest) ← keyPath cs
  let rest ← expect '=' rest
  let (value, rest) ← item (skipBlank rest)
  return ((path, value), rest)

/-- The entries of an inline table after its opening brace, in at most `fuel` steps; no comma
follows the last one. -/
def inlineEntries (item : Reader Value) : Nat → Entries → Reader Entries
  | 0, _, _ => none
  | fuel + 1, done, cs => do
    let ((path, value), rest) ← keyValue item cs
    let done ← done.assign path value
    match skipBlank rest with
    | ',' :: rest => inlineEntries item fuel done rest
    | '\x7d' :: rest => return (done, rest)
    | _ => none

/-- A value that nests others at most `depth` deep. -/
def value : Nat → Reader Value
  | 0 => scalar
  | depth + 1 => fun cs =>
    match cs with
    | '[' :: rest =>
      (arrayItems (value depth) (rest.length + 1) rest).map fun (items, rest) =>
        (.array items, rest)
    | '\x7b' :: rest =>
      match skipBlank rest with
      | '\x7d' :: rest => some (.table .inline [], rest)
      | _ =>
        (inlineEntries (value depth) (rest.length + 1) [] rest).map fun (es, rest) =>
          (.table .inline es, rest)
    | _ => scalar cs

/-- A header line after its opening bracket. -/
def headerLine (cs : List Char) : Option (Header × List Char) := do
  let repeated := cs.head? = some '['
  let (path, rest) ← keyPath (if repeated then cs.drop 1 else cs)
  let rest ← expect ']' rest
  let rest ← if repeated then expect ']' rest else some rest
  let rest ← lineEnd rest
  return (⟨path, repeated⟩, rest)

/-- A key line. -/
def keyLine (cs : List Char) : Option ((Path × Value) × List Char) := do
  let (entry, rest) ← keyValue (value nestingLimit) cs
  let rest ← lineEnd rest
  return (entry, rest)

/-- Read lines into a draft, in at most `fuel` steps. -/
def lines : Nat → Draft → List Char → Option Draft
  | 0, _, _ => none
  | fuel + 1, draft, cs =>
    match skipBlank cs with
    | [] => some draft
    | '#' :: rest => do
      let rest ← lineEnd ('#' :: rest)
      lines fuel draft rest
    | '[' :: rest => do
      let (header, rest) ← headerLine rest
      let draft ← draft.openSection header
      lines fuel draft rest
    | cs =>
      match newline cs with
      | some rest => lines fuel draft rest
      | none => do
        let ((path, value), rest) ← keyLine cs
        let draft ← draft.assign path value
        lines fuel draft rest

/-- Drop a byte order mark. -/
def skipMark : List Char → List Char
  | '\ufeff' :: rest => rest
  | cs => cs

/-- The table that a text describes. -/
def parse (text : String) : Option Entries := do
  let cs := skipMark text.toList
  let draft ← lines (cs.length + 1) .start cs
  draft.closeSection

theorem parse_empty : parse "" = some [] := by
  rfl

end FailFast.Toml
