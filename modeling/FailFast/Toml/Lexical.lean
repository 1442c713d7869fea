import FailFast.Toml.Table

/-!
# Lexical elements

Readers take characters off the front of a text: each answers with what it read and the rest, or
with `none` where the text does not start with what it reads.

This module holds blanks, comments, line ends, bare and quoted keys, and the four kinds of strings.

Main results:

- `skipBlank_idem`: blanks are skipped all at once.
-/

namespace FailFast.Toml

/-- A function that reads the front of a text. -/
abbrev Reader (α : Type) := List Char → Option (α × List Char)

/-- Spaces and tabs. -/
def isBlank (c : Char) : Bool := c = ' ' || c = '\t'

/-- Characters that stand for themselves in comments and literal strings, quotes included. -/
def isText (c : Char) : Bool := c = '\t' || (32 ≤ c.toNat && c.toNat ≤ 126) || 128 ≤ c.toNat

/-- Skip blanks. -/
def skipBlank (cs : List Char) : List Char := cs.dropWhile isBlank

theorem skipBlank_idem (cs : List Char) : skipBlank (skipBlank cs) = skipBlank cs := by
  induction cs with
  | nil => rfl
  | cons c cs ih =>
    by_cases h : isBlank c = true
    · simpa [skipBlank, List.dropWhile_cons, h] using ih
    · simp [skipBlank, h]

/-- Read a line end. -/
def newline : List Char → Option (List Char)
  | '\n' :: rest => some rest
  | '\r' :: '\n' :: rest => some rest
  | _ => none

/-- Skip a comment. -/
def skipComment : List Char → List Char
  | '#' :: rest => rest.dropWhile isText
  | cs => cs

/-- Read blanks, a comment and the end of the line or of the text. -/
def lineEnd (cs : List Char) : Option (List Char) :=
  match skipComment (skipBlank cs) with
  | [] => some []
  | rest => newline rest

/-- Skip blanks, line ends and comments; `inComment` says whether a comment is being skipped. -/
def skipTrivia (inComment : Bool) : List Char → List Char
  | [] => []
  | '\r' :: '\n' :: rest => skipTrivia false rest
  | c :: rest =>
    if inComment && isText c then skipTrivia true rest
    else if isBlank c || c = '\n' then skipTrivia false rest
    else if c = '#' then skipTrivia true rest
    else c :: rest

/-- Skip blanks and line ends. -/
def skipLines : List Char → List Char
  | [] => []
  | '\r' :: '\n' :: rest => skipLines rest
  | c :: rest => if isBlank c || c = '\n' then skipLines rest else c :: rest

/-! ## Escapes -/

/-- The value of a hexadecimal digit. -/
def hexDigit? (c : Char) : Option Nat :=
  if '0' ≤ c && c ≤ '9' then some (c.toNat - '0'.toNat)
  else if 'a' ≤ c && c ≤ 'f' then some (c.toNat - 'a'.toNat + 10)
  else if 'A' ≤ c && c ≤ 'F' then some (c.toNat - 'A'.toNat + 10)
  else none

/-- The character whose code point is written with exactly `count` hexadecimal digits. -/
def hexScalar (count : Nat) : Reader Char := fun cs => do
  let digits ← (cs.take count).mapM hexDigit?
  if digits.length < count then none
  else
    let code := digits.foldl (fun n d => 16 * n + d) 0
    if h : code.isValidChar then some (Char.ofNatAux code h, cs.drop count) else none

/-- The character that an escape stands for, after its backslash. -/
def escaped : Reader Char
  | 'b' :: rest => some ('\x08', rest)
  | 't' :: rest => some ('\t', rest)
  | 'n' :: rest => some ('\n', rest)
  | 'f' :: rest => some ('\x0c', rest)
  | 'r' :: rest => some ('\r', rest)
  | '"' :: rest => some ('"', rest)
  | '\\' :: rest => some ('\\', rest)
  | 'u' :: rest => hexScalar 4 rest
  | 'U' :: rest => hexScalar 8 rest
  | _ => none

/-! ## Strings on one line -/

/-- The rest of a basic string, in at most `fuel` steps; `done` holds what was read, latest first.
-/
def basicBody : Nat → List Char → Reader String
  | 0, _, _ => none
  | fuel + 1, done, cs =>
    match cs with
    | '"' :: rest => some (String.ofList done.reverse, rest)
    | '\\' :: rest => do
      let (c, rest) ← escaped rest
      basicBody fuel (c :: done) rest
    | c :: rest => if isText c then basicBody fuel (c :: done) rest else none
    | [] => none

/-- A string in double quotes on one line. -/
def basicString : Reader String
  | '"' :: rest => basicBody (rest.length + 1) [] rest
  | _ => none

/-- A string in single quotes on one line. -/
def literalString : Reader String
  | '\'' :: rest =>
    let isPlain := fun c => isText c && c ≠ '\''
    match rest.dropWhile isPlain with
    | '\'' :: after => some (String.ofList (rest.takeWhile isPlain), after)
    | _ => none
  | _ => none

/-! ## Strings over several lines -/

/-- The end of a string over several lines, at a run of `run` quotes: up to two of them still belong
to the text, and the last three of at most five close it. -/
def closingQuotes (run : Nat) : Option Nat :=
  if run < 3 then none else some (min run 5 - 3)

/-- The rest of a basic string over several lines. -/
def multilineBasicBody : Nat → List Char → Reader String
  | 0, _, _ => none
  | fuel + 1, done, cs =>
    match cs with
    | '"' :: _ =>
      let run := (cs.takeWhile (· = '"')).length
      match closingQuotes run with
      | some kept =>
        some (String.ofList (List.replicate kept '"' ++ done).reverse, cs.drop (kept + 3))
      | none => multilineBasicBody fuel (List.replicate run '"' ++ done) (cs.drop run)
    | '\\' :: rest =>
      match newline (skipBlank rest) with
      | some after => multilineBasicBody fuel done (skipLines after)
      | none => do
        let (c, rest) ← escaped rest
        multilineBasicBody fuel (c :: done) rest
    | c :: rest =>
      match newline cs with
      | some after => multilineBasicBody fuel ('\n' :: done) after
      | none => if isText c then multilineBasicBody fuel (c :: done) rest else none
    | [] => none

/-- The rest of a literal string over several lines. -/
def multilineLiteralBody : Nat → List Char → Reader String
  | 0, _, _ => none
  | fuel + 1, done, cs =>
    match cs with
    | '\'' :: _ =>
      let run := (cs.takeWhile (· = '\'')).length
      match closingQuotes run with
      | some kept =>
        some (String.ofList (List.replicate kept '\'' ++ done).reverse, cs.drop (kept + 3))
      | none => multilineLiteralBody fuel (List.replicate run '\'' ++ done) (cs.drop run)
    | c :: rest =>
      match newline cs with
      | some after => multilineLiteralBody fuel ('\n' :: done) after
      | none => if isText c then multilineLiteralBody fuel (c :: done) rest else none
    | [] => none

/-- Skip one line end, if there is one. -/
def skipNewline (cs : List Char) : List Char := (newline cs).getD cs

/-- A string of any kind. -/
def anyString : Reader String
  | '"' :: '"' :: '"' :: rest => multilineBasicBody (rest.length + 1) [] (skipNewline rest)
  | '\'' :: '\'' :: '\'' :: rest => multilineLiteralBody (rest.length + 1) [] (skipNewline rest)
  | '"' :: rest => basicString ('"' :: rest)
  | '\'' :: rest => literalString ('\'' :: rest)
  | _ => none

/-! ## Keys -/

/-- Characters of a key without quotes. -/
def isBareKey (c : Char) : Bool :=
  ('a' ≤ c && c ≤ 'z') || ('A' ≤ c && c ≤ 'Z') || ('0' ≤ c && c ≤ '9') || c = '_' || c = '-'

/-- One part of a key. -/
def keyPart : Reader String
  | '"' :: rest => basicString ('"' :: rest)
  | '\'' :: rest => literalString ('\'' :: rest)
  | cs =>
    let bare := cs.takeWhile isBareKey
    if bare.isEmpty then none else some (String.ofList bare, cs.dropWhile isBareKey)

/-- The parts of a key, with blanks around each and dots between them. -/
def keyParts : Nat → Reader (List String)
  | 0, _ => none
  | fuel + 1, cs => do
    let (part, rest) ← keyPart (skipBlank cs)
    match skipBlank rest with
    | '.' :: after => do
      let (parts, rest) ← keyParts fuel after
      return (part :: parts, rest)
    | rest => return ([part], rest)

/-- The greatest number of parts of a key, and of values nested in one another. -/
def nestingLimit : Nat := 79

/-- A key with dots, of a limited number of parts. -/
def keyPath : Reader Path := fun cs => do
  let (parts, rest) ← keyParts nestingLimit cs
  let last ← parts.getLast?
  return (⟨parts.dropLast, last⟩, rest)

end FailFast.Toml
