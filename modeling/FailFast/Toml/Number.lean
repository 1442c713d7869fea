import FailFast.Toml.Lexical

/-!
# Numbers

Integers are decimal with an optional sign, or hexadecimal, octal or binary without one, and fit in
64 bits.  Floats are decimal with a fraction, an exponent or both, or one of the special values.
Underscores may stand between two digits.

Main results:

- `digits_plain`: without underscores a run of digits is read to its end.
-/

namespace FailFast.Toml

/-- Read digits with single underscores between them; the underscores are dropped. -/
def digits (isDigit : Char → Bool) : List Char → List Char × List Char
  | '_' :: c :: rest =>
    if isDigit c then
      let (more, rest) := digits isDigit rest
      (c :: more, rest)
    else ([], '_' :: c :: rest)
  | c :: rest =>
    if isDigit c then
      let (more, rest) := digits isDigit rest
      (c :: more, rest)
    else ([], c :: rest)
  | [] => ([], [])

theorem digits_plain {isDigit : Char → Bool} (hu : isDigit '_' = false) {cs : List Char}
    (h : ∀ c ∈ cs, isDigit c = true) : digits isDigit cs = (cs, []) := by
  induction cs with
  | nil => rfl
  | cons c cs ih =>
    have hc : isDigit c = true := h c (by simp)
    have ne : c ≠ '_' := by
      rintro rfl
      simp [hu] at hc
    have rest := ih fun d hd => h d (by simp [hd])
    cases cs with
    | nil => simp [digits, hc]
    | cons d cs =>
      unfold digits
      split
      · next heq => exact absurd (List.cons.inj heq).1 ne
      · next heq =>
        obtain ⟨rfl, rfl⟩ := List.cons.inj heq
        simp [hc, rest]
      · next heq => simp at heq

/-- Decimal digits. -/
def isDecimal (c : Char) : Bool := '0' ≤ c && c ≤ '9'

/-- The value of digits in a base. -/
def digitsValue (base : Nat) (ds : List Char) : Nat :=
  ds.foldl (fun n c => base * n + (hexDigit? c).getD 0) 0

/-- A nonempty run of digits, not starting with an underscore. -/
def digitRun (isDigit : Char → Bool) : Reader (List Char)
  | c :: rest =>
    if isDigit c then
      let (more, rest) := digits isDigit rest
      some (c :: more, rest)
    else none
  | [] => none

/-- An optional sign. -/
def sign : List Char → Bool × List Char
  | '-' :: rest => (true, rest)
  | '+' :: rest => (false, rest)
  | cs => (false, cs)

/-- A decimal run without leading zeros; a zero stands alone. -/
def decimalRun : Reader (List Char)
  | '0' :: rest => some (['0'], rest)
  | cs => digitRun isDecimal cs

/-- A decimal integer with its sign. -/
def signedDecimal : Reader (Bool × List Char) := fun cs => do
  let (negative, rest) := sign cs
  let (ds, rest) ← decimalRun rest
  return ((negative, ds), rest)

/-- Keep an integer that fits in 64 bits. -/
def fitting (value : Int) (rest : List Char) : Option (Int × List Char) :=
  if -9223372036854775808 ≤ value ∧ value ≤ 9223372036854775807 then some (value, rest) else none

/-- An integer in a base given by a marker. -/
def based (base : Nat) (isDigit : Char → Bool) : Reader Int := fun cs => do
  let (ds, rest) ← digitRun isDigit cs
  fitting (digitsValue base ds) rest

/-- An integer. -/
def integer : Reader Int
  | '0' :: 'x' :: rest => based 16 (fun c => (hexDigit? c).isSome) rest
  | '0' :: 'o' :: rest => based 8 (fun c => '0' ≤ c && c ≤ '7') rest
  | '0' :: 'b' :: rest => based 2 (fun c => c = '0' || c = '1') rest
  | cs => do
    let ((negative, ds), rest) ← signedDecimal cs
    let value := (digitsValue 10 ds : Int)
    fitting (if negative then -value else value) rest

/-- An exponent. -/
def exponentPart : Reader Int
  | c :: rest =>
    if c = 'e' || c = 'E' then do
      let (negative, rest) := sign rest
      let (ds, rest) ← digitRun isDecimal rest
      let value := (digitsValue 10 ds : Int)
      return (if negative then -value else value, rest)
    else none
  | [] => none

/-- A fraction: its digits after the point. -/
def fractionPart : Reader (List Char)
  | '.' :: rest => digitRun isDecimal rest
  | _ => none

/-- An exponent where one starts, else none. -/
def exponentIfAny : Reader Int
  | c :: rest => if c = 'e' || c = 'E' then exponentPart (c :: rest) else some (0, c :: rest)
  | [] => some (0, [])

/-- What makes a number a float: an exponent, or a fraction that an exponent may follow. -/
def floatTail : Reader (List Char × Int) := fun cs =>
  match exponentPart cs with
  | some (exponent, rest) => some (([], exponent), rest)
  | none => do
    let (fraction, rest) ← fractionPart cs
    let (exponent, rest) ← exponentIfAny rest
    return ((fraction, exponent), rest)

/-- A decimal float; one that rounds to positive infinity is refused. -/
def decimalFloat : Reader Binary64 := fun cs => do
  let ((negative, whole), rest) ← signedDecimal cs
  let ((fraction, exponent), rest) ← floatTail rest
  let value := Binary64.ofDecimal negative (digitsValue 10 (whole ++ fraction))
    (exponent - fraction.length)
  if value = .infinite false then none else some (value, rest)

/-- The words for infinity and `nan`, with an optional sign. -/
def specialFloat : Reader Binary64 := fun cs =>
  let (negative, rest) := sign cs
  match rest with
  | 'i' :: 'n' :: 'f' :: rest => some (.infinite negative, rest)
  | 'n' :: 'a' :: 'n' :: rest => some (.nan, rest)
  | _ => none

/-- A float. -/
def float : Reader Binary64 := fun cs => (decimalFloat cs).or (specialFloat cs)

end FailFast.Toml
