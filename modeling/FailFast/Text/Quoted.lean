import FailFast.Text.Printable

/-!
# Quoted text

Text inside double quotes on one line: quotes and backslashes are escaped, the common control
characters have short names, and every other character that is not printable is written by its code
point.

Main results:

- `escape_eq_self`: a printable character other than the quote and the backslash is its own escape.
-/

namespace FailFast.Text

/-- A code point in lower-case hexadecimal, braced. -/
def codePoint (c : Char) : String :=
  "\\u\x7b" ++ String.ofList (Nat.toDigits 16 c.toNat) ++ "\x7d"

/-- The escape of one character. -/
def escape (c : Char) : String :=
  if c = '\x00' then "\\0"
  else if c = '\t' then "\\t"
  else if c = '\r' then "\\r"
  else if c = '\n' then "\\n"
  else if c = '"' then "\\\""
  else if c = '\\' then "\\\\"
  else if isPrintable c then c.toString
  else codePoint c

/-- Text as a quoted literal. -/
def quoted (s : String) : String :=
  "\"" ++ String.join (s.toList.map escape) ++ "\""

theorem escape_eq_self {c : Char} (hq : c ≠ '"') (hb : c ≠ '\\') (hp : isPrintable c = true) :
    escape c = c.toString := by
  have control : ∀ d : Char, d.toNat < 32 → c ≠ d := by
    rintro d hd rfl
    simp [not_isPrintable_control hd] at hp
  simp [escape, hq, hb, hp, control '\x00' (by decide), control '\t' (by decide),
    control '\r' (by decide), control '\n' (by decide)]

end FailFast.Text
