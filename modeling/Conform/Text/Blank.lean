/-!
# Blank Characters

The characters that count as white space around a number: the control characters that
move the carriage or separate records, the ordinary space, and the spaces and line
separators of Unicode.
-/

namespace Conform.Text

/-- Whether a character is white space. -/
def isBlank (c : Char) : Bool :=
  let n := c.toNat
  (0x9 ≤ n && n ≤ 0xD) || (0x1C ≤ n && n ≤ 0x20) || n == 0x85 || n == 0xA0 || n == 0x1680 ||
    (0x2000 ≤ n && n ≤ 0x200A) || n == 0x2028 || n == 0x2029 || n == 0x202F || n == 0x205F ||
    n == 0x3000

/-- Whether a character is white space that may stand around a number that is read as a
whole; the control characters that separate records may not. -/
def isPadding (c : Char) : Bool := isBlank c && !(0x1C ≤ c.toNat && c.toNat ≤ 0x1F)

/-- A text without its leading white space. -/
def trimLeft (cs : List Char) : List Char := cs.dropWhile isBlank

/-- A text without white space at either end. -/
def trim (cs : List Char) : List Char :=
  (trimLeft (trimLeft cs).reverse).reverse

/-- A text without the white space that may stand around a number. -/
def trimPadding (cs : List Char) : List Char :=
  ((cs.dropWhile isPadding).reverse.dropWhile isPadding).reverse

/-- What `trimLeft` leaves does not start with white space. -/
theorem trimLeft_head (cs : List Char) (c : Char) (h : (trimLeft cs).head? = some c) :
    isBlank c = false := by
  induction cs with
  | nil => simp [trimLeft] at h
  | cons d rest ih =>
    by_cases hd : isBlank d
    · exact ih (by simpa [trimLeft, List.dropWhile_cons, hd] using h)
    · have : d = c := by simpa [trimLeft, List.dropWhile_cons, hd] using h
      subst this
      simpa using hd

/-- A text that does not start with white space is left as it is. -/
theorem trimLeft_cons_of_not_blank {c : Char} (rest : List Char) (h : isBlank c = false) :
    trimLeft (c :: rest) = c :: rest := by
  simp [trimLeft, h]

end Conform.Text
