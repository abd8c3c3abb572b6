import LifeStory.Text.Digit

/-!
# Texts between quotes

Four kinds: between double or single quotes, on one line or on many. Only those in double quotes
know escapes. The readers here take what comes after the opening quotes, and give the characters
of the text and what follows its closing quotes.
-/

namespace LifeStory.Toml

/-- The blanks within a line. -/
def isGap (c : Char) : Bool := c == ' ' || c == '\t'

/-- May the character stand in a comment, or in a text as itself? Control characters may not,
except the tabulator. -/
def isPrintable (c : Char) : Bool :=
  let n := c.toNat
  c == '\t' || (0x20 ≤ n && n != 0x7F)

/-- The character with a hexadecimal number. Surrogates are no characters. -/
def scalar? (digits : List Char) : Option Char := do
  let n ← digits.foldlM (fun n c => (Text.hexDigit? c).map (16 * n + ·)) 0
  if n.isValidChar then some (Char.ofNat n) else none

/-- The character that a one-letter escape stands for. -/
def escaped? : Char → Option Char
  | '"' => some '"'
  | '\\' => some '\\'
  | 'b' => some '\x08'
  | 'f' => some '\x0c'
  | 'n' => some '\n'
  | 'r' => some '\r'
  | 't' => some '\t'
  | _ => none

/-- Where in a text of many lines a reader stands. -/
inductive LinePart where
  | plain
  /-- After a backslash and blanks: the line has to end. -/
  | broken
  /-- After a broken line: blanks and line ends do not count. -/
  | skipped

/-- A text in double quotes on one line; `read` is what was read, last first. -/
def doubleQuoted (read : List Char) : List Char → Option (List Char × List Char)
  | '"' :: rest => some (read.reverse, rest)
  | '\\' :: 'u' :: a :: b :: c :: d :: rest =>
    (scalar? [a, b, c, d]).bind fun x => doubleQuoted (x :: read) rest
  | '\\' :: 'U' :: a :: b :: c :: d :: e :: f :: g :: h :: rest =>
    (scalar? [a, b, c, d, e, f, g, h]).bind fun x => doubleQuoted (x :: read) rest
  | '\\' :: c :: rest => (escaped? c).bind fun x => doubleQuoted (x :: read) rest
  | c :: rest => if isPrintable c && c != '\\' then doubleQuoted (c :: read) rest else none
  | [] => none

/-- A text in single quotes on one line. -/
def singleQuoted (read : List Char) : List Char → Option (List Char × List Char)
  | '\x27' :: rest => some (read.reverse, rest)
  | c :: rest => if isPrintable c then singleQuoted (c :: read) rest else none
  | [] => none

/-- A text in double quotes on many lines. Up to two quotes may stand before the closing three. -/
def doubleQuotedLines (read : List Char) :
    LinePart → List Char → Option (List Char × List Char)
  | .broken, '\n' :: rest => doubleQuotedLines read .skipped rest
  | .broken, '\r' :: '\n' :: rest => doubleQuotedLines read .skipped rest
  | .broken, c :: rest => if isGap c then doubleQuotedLines read .broken rest else none
  | .skipped, '\n' :: rest => doubleQuotedLines read .skipped rest
  | .skipped, '\r' :: '\n' :: rest => doubleQuotedLines read .skipped rest
  | _, '"' :: '"' :: '"' :: '"' :: '"' :: rest => some (('"' :: '"' :: read).reverse, rest)
  | _, '"' :: '"' :: '"' :: '"' :: rest => some (('"' :: read).reverse, rest)
  | _, '"' :: '"' :: '"' :: rest => some (read.reverse, rest)
  | _, '\\' :: 'u' :: a :: b :: c :: d :: rest =>
    (scalar? [a, b, c, d]).bind fun x => doubleQuotedLines (x :: read) .plain rest
  | _, '\\' :: 'U' :: a :: b :: c :: d :: e :: f :: g :: h :: rest =>
    (scalar? [a, b, c, d, e, f, g, h]).bind fun x => doubleQuotedLines (x :: read) .plain rest
  | _, '\\' :: '\n' :: rest => doubleQuotedLines read .skipped rest
  | _, '\\' :: '\r' :: '\n' :: rest => doubleQuotedLines read .skipped rest
  | _, '\\' :: c :: rest =>
    if isGap c then doubleQuotedLines read .broken rest
    else (escaped? c).bind fun x => doubleQuotedLines (x :: read) .plain rest
  | _, '\r' :: '\n' :: rest => doubleQuotedLines ('\n' :: read) .plain rest
  | part, c :: rest =>
    match part, isGap c with
    | .skipped, true => doubleQuotedLines read .skipped rest
    | _, _ =>
      if (isPrintable c && c != '\\') || c == '\n' then doubleQuotedLines (c :: read) .plain rest
      else none
  | _, [] => none

/-- A text in single quotes on many lines. -/
def singleQuotedLines (read : List Char) : List Char → Option (List Char × List Char)
  | '\x27' :: '\x27' :: '\x27' :: '\x27' :: '\x27' :: rest =>
    some (('\x27' :: '\x27' :: read).reverse, rest)
  | '\x27' :: '\x27' :: '\x27' :: '\x27' :: rest => some (('\x27' :: read).reverse, rest)
  | '\x27' :: '\x27' :: '\x27' :: rest => some (read.reverse, rest)
  | '\r' :: '\n' :: rest => singleQuotedLines ('\n' :: read) rest
  | c :: rest =>
    if isPrintable c || c == '\n' then singleQuotedLines (c :: read) rest else none
  | [] => none

/-- What is left after a line end right behind the opening quotes. -/
def dropLineEnd : List Char → List Char
  | '\n' :: rest => rest
  | '\r' :: '\n' :: rest => rest
  | cs => cs

/-- A text of one line, with its opening quote. -/
def textOfLine? : List Char → Option (List Char × List Char)
  | '"' :: rest => doubleQuoted [] rest
  | '\x27' :: rest => singleQuoted [] rest
  | _ => none

/-- A text of any kind, with its opening quotes. -/
def text? : List Char → Option (List Char × List Char)
  | '"' :: '"' :: '"' :: rest => doubleQuotedLines [] .plain (dropLineEnd rest)
  | '\x27' :: '\x27' :: '\x27' :: rest => singleQuotedLines [] (dropLineEnd rest)
  | cs => textOfLine? cs

end LifeStory.Toml
