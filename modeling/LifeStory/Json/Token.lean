import LifeStory.Json.Literal
import LifeStory.Text.Digit

/-!
# Tokens

A text is cut into tokens by a machine that takes one character at a time (`Lexer.feed`), so that
what it does on a text is a fold, and what it does on `s ++ t` is what it does on `s` and then on
`t` (`feedAll_append`).
-/

namespace LifeStory.Json

inductive Token where
  | openList
  | closeList
  | openTable
  | closeTable
  | comma
  | colon
  | null
  | bool (b : Bool)
  | number (l : Literal)
  /-- A text; none if it has half of a surrogate pair. -/
  | text (s : Option String)
deriving DecidableEq

/-! ## Numbers -/

/-- Where in a number a reader stands: what the last character was. -/
inductive NumberPart where
  | sign
  | zero
  | whole
  | point
  | fraction
  | mark
  | markSign
  | exponent
deriving DecidableEq

/-- A number of which some characters are read; digits are kept last first. -/
structure PartialNumber where
  part : NumberPart
  negative : Bool
  whole : List Nat
  fraction : List Nat
  exponentNegative : Bool
  exponent : Nat
deriving DecidableEq

namespace PartialNumber

/-- A number whose first character is read. -/
def start? (c : Char) : Option PartialNumber :=
  if c == '-' then some ⟨.sign, true, [], [], false, 0⟩
  else (Text.digit? c).map fun d =>
    ⟨if d == 0 then .zero else .whole, false, [d], [], false, 0⟩

/-- Is the number complete if nothing follows? -/
def complete (n : PartialNumber) : Bool :=
  match n.part with
  | .zero | .whole | .fraction | .exponent => true
  | .sign | .point | .mark | .markSign => false

/-- The number with one more character; none if the character does not continue it. -/
def extend? (n : PartialNumber) (c : Char) : Option PartialNumber :=
  let isMark := c == 'e' || c == 'E'
  match n.part with
  | .sign => (Text.digit? c).map fun d =>
      { n with part := if d == 0 then .zero else .whole, whole := [d] }
  | .zero =>
    if c == '.' then some { n with part := .point }
    else if isMark then some { n with part := .mark }
    else none
  | .whole =>
    if c == '.' then some { n with part := .point }
    else if isMark then some { n with part := .mark }
    else (Text.digit? c).map fun d => { n with whole := d :: n.whole }
  | .point => (Text.digit? c).map fun d => { n with part := .fraction, fraction := [d] }
  | .fraction =>
    if isMark then some { n with part := .mark }
    else (Text.digit? c).map fun d => { n with fraction := d :: n.fraction }
  | .mark =>
    if c == '+' then some { n with part := .markSign }
    else if c == '-' then some { n with part := .markSign, exponentNegative := true }
    else (Text.digit? c).map fun d => { n with part := .exponent, exponent := d }
  | .markSign => (Text.digit? c).map fun d => { n with part := .exponent, exponent := d }
  | .exponent => (Text.digit? c).map fun d => { n with exponent := 10 * n.exponent + d }

/-- The literal of a complete number. -/
def literal (n : PartialNumber) : Literal where
  negative := n.negative
  whole := n.whole.reverse
  fraction := n.fraction.reverse
  exponent :=
    if n.part == .exponent then
      some (if n.exponentNegative then -(n.exponent : Int) else n.exponent)
    else none

end PartialNumber

/-! ## Texts -/

/-- Where in a text a reader stands. -/
inductive TextPart where
  | plain
  | escape
  /-- `left` digits of a code unit are still to come. -/
  | unit (left : Nat) (value : Nat)
deriving DecidableEq

/-- A text of which some characters are read, last first. `high` is the first half of a surrogate
pair that waits for the second; `broken` says that some half had no other. -/
structure PartialText where
  chars : List Char
  high : Option Nat
  broken : Bool
  part : TextPart
deriving DecidableEq

/-- The character that a one-letter escape stands for. -/
def escaped? : Char → Option Char
  | '"' => some '"'
  | '\\' => some '\\'
  | '/' => some '/'
  | 'b' => some '\x08'
  | 'f' => some '\x0c'
  | 'n' => some '\n'
  | 'r' => some '\r'
  | 't' => some '\t'
  | _ => none

namespace PartialText

/-- A text of which nothing is read. -/
def empty : PartialText := ⟨[], none, false, .plain⟩

/-- The text with one more character. -/
def push (t : PartialText) (c : Char) : PartialText :=
  ⟨c :: t.chars, none, t.broken || t.high.isSome, .plain⟩

/-- The text with one more code unit. -/
def pushUnit (t : PartialText) (n : Nat) : PartialText :=
  if 0xD800 ≤ n && n < 0xDC00 then
    ⟨t.chars, some n, t.broken || t.high.isSome, .plain⟩
  else if 0xDC00 ≤ n && n < 0xE000 then
    match t.high with
    | some h => ⟨Char.ofNat (0x10000 + (h - 0xD800) * 0x400 + (n - 0xDC00)) :: t.chars, none,
        t.broken, .plain⟩
    | none => ⟨t.chars, none, true, .plain⟩
  else t.push (Char.ofNat n)

/-- The text with one more hexadecimal digit of a code unit, of which `left` were still to come. -/
def pushHexDigit (t : PartialText) (left value digit : Nat) : PartialText :=
  let value := 16 * value + digit
  if left ≤ 1 then t.pushUnit value else { t with part := .unit (left - 1) value }

/-- The text that ends here. -/
def finish (t : PartialText) : Option String :=
  if t.broken || t.high.isSome then none else some (String.ofList t.chars.reverse)

end PartialText

/-! ## The machine -/

/-- The token that is being read. -/
inductive Lexeme where
  | none
  /-- A word of which `rest` is still to come. -/
  | word (rest : List Char) (token : Token)
  | number (n : PartialNumber)
  | text (t : PartialText)
deriving DecidableEq

/-- The tokens read, last first, and the token that is being read. -/
structure Lexer where
  tokens : List Token
  lexeme : Lexeme
deriving DecidableEq

namespace Lexer

/-- Nothing is read. -/
def start : Lexer := ⟨[], .none⟩

/-- Blanks between tokens. -/
def isGap (c : Char) : Bool := c == ' ' || c == '\n' || c == '\t' || c == '\r'

/-- The token of one character. -/
def mark? : Char → Option Token
  | '[' => some .openList
  | ']' => some .closeList
  | '{' => some .openTable
  | '}' => some .closeTable
  | ',' => some .comma
  | ':' => some .colon
  | _ => none

/-- The character after a token. -/
def feedBetween (tokens : List Token) (c : Char) : Option Lexer :=
  if isGap c then some ⟨tokens, .none⟩
  else match mark? c with
  | some token => some ⟨token :: tokens, .none⟩
  | none =>
    match c with
    | '"' => some ⟨tokens, .text .empty⟩
    | 'n' => some ⟨tokens, .word ['u', 'l', 'l'] .null⟩
    | 't' => some ⟨tokens, .word ['r', 'u', 'e'] (.bool true)⟩
    | 'f' => some ⟨tokens, .word ['a', 'l', 's', 'e'] (.bool false)⟩
    | c => (PartialNumber.start? c).map fun n => ⟨tokens, .number n⟩

/-- The next character of a text. -/
def feedText (tokens : List Token) (t : PartialText) (c : Char) : Option Lexer :=
  match t.part with
  | .plain =>
    if c == '"' then some ⟨.text t.finish :: tokens, .none⟩
    else if c == '\\' then some ⟨tokens, .text { t with part := .escape }⟩
    else if c.toNat < 0x20 then none
    else some ⟨tokens, .text (t.push c)⟩
  | .escape =>
    if c == 'u' then some ⟨tokens, .text { t with part := .unit 4 0 }⟩
    else (escaped? c).map fun e => ⟨tokens, .text (t.push e)⟩
  | .unit left value => (Text.hexDigit? c).map fun d =>
      ⟨tokens, .text (t.pushHexDigit left value d)⟩

/-- The machine after one more character; none if the text is not well written. -/
def feed (lexer : Lexer) (c : Char) : Option Lexer :=
  match lexer.lexeme with
  | .none => feedBetween lexer.tokens c
  | .word [] token => feedBetween (token :: lexer.tokens) c
  | .word (e :: rest) token =>
    if c == e then some ⟨lexer.tokens, .word rest token⟩ else none
  | .number n =>
    match n.extend? c with
    | some n => some ⟨lexer.tokens, .number n⟩
    | none => if n.complete then feedBetween (.number n.literal :: lexer.tokens) c else none
  | .text t => feedText lexer.tokens t c

/-- The machine after more characters. -/
def feedAll (lexer : Lexer) (cs : List Char) : Option Lexer := cs.foldlM feed lexer

/-- The tokens of a text that ends here. -/
def finish? (lexer : Lexer) : Option (List Token) :=
  match lexer.lexeme with
  | .none => some lexer.tokens.reverse
  | .word [] token => some (token :: lexer.tokens).reverse
  | .number n => if n.complete then some (.number n.literal :: lexer.tokens).reverse else none
  | .word _ _ | .text _ => none

theorem feedAll_append (lexer : Lexer) (s t : List Char) :
    lexer.feedAll (s ++ t) = (lexer.feedAll s).bind fun l => l.feedAll t :=
  List.foldlM_append

end Lexer

/-- The tokens of a text. -/
def tokens? (cs : List Char) : Option (List Token) :=
  (Lexer.start.feedAll cs).bind Lexer.finish?

end LifeStory.Json
