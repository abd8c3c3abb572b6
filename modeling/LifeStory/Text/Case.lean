/-!
# Case

Names of content are compared without regard to case. All of them are in basic Latin, so a case
map has to be right only where its result is in basic Latin; other letters are left alone. Some
letters outside basic Latin do map into it: the Kelvin sign goes down to `k`, and the dotless i,
the long s, the sharp s and the Latin ligatures go up to one or more capitals.
-/

namespace LifeStory.Text

/-- The small letter of a character. -/
def lowerChar (c : Char) : Char :=
  if c == '\u212A' then 'k' else c.toLower

/-- The capitals of a character. -/
def upperChar (c : Char) : List Char :=
  match c with
  | '\u0131' => ['I']
  | '\u017F' => ['S']
  | '\u00DF' => ['S', 'S']
  | '\uFB00' => ['F', 'F']
  | '\uFB01' => ['F', 'I']
  | '\uFB02' => ['F', 'L']
  | '\uFB03' => ['F', 'F', 'I']
  | '\uFB04' => ['F', 'F', 'L']
  | '\uFB05' => ['S', 'T']
  | '\uFB06' => ['S', 'T']
  | c => [c.toUpper]

/-- A text in small letters. -/
def lower (s : String) : String := String.ofList (s.toList.map lowerChar)

/-- A text in capitals. -/
def upper (s : String) : String := String.ofList (s.toList.flatMap upperChar)

end LifeStory.Text
