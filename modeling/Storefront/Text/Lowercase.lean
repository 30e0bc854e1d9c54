import Storefront.Text.LetterCase

/-!
# Text in lower case

Each capital letter is replaced by its small letter. Two letters need more than that: the dotted
capital I becomes two characters, and the capital sigma has a small form of its own at the end of
a word.
-/

namespace Storefront.Lowercase

open LetterCase

/-- Whether the next character with a bearing on case is one that has a case. -/
def meetsCased (rest : List Char) : Bool :=
  (rest.dropWhile isCaseIgnorable).head?.any isCased

/-- Whether a letter stands at the end of a word: a letter with case comes before it, and none
after it. Characters without a bearing on case are passed over. The text before it is reversed. -/
def endsWord (before after : List Char) : Bool := meetsCased before && !meetsCased after

/-- The lower case of a character between the reversed text before it and the text after it. -/
def lowerChar (before : List Char) (c : Char) (after : List Char) : List Char :=
  if c = 'Σ' then [if endsWord before after then 'ς' else 'σ']
  else if c = 'İ' then ['i', '\u0307']
  else [toSmall c]

private def lowerFrom (before : List Char) : List Char → List Char
  | [] => []
  | c :: after => lowerChar before c after ++ lowerFrom (c :: before) after

/-- The text in lower case. -/
def lower (text : String) : String := String.ofList (lowerFrom [] text.toList)

end Storefront.Lowercase
