/-!
# Parts of a text

`splitAt`: the parts of a text between the occurrences of a character.
-/

namespace Sheltering.Text

/-- Cuts a text at each occurrence of a character. -/
def splitAt (sep : Char) : List Char → List (List Char)
  | [] => [[]]
  | c :: rest =>
    if c = sep then [] :: splitAt sep rest
    else
      match splitAt sep rest with
      | part :: parts => (c :: part) :: parts
      | [] => [[c]]

end Sheltering.Text
