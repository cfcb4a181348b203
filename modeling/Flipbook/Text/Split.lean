/-!
Search in texts, and texts cut at a separator, which belongs to no part.
-/

namespace Flipbook.Text

def holds (part : List Char) : List Char → Bool
  | [] => part.isEmpty
  | c :: rest => part.isPrefixOf (c :: rest) || holds part rest

def splitFirst? (separator : Char) (text : List Char) : Option (List Char × List Char) :=
  match text.dropWhile (· != separator) with
  | _ :: rest => some (text.takeWhile (· != separator), rest)
  | [] => none

def splitAll (separator : Char) : List Char → List (List Char)
  | [] => [[]]
  | c :: rest =>
    if c = separator then [] :: splitAll separator rest
    else
      match splitAll separator rest with
      | part :: parts => (c :: part) :: parts
      | [] => [[c]]

end Flipbook.Text
