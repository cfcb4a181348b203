import Flipbook.Text.Split

/-!
Slash separated paths without empty and `.` components. A `..` component stays.
-/

namespace Flipbook

/-- `slashes` counts the leading slashes: none for a relative path, else one or exactly two. -/
structure Path where
  slashes : Nat := 0
  parts : List String
deriving DecidableEq

namespace Path

def leadingSlashes (text : String) : Nat :=
  match (text.toList.takeWhile (· == '/')).length with
  | 0 => 0
  | 2 => 2
  | _ => 1

def ofText (text : String) : Path :=
  { slashes := leadingSlashes text
    parts :=
      ((Text.splitAll '/' text.toList).map String.ofList).filter fun part =>
        part ≠ "" ∧ part ≠ "." }

def text (path : Path) : String :=
  if path.slashes = 0 ∧ path.parts = [] then "."
  else String.ofList (List.replicate path.slashes '/') ++ String.intercalate "/" path.parts

end Path

end Flipbook
