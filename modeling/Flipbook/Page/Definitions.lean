import Flipbook.Page

/-!
Definitions applied to a page. Each one replaces the members of a group by those that it plays, and
the first unknown name ends the work while the groups changed before stay changed.
-/

namespace Flipbook.Page

abbrev Definitions := List (String × String)

def unknownAnimation (name : String) (known : List String) : Diagnostic :=
  { severity := .fatal
    code := .unknownAnimation
    message := Fault.unknownAnimationText name known }

def play (members : List Placed) (indices : List Int) : List Placed :=
  let all := members.toArray
  indices.filterMap fun index => if index < 0 then none else all[index.toNat]?

variable [Limits]

def defineOne (page : Page) (name definition : String) : Report Page :=
  match page.groups.find? name with
  | none =>
    let known := page.groups.keys
    (Report.diagnose (unknownAnimation name known)).bind fun _ =>
      .fail (.unknownAnimation name known)
  | some members =>
    (Definition.compile definition (some members.length)).bind fun indices =>
      (Report.log "sprite_atlas.atlas.managers" .debug
        ("Applied definition '" ++ definition ++ "' to " ++ name ++ ": " ++
          toString indices.length ++ " frames")).bind fun _ =>
        .ok { page with groups := page.groups.replace name (play members indices) }

def define (page : Page) : Definitions → Page × Report Unit
  | [] => (page, .ok ())
  | (name, definition) :: rest =>
    let first := page.defineOne name definition
    match first.outcome with
    | .error fault => (page, { notices := first.notices, outcome := .error fault })
    | .ok next =>
      let (final, following) := next.define rest
      (final, { following with notices := first.notices ++ following.notices })

end Flipbook.Page
