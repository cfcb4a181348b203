import Flipbook.Proofs.CommandLine.Arguments
import Flipbook.Proofs.CommandLine.Session
import Flipbook.CommandLine.Run
import Mathlib.Data.List.Forall2

/-!
The lines that a run prints on a page. There is one for each selector, up to the first selector that
has none.
-/

namespace Flipbook.CommandLine

@[simp] theorem output_print (session : Session) (line : String) :
    (session.print line).output = session.output ++ (line ++ "\n") :=
  String.append_assoc ..

def ended (lines : List String) : String := String.join (lines.map (· ++ "\n"))

@[simp] theorem ended_cons (line : String) (lines : List String) :
    ended (line :: lines) = line ++ "\n" ++ ended lines := by
  simp [ended, String.join_cons]

variable [Limits]

def IsPrintable (selector : Option Selector) : Prop :=
  ∃ known, selector = some known ∧ known.Fits

inductive IsLine (page : Page) : Option Selector → String → Prop
  | intro {selector : Selector} {members : List Placed}
      (selected : (selector.select page).outcome = .ok members) :
      IsLine page (some selector) (selectionLine selector members)

/-- How printing ends that starts after some output: with a line for each selector, or at a selector
without one. -/
inductive Printing (page : Page) (selectors : List (Option Selector)) (output : String)
    (completion : Completion) : Prop
  | printed (printable : ∀ selector ∈ selectors, IsPrintable selector) (lines : List String)
      (listed : List.Forall₂ (IsLine page) selectors lines)
      (succeeded : completion.outcome = .ok 0)
      (shown : completion.session.output = output ++ ended lines)
  | stopped (selector : Option Selector) (member : selector ∈ selectors)
      (unprintable : ¬ IsPrintable selector) (fault : Fault)
      (failed : completion.outcome = .error fault) (escapes : isHandled fault = false)

variable {arguments : Arguments} {page : Page} {selectors : List (Option Selector)}
  {completion : Completion} {output : String}

theorem Printing.congr {other : Completion}
    (printing : Printing page selectors output completion)
    (same : other.outcome = completion.outcome)
    (shows : other.session.output = completion.session.output) :
    Printing page selectors output other := by
  cases printing with
  | printed printable lines listed succeeded shown =>
      exact .printed printable lines listed (same.trans succeeded) (shows.trans shown)
  | stopped selector member unprintable fault failed escapes =>
      exact .stopped selector member unprintable fault (same.trans failed) escapes

theorem Printing.cons {selector : Selector} {members : List Placed} (fits : selector.Fits)
    (selected : (selector.select page).outcome = .ok members)
    (printing : Printing page selectors
      (output ++ (selectionLine selector members ++ "\n")) completion) :
    Printing page (some selector :: selectors) output completion := by
  cases printing with
  | printed printable lines listed succeeded shown =>
      refine .printed ?_ (selectionLine selector members :: lines)
        (.cons (.intro selected) listed) succeeded ?_
      · exact List.forall_mem_cons.mpr ⟨⟨selector, rfl, fits⟩, printable⟩
      · rw [shown, ended_cons, String.append_assoc, String.append_assoc]
  | stopped other member unprintable fault failed escapes =>
      exact .stopped other (List.mem_cons_of_mem _ member) unprintable fault failed escapes

theorem printing (answers : ∀ selector, some selector ∈ selectors → selector.Answer page)
    (session : Session) :
    Printing page selectors session.output (printSelections page selectors session) := by
  induction selectors generalizing session with
  | nil => exact .printed (List.forall_mem_nil _) [] .nil rfl (by simp [printSelections, ended])
  | cons first rest ih =>
      cases first with
      | none =>
          refine .stopped none List.mem_cons_self ?_ _ rfl rfl
          rintro ⟨known, said, -⟩
          contradiction
      | some selector =>
          cases answers selector List.mem_cons_self with
          | members fits members selected =>
              have others := ih (fun other member => answers other (List.mem_cons_of_mem _ member))
                ((session.logAll (selector.select page).notices).print
                  (selectionLine selector members))
              rw [output_print, Session.output_logAll] at others
              simp only [printSelections, selected]
              exact others.cons fits selected
          | tooLong long fault limit failed =>
              refine .stopped (some selector) List.mem_cons_self ?_ fault ?_ ?_
              · rintro ⟨known, same, fits⟩
                exact long (Option.some.inj same ▸ fits)
              · simp only [printSelections, failed]
              · rcases limit with rfl | rfl <;> rfl

theorem answers_of_read {argv : List String} (accepted : Arguments.read argv = .ok arguments)
    (page : Page) : ∀ selector, some selector ∈ selectorsOf arguments page →
      selector.Answer page := by
  intro selector member
  unfold selectorsOf at member
  split at member
  · obtain ⟨name, -, same⟩ := List.mem_map.mp member
    exact Option.some.inj same ▸ Selector.answer_group name page
  · obtain ⟨argument, read⟩ := Arguments.allRead_of_read accepted selector member
    exact Selector.answer_of_read read page

end Flipbook.CommandLine
