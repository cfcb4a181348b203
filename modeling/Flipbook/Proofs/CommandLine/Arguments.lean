import Flipbook.CommandLine.Arguments
import Flipbook.Proofs.CommandLine.Selector
import Flipbook.Proofs.Page.Ranges
import Flipbook.Proofs.Report
import Flipbook.Proofs.Value

/-!
What the arguments keep. Each selector among them was read from some text, so its numbers can be
written, and it fails to select only where a range is too long.
-/

namespace Flipbook

theorem Text.isWritable_numeral {digits : List Char} (numeral : IsNumeral digits) :
    isWritable (Selector.numeral digits) = true := by
  have less := digitsValue_lt (normalizeDigits digits)
  have length : (normalizeDigits digits).length ≤ maxDigits := by
    rw [normalizeDigits, List.length_map]
    exact numeral.2
  have power : ∀ few many, few ≤ many → Nat.pow 10 few ≤ Nat.pow 10 many :=
    fun few many => Nat.pow_le_pow_right (by decide)
  rw [isWritable, Selector.numeral, decide_eq_true_eq, Int.natAbs_natCast]
  exact Nat.lt_of_lt_of_le less (power _ _ length)

namespace Selector

variable [Limits]

def Fits : Selector → Prop
  | .range start stop => (stop - start).natAbs ≤ Limits.maxItems
  | _ => True

variable {page : Page} {argument : String} {selector : Selector}

theorem byIndex_of_isWritable {index : Int} (writable : Text.isWritable index = true)
    (page : Page) : ∃ members, (page.byIndex index).outcome = .ok members := by
  unfold Page.byIndex
  split
  next placed _ => exact ⟨[placed], rfl⟩
  next =>
      rw [Value.written_of_isWritable writable]
      exact ⟨[], rfl⟩

theorem byIndices_of_isWritable {start stop : Int} (first : Text.isWritable start = true)
    (last : Text.isWritable stop = true) (page : Page) :
    (page.byIndices start stop).outcome = page.rangeAnswer start stop := by
  rw [Page.outcome_byIndices, if_pos (.inr ⟨first, last⟩)]

inductive Answer (selector : Selector) (page : Page) : Prop
  | members (fits : selector.Fits) (members : List Placed)
      (selected : (selector.select page).outcome = .ok members)
  | tooLong (long : ¬ selector.Fits) (fault : Fault)
      (limit : fault = .overlongRange ∨ fault = .outOfMemory)
      (failed : (selector.select page).outcome = .error fault)

theorem answer_group (name : String) (page : Page) : (group name).Answer page := by
  cases found : page.groups.find? name with
  | none => exact .members trivial [] (by simp [select, Page.byName, found]; rfl)
  | some members =>
      exact .members trivial members (by simp [select, Page.byName, found, Report.ok])

theorem answer_of_read (given : read argument = .ok selector) (page : Page) :
    selector.Answer page := by
  have reads := reading argument
  rw [given] at reads
  cases reads with
  | frame digits decimal =>
      obtain ⟨members, selected⟩ :=
        byIndex_of_isWritable (Text.isWritable_numeral decimal) page
      exact .members trivial members selected
  | group word => exact answer_group argument page
  | @range start stop split first decimal last alike =>
      have selected := byIndices_of_isWritable (Text.isWritable_numeral decimal)
        (Text.isWritable_numeral alike) page
      unfold Page.rangeAnswer at selected
      rcases Capacity.checkRange_cases (numeral stop - numeral start).natAbs with
        ⟨fits, checked⟩ | ⟨long, checked | checked⟩
      · rw [checked] at selected
        exact .members fits _ selected
      · rw [checked] at selected
        exact .tooLong long .overlongRange (.inl rfl) selected
      · rw [checked] at selected
        exact .tooLong long .outOfMemory (.inr rfl) selected

end Selector

namespace CommandLine.Arguments

variable {arguments next : Arguments} {switch : Switch} {marked rest : Marked}

def AllRead (arguments : Arguments) : Prop :=
  ∀ selector, some selector ∈ arguments.selectors →
    ∃ argument, Selector.read argument = .ok selector

theorem AllRead.of_selectors (allRead : arguments.AllRead)
    (same : next.selectors = arguments.selectors) : next.AllRead := by
  intro selector member
  exact allRead selector (same ▸ member)

theorem AllRead.takeValue (allRead : arguments.AllRead) {value : String}
    (taken : arguments.takeValue switch value = .ok next) : next.AllRead := by
  cases switch with
  | help | version => contradiction
  | atlasId | settingsFile => exact allRead.of_selectors (Except.ok.inj taken ▸ rfl)
  | define =>
      simp only [Arguments.takeValue] at taken
      split at taken
      next => exact allRead.of_selectors (Except.ok.inj taken ▸ rfl)
      next => contradiction
  | select =>
      simp only [Arguments.takeValue] at taken
      split at taken
      next found read =>
          obtain rfl := Except.ok.inj taken
          intro selector member
          rcases List.mem_append.mp member with old | new
          · exact allRead selector old
          · obtain rfl := Option.some.inj (List.mem_singleton.mp new)
            exact ⟨value, read⟩
      next => contradiction

theorem AllRead.takeDashes (allRead : arguments.AllRead)
    (taken : arguments.takeDashes switch = .ok next) : next.AllRead := by
  cases switch with
  | help | version => contradiction
  | define | atlasId | settingsFile => exact allRead.of_selectors (Except.ok.inj taken ▸ rfl)
  | select =>
      obtain rfl := Except.ok.inj taken
      intro selector member
      rcases List.mem_append.mp member with old | new
      · exact allRead selector old
      · exact absurd (List.mem_singleton.mp new) nofun

theorem AllRead.takeAttached (allRead : arguments.AllRead) {value : List Char}
    (taken : arguments.takeAttached switch value = .ok next) : next.AllRead := by
  unfold Arguments.takeAttached at taken
  split at taken
  · exact allRead.takeDashes taken
  · exact allRead.takeValue taken

theorem of_bind_pure {made : Except Ending Arguments} {given : Marked}
    (taken : (do
      let next ← made
      pure (next, given)) = .ok (next, rest)) : made = .ok next := by
  cases made with
  | error ending => contradiction
  | ok value => rw [(Prod.mk.inj (Except.ok.inj taken)).1]

theorem AllRead.takeSwitch (allRead : arguments.AllRead) {long : Bool}
    {attached : Option (List Char)}
    (taken : arguments.takeSwitch switch long attached marked = .ok (next, rest)) :
    next.AllRead := by
  unfold Arguments.takeSwitch at taken
  split at taken
  · split at taken
    · exact allRead.takeAttached (of_bind_pure taken)
    · split at taken <;> contradiction
  · split at taken
    · split at taken
      · exact allRead.takeValue (of_bind_pure taken)
      · contradiction
    · exact allRead.takeValue (of_bind_pure taken)

theorem selectors_takeSources (wanted : Nat) (arguments : Arguments) (marked : Marked) :
    (arguments.takeSources wanted marked).1.selectors = arguments.selectors := by
  induction wanted generalizing arguments marked with
  | zero => rfl
  | succ wanted ih =>
      unfold takeSources
      split
      · exact ih _ _
      · rfl

theorem AllRead.takeFirstSwitch (allRead : arguments.AllRead)
    (taken : arguments.takeFirstSwitch marked = .ok (next, rest)) : next.AllRead := by
  unfold Arguments.takeFirstSwitch at taken
  split at taken
  · exact allRead.takeSwitch taken
  · exact allRead.of_selectors ((Prod.mk.inj (Except.ok.inj taken)).1 ▸ rfl)
  · exact (Prod.mk.inj (Except.ok.inj taken)).1 ▸ allRead

theorem AllRead.takeAll {fuel : Nat} (allRead : arguments.AllRead)
    (taken : takeAll fuel arguments marked = .ok next) : next.AllRead := by
  induction fuel generalizing arguments marked with
  | zero => exact allRead.of_selectors (Except.ok.inj taken ▸ rfl)
  | succ fuel ih =>
      unfold Arguments.takeAll at taken
      split at taken
      next =>
          generalize chosen : (if takeAll.nextIsSwitch marked then (arguments, marked)
            else arguments.takeSources arguments.missingSources marked) = pair at taken
          have sources : pair.1.AllRead := by
            rw [← chosen]
            split
            · exact allRead
            · exact allRead.of_selectors (selectors_takeSources ..)
          dsimp only at taken
          split at taken
          next => exact ih sources taken
          next =>
              cases first : Arguments.takeFirstSwitch
                  (arguments.setAside (marked.takeWhile fun entry => !entry.2.isSwitch))
                  (marked.dropWhile fun entry => !entry.2.isSwitch) with
              | error ending =>
                  rw [first] at taken
                  contradiction
              | ok pair =>
                  rw [first] at taken
                  have aside : (arguments.setAside
                      (marked.takeWhile fun entry => !entry.2.isSwitch)).AllRead :=
                    allRead.of_selectors rfl
                  exact ih (aside.takeFirstSwitch first) taken
      next => exact allRead.of_selectors (Except.ok.inj taken ▸ selectors_takeSources ..)

theorem allRead_of_read {argv : List String} (accepted : read argv = .ok arguments) :
    arguments.AllRead := by
  unfold read at accepted
  split at accepted
  next => contradiction
  next marked _ =>
      cases taken : takeAll (marked.length + 1) {} marked with
      | error ending =>
          rw [taken] at accepted
          contradiction
      | ok found =>
          have none : AllRead {} := nofun
          rw [taken] at accepted
          simp only [bind, Except.bind] at accepted
          split at accepted
          next => contradiction
          next =>
              split at accepted
              next => contradiction
              next => exact Except.ok.inj accepted ▸ none.takeAll taken

end CommandLine.Arguments

end Flipbook
