import Flipbook.CommandLine.Run
import Flipbook.Proofs.Frame.Sorting
import Flipbook.Proofs.Text.Numeral

/-!
What the text of a selector selects. Keys of groups end in no ASCII digit, so a key is taken for a
number or a range only if it ends in a digit of another kind.
-/

namespace Flipbook

theorem Groups.endsInDigit_of_mem_keys {frames : List Frame} {order : Order} {groups : Groups}
    (grouped : ofFrames frames order = .ok groups) {key : String} (known : key ∈ groups.keys) :
    FrameName.endsInDigit key = false := by
  rw [(keys_ofFrames grouped).2, List.mem_eraseDups] at known
  obtain ⟨frame, -, rfl⟩ := List.mem_map.mp known
  exact FrameName.endsInDigit_key frame.name

namespace Selector

def IsNumeric (argument : String) : Prop :=
  isDigits argument.toList = true ∨
    ∃ start stop, Text.splitFirst? ':' argument.toList = some (start, stop) ∧
      isDigits start = true ∧ isDigits stop = true

def numeral (digits : List Char) : Int := Text.digitsValue (Text.normalizeDigits digits)

inductive Reading (argument : String) : Except Fault Selector → Prop
  | frame (digits : isDigits argument.toList = true) (decimal : Text.IsNumeral argument.toList) :
      Reading argument (.ok (.frame (numeral argument.toList)))
  | range {start stop : List Char}
      (split : Text.splitFirst? ':' argument.toList = some (start, stop))
      (first : isDigits start = true) (decimal : Text.IsNumeral start)
      (last : isDigits stop = true) (alike : Text.IsNumeral stop) :
      Reading argument (.ok (.range (numeral start) (numeral stop)))
  | group (word : ¬ IsNumeric argument) : Reading argument (.ok (.group argument))
  | badFrame {fault : Fault} (digits : isDigits argument.toList = true)
      (foreign : ¬ Text.IsNumeral argument.toList) : Reading argument (.error fault)
  | badRange {start stop : List Char} {fault : Fault}
      (split : Text.splitFirst? ':' argument.toList = some (start, stop))
      (first : isDigits start = true) (last : isDigits stop = true)
      (foreign : ¬ (Text.IsNumeral start ∧ Text.IsNumeral stop)) : Reading argument (.error fault)

theorem isDigits_iff {text : List Char} :
    isDigits text = true ↔ text ≠ [] ∧ ∀ c ∈ text, Text.isDigit c = true := by
  simp [isDigits]

theorem integerOfText_cases {text : List Char} (digits : isDigits text = true) :
    (Text.IsNumeral text ∧ Value.integerOfText (String.ofList text) = .ok (numeral text)) ∨
      (¬ Text.IsNumeral text ∧
        ∃ fault, Value.integerOfText (String.ofList text) = .error fault) := by
  obtain ⟨filled, digit⟩ := isDigits_iff.mp digits
  unfold Value.integerOfText
  rcases Text.readNumeral_cases digit filled with ⟨decimal, read⟩ | ⟨foreign, unread⟩
  · rw [read]
    exact .inl ⟨decimal, rfl⟩
  · refine .inr ⟨foreign, ?_⟩
    cases numeral : Text.readNumeral (String.ofList text) with
    | value number => exact absurd numeral (unread number)
    | malformed => exact ⟨_, rfl⟩
    | tooLong digits => exact ⟨_, rfl⟩

theorem reading (argument : String) : Reading argument (read argument) := by
  have whole : (¬ ∃ start stop, Text.splitFirst? ':' argument.toList = some (start, stop) ∧
      isDigits start = true ∧ isDigits stop = true) →
      Reading argument (if isDigits argument.toList then do
        pure (frame (← Value.integerOfText argument)) else .ok (group argument)) := by
    intro single
    cases digits : isDigits argument.toList with
    | false =>
        refine .group ?_
        rintro (all | parts)
        · exact Bool.false_ne_true (digits.symm.trans all)
        · exact single parts
    | true =>
        have cases := integerOfText_cases digits
        rw [String.ofList_toList] at cases
        rcases cases with ⟨decimal, read⟩ | ⟨foreign, fault, failed⟩
        · rw [read]
          exact .frame digits decimal
        · rw [failed]
          exact .badFrame digits foreign
  unfold read
  dsimp only
  split
  next start stop split =>
      cases both : isDigits start && isDigits stop with
      | false =>
          refine whole ?_
          rintro ⟨first, last, same, here, there⟩
          obtain ⟨rfl, rfl⟩ := Prod.mk.inj (Option.some.inj (split.symm.trans same))
          rw [here, there] at both
          contradiction
      | true =>
          obtain ⟨first, last⟩ := Bool.and_eq_true_iff.mp both
          rcases integerOfText_cases first with ⟨decimal, read⟩ | ⟨foreign, fault, failed⟩
          · rw [read]
            rcases integerOfText_cases last with ⟨alike, ended⟩ | ⟨foreign, fault, failed⟩
            · rw [ended]
              exact .range split first decimal last alike
            · rw [failed]
              exact .badRange split first last fun numerals => foreign numerals.2
          · rw [failed]
            exact .badRange split first last fun numerals => foreign numerals.1
  next single =>
      refine whole ?_
      rintro ⟨start, stop, split, -⟩
      rw [single] at split
      contradiction

theorem read_eq_group_iff {argument : String} :
    read argument = .ok (.group argument) ↔ ¬ IsNumeric argument := by
  have reads := reading argument
  constructor
  · intro same
    rw [same] at reads
    cases reads with
    | group word => exact word
  · intro word
    generalize read argument = result at reads
    cases reads with
    | group => rfl
    | frame digits | badFrame digits => exact absurd (.inl digits) word
    | range split first decimal last | badRange split first last =>
        exact absurd (.inr ⟨_, _, split, first, last⟩) word

theorem append_of_splitFirst? {separator : Char} {text start stop : List Char}
    (split : Text.splitFirst? separator text = some (start, stop)) :
    text = start ++ separator :: stop := by
  unfold Text.splitFirst? at split
  split at split
  next c rest dropped =>
      obtain ⟨rfl, rfl⟩ := Prod.mk.inj (Option.some.inj split)
      have found := List.head?_dropWhile_not (· != separator) text
      rw [dropped, List.head?_cons] at found
      obtain rfl : c = separator := by simpa using found
      rw [← dropped, List.takeWhile_append_dropWhile]
  next => contradiction

theorem exists_last_isDigit {digits : List Char} (all : isDigits digits = true) :
    ∃ c, digits.getLast? = some c ∧ Text.isDigit c = true := by
  obtain ⟨filled, digit⟩ := isDigits_iff.mp all
  exact ⟨_, List.getLast?_eq_some_getLast filled, digit _ (List.getLast_mem filled)⟩

theorem exists_last_of_isNumeric {argument : String} (numeric : IsNumeric argument) :
    ∃ c, argument.toList.getLast? = some c ∧ Text.isDigit c = true := by
  rcases numeric with all | ⟨start, stop, split, -, last⟩
  · exact exists_last_isDigit all
  · obtain ⟨c, ends, digit⟩ := exists_last_isDigit last
    refine ⟨c, ?_, digit⟩
    rw [append_of_splitFirst? split, List.getLast?_append, List.getLast?_cons, ends]
    rfl

theorem foreign_of_isNumeric {key : String} (ends : FrameName.endsInDigit key = false)
    (numeric : IsNumeric key) :
    ∃ c, key.toList.getLast? = some c ∧ Text.isDigit c = true ∧ Text.isAsciiDigit c = false := by
  obtain ⟨c, last, digit⟩ := exists_last_of_isNumeric numeric
  rw [FrameName.endsInDigit, last] at ends
  exact ⟨c, last, digit, ends⟩

end Selector

namespace CommandLine

def selecting (metadata image key : String) : Arguments :=
  { sources := [.text metadata, .text image], selectors := [some (.group key)] }

variable {metadata image key : String}

theorem ne_dashes_of_plain (plain : Mark.read key = .ok .plain) : key ≠ "--" := by
  rintro rfl
  have ambiguous : ∃ message, Mark.read "--" = .error message := ⟨_, rfl⟩
  obtain ⟨message, read⟩ := ambiguous
  rw [read] at plain
  contradiction

theorem takeValue_select {argument : String} (word : ¬ Selector.IsNumeric argument)
    (arguments : Arguments) : arguments.takeValue .select argument =
      .ok { arguments with selectors := arguments.selectors ++ [some (.group argument)] } := by
  simp only [Arguments.takeValue, Selector.read_eq_group_iff.mpr word]

theorem read_separate (described : Mark.read metadata = .ok .plain)
    (pictured : Mark.read image = .ok .plain) (plain : Mark.read key = .ok .plain)
    (word : ¬ Selector.IsNumeric key) :
    Arguments.read [metadata, image, "-s", key] = .ok (selecting metadata image key) := by
  have select : Mark.read "-s" = .ok (.switch .select false none) := rfl
  have marked : Mark.readAll [metadata, image, "-s", key] =
      .ok [(metadata, .plain), (image, .plain), ("-s", .switch .select false none),
        (key, .plain)] := by
    simp [Mark.readAll, ne_dashes_of_plain, described, pictured, plain, select, bind, Except.bind,
      pure, Except.pure]
  simp [Arguments.read, marked, Arguments.takeAll, Arguments.takeAll.nextIsSwitch,
    Arguments.takeSources, Arguments.takeSource?, Arguments.missingSources, Arguments.sourceNames,
    Mark.isSwitch, Mark.isDashes, Arguments.takeFirstSwitch, Arguments.takeSwitch,
    Arguments.setAside, Switch.takesValue, takeValue_select word, bind, Except.bind, pure,
    Except.pure, Arguments.sourceValue, ne_dashes_of_plain, described, pictured, selecting]

theorem mark_attached (key : String) : Mark.read ("--select=" ++ key) =
    .ok (.switch .select true (some key.toList)) := by
  have characters : ("--select=" ++ key).toList =
      ['-', '-', 's', 'e', 'l', 'e', 'c', 't', '='] ++ key.toList := by
    rw [String.toList_append]
    rfl
  have split : Mark.splitEquals (['-', '-', 's', 'e', 'l', 'e', 'c', 't', '='] ++ key.toList) =
      (['-', '-', 's', 'e', 'l', 'e', 'c', 't'], some key.toList) := by
    simp [Mark.splitEquals, Text.splitFirst?]
  have unspelled : Switch.ofSpelling?
      (['-', '-', 's', 'e', 'l', 'e', 'c', 't', '='] ++ key.toList) = none := by
    simp [Switch.ofSpelling?, Switch.spellings]
  have spelled : Switch.ofSpelling? ['-', '-', 's', 'e', 'l', 'e', 'c', 't'] = some .select := rfl
  unfold Mark.read
  rw [characters]
  simp only [List.cons_append, List.nil_append] at split unspelled ⊢
  simp only [unspelled, split, Option.bind_some, spelled, Option.map_some]
  rfl

theorem read_attached (described : Mark.read metadata = .ok .plain)
    (pictured : Mark.read image = .ok .plain) (word : ¬ Selector.IsNumeric key)
    (different : key ≠ "--") :
    Arguments.read [metadata, image, "--select=" ++ key] =
      .ok (selecting metadata image key) := by
  have attached : "--select=" ++ key ≠ "--" := by
    intro same
    have lengths := congrArg String.length same
    rw [String.length_append] at lengths
    have eight : "--select=".length = 9 := rfl
    have two : "--".length = 2 := rfl
    omega
  have characters : key.toList ≠ ['-', '-'] := by
    intro same
    exact different (String.toList_inj.mp same)
  have marked : Mark.readAll [metadata, image, "--select=" ++ key] =
      .ok [(metadata, .plain), (image, .plain),
        ("--select=" ++ key, .switch .select true (some key.toList))] := by
    simp [Mark.readAll, ne_dashes_of_plain, described, pictured, attached, mark_attached, bind,
      Except.bind, pure, Except.pure]
  simp [Arguments.read, marked, Arguments.takeAll, Arguments.takeAll.nextIsSwitch,
    Arguments.takeSources, Arguments.takeSource?, Arguments.missingSources, Arguments.sourceNames,
    Mark.isSwitch, Mark.isDashes, Arguments.takeFirstSwitch, Arguments.takeSwitch,
    Arguments.takeAttached, characters, Arguments.setAside, Switch.takesValue,
    takeValue_select word, bind, Except.bind, pure, Except.pure, Arguments.sourceValue,
    ne_dashes_of_plain, described, pictured, selecting]

variable [Limits]

theorem printSelections_selecting {page : Page} {members : List Placed}
    (found : page.groups.find? key = some members) (metadata image : String) (session : Session) :
    printSelections page (selectorsOf (selecting metadata image key) page) session =
      { session := session.print (key ++ ": " ++ String.intercalate " "
          (members.map fun placed => placed.frame.name))
        outcome := .ok 0 } := by
  simp [selectorsOf, selecting, printSelections, Selector.select, Page.byName, found, Report.ok,
    Session.logAll, selectionLine, Selector.text]

/-- How the command line takes the name of a group. Two dashes alone are no value of an option. -/
structure TakesKey (key : String) : Prop where
  itself : Selector.read key = .ok (.group key) ↔ ¬ Selector.IsNumeric key
  foreign : Selector.IsNumeric key →
    ∃ c, key.toList.getLast? = some c ∧ Text.isDigit c = true ∧ Text.isAsciiDigit c = false
  separate : ¬ Selector.IsNumeric key → Mark.read key = .ok .plain →
    ∀ metadata image, Mark.read metadata = .ok .plain → Mark.read image = .ok .plain →
      Arguments.read [metadata, image, "-s", key] = .ok (selecting metadata image key)
  attached : ¬ Selector.IsNumeric key → key ≠ "--" →
    ∀ metadata image, Mark.read metadata = .ok .plain → Mark.read image = .ok .plain →
      Arguments.read [metadata, image, "--select=" ++ key] = .ok (selecting metadata image key)
  printed : ∀ (page : Page) members, page.groups.find? key = some members →
    ∀ metadata image session,
      printSelections page (selectorsOf (selecting metadata image key) page) session =
        { session := session.print (key ++ ": " ++ String.intercalate " "
            (members.map fun placed => placed.frame.name))
          outcome := .ok 0 }

/-- A text is read as far as its digits stand in decimal numerals, and a key of a group is read as
itself unless it ends in a digit outside ASCII. -/
theorem reading_takesKey (argument : String) :
    Selector.Reading argument (Selector.read argument) ∧
      ∀ frames order groups, Groups.ofFrames frames order = .ok groups →
        argument ∈ groups.keys → TakesKey argument := by
  refine ⟨Selector.reading argument, fun frames order groups grouped known => ?_⟩
  exact
    { itself := Selector.read_eq_group_iff
      foreign := Selector.foreign_of_isNumeric (Groups.endsInDigit_of_mem_keys grouped known)
      separate := fun word plain metadata image described pictured =>
        read_separate described pictured plain word
      attached := fun word different metadata image described pictured =>
        read_attached described pictured word different
      printed := fun page members found metadata image session =>
        printSelections_selecting found metadata image session }

example : Groups.keys <$> Groups.ofFrames [{ name := "²0" }, { name := "٣0" }] .byName =
    .ok ["²", "٣"] := rfl

example : Selector.read "²" = .error (.malformedInteger "'²'") := rfl

example : Selector.read "٣" = .ok (.frame 3) := rfl

end CommandLine

end Flipbook
