import Flipbook.Log.Sinks
import Flipbook.Proofs.Log.TimePattern

/-!
Lines of the console, plain and coloured. The codes of a colour go around the first place of a
finished line where the name of the level stands. In a line of the console this is the field of the
level, as only a time without letters stands in front of it.
-/

namespace Flipbook.Log

variable {before after : List Char}

theorem replaceFirst_append {first : Char} (others replacement : List Char)
    (apart : first ∉ before) :
    replaceFirst (first :: others) replacement (before ++ first :: others ++ after) =
      before ++ replacement ++ after := by
  induction before with
  | nil =>
      have found : (first :: others).isPrefixOf (first :: (others ++ after)) = true :=
        List.isPrefixOf_iff_prefix.mpr (List.prefix_append (first :: others) after)
      have left : (first :: others ++ after).drop (first :: others).length = after :=
        List.drop_left
      rw [List.nil_append, List.cons_append, replaceFirst, if_pos found, ← List.cons_append, left,
        List.nil_append]
  | cons c rest ih =>
      obtain ⟨own, later⟩ := not_or.mp (mt List.mem_cons.mpr apart)
      have passed : ¬ (first :: others).isPrefixOf (c :: (rest ++ first :: others ++ after)) := by
        intro found
        obtain ⟨_, eq⟩ := List.isPrefixOf_iff_prefix.mp found
        exact own (List.cons.inj eq).1
      rw [List.cons_append, List.cons_append, replaceFirst, if_neg passed, ih later]
      rfl

namespace Level

def coloredName (level : Level) : String :=
  String.ofList (colorCode level) ++ level.name ++ String.ofList resetCode

theorem isUpper_head?_name (level : Level) : level.name.toList.head?.any Char.isUpper = true := by
  rcases level.name_cases with named | numbered
  · have checked : ∀ name ∈ names, name.toList.head?.any Char.isUpper = true := by decide
    exact checked level.name named
  · rw [numbered, String.toList_append]
    rfl

end Level

theorem colorLine_append (level : Level) (apart : ∀ c ∈ before, c.isUpper = false) :
    colorLine level (before ++ level.name.toList ++ after) =
      before ++ level.coloredName.toList ++ after := by
  have upper := level.isUpper_head?_name
  have codes : level.coloredName.toList =
      colorCode level ++ level.name.toList ++ resetCode := by
    simp [Level.coloredName]
  cases name : level.name.toList with
  | nil =>
      rw [name] at upper
      contradiction
  | cons first others =>
      have isUpper : first.isUpper = true := by simpa [name] using upper
      have absent : first ∉ before := by
        intro member
        exact Bool.false_ne_true ((apart first member).symm.trans isUpper)
      rw [colorLine, codes, name]
      exact replaceFirst_append others _ absent

theorem foldl_attach_append (texts : List String) {written : List Char} (filled : written ≠ []) :
    texts.foldl attach (before ++ written) = before ++ texts.foldl attach written := by
  induction texts generalizing written with
  | nil => rfl
  | cons text rest ih =>
      have ending : (before ++ written).getLast? = written.getLast? :=
        List.getLast?_append_of_ne_nil before filled
      have first : attach (before ++ written) text = before ++ attach written text := by
        unfold attach
        split
        next => rfl
        next => simp only [ending, List.append_assoc]
      have longer : attach written text ≠ [] := by
        unfold attach
        split <;> simp [filled]
      rw [List.foldl_cons, first, ih longer, List.foldl_cons]

/-- The line of a record on the console, with a text in the place of its level's name. Behind it
come the spaces that the name leaves in a field of eight characters, the message, and below what is
attached. -/
def consoleLine (record : Record) (time : String) (attachments : List String) (levelText : String) :
    String :=
  time ++ " : " ++ levelText ++ String.ofList (List.replicate (8 - record.level.name.length) ' ') ++
    String.ofList (attachments.foldl attach (" : " ++ record.message).toList)

variable (record : Record) (attachments : List String)

theorem foldl_attach_render (time : String) :
    attachments.foldl attach (consoleLayout.render record time) =
      (consoleLine record time attachments record.level.name).toList := by
  have spaced : " : ".toList = [' ', ':', ' '] := rfl
  have parts : consoleLayout.render record time =
      time.toList ++ " : ".toList ++ record.level.paddedName.toList ++
        (" : " ++ record.message).toList := by
    simp [consoleLayout, Layout.render, Layout.renderPiece, spaced]
  rw [parts, foldl_attach_append attachments (by simp [spaced])]
  simp [consoleLine, Level.paddedName]

theorem colorLine_consoleLine {time : String} (timed : ∀ c ∈ time.toList, c.isUpper = false) :
    colorLine record.level (consoleLine record time attachments record.level.name).toList =
      (consoleLine record time attachments record.level.coloredName).toList := by
  have between : ∀ c ∈ " : ".toList, c.isUpper = false := by
    intro c member
    have mark : c = ' ' ∨ c = ':' ∨ c = ' ' := by simpa using member
    rcases mark with rfl | rfl | rfl <;> rfl
  have apart : ∀ c ∈ time.toList ++ " : ".toList, c.isUpper = false :=
    List.forall_mem_append.mpr ⟨timed, between⟩
  simpa [consoleLine] using colorLine_append record.level apart

theorem plainLine_console (event : Event) :
    plainLine event consoleFormat (some consoleTimePattern) =
      (fun _ => consoleLine event.record event.moment.clockText event.attachments
        event.record.level.name) <$> event.moment.check := by
  have layout : Layout.ofText consoleFormat = .ok consoleLayout := by decide +kernel
  have timed : Layout.mentionsTime consoleFormat = true := by decide
  have written : plainLine event consoleFormat (some consoleTimePattern) =
      (fun time => String.ofList (event.attachments.foldl attach
        (consoleLayout.render event.record time))) <$>
          event.moment.render (some consoleTimePattern) := by
    simp only [plainLine, layout, timed, if_true]
    rfl
  rw [written, Moment.render_consoleTimePattern]
  simp only [foldl_attach_render, String.ofList_toList, Functor.map_map]

theorem coloredLine_console (event : Event) :
    coloredLine event consoleFormat (some consoleTimePattern) =
      (fun _ => consoleLine event.record event.moment.clockText event.attachments
        event.record.level.coloredName) <$> event.moment.check := by
  have colored : coloredLine event consoleFormat (some consoleTimePattern) =
      (fun line => String.ofList (colorLine event.record.level line.toList)) <$>
        plainLine event consoleFormat (some consoleTimePattern) := by
    simp only [coloredLine, map_eq_pure_bind]
  rw [colored, plainLine_console]
  simp only [Functor.map_map, String.ofList_toList,
    colorLine_consoleLine event.record event.attachments Moment.isUpper_of_mem_clockText]

theorem Console.line_eq (console : Console) {time : String}
    (timed : ∀ c ∈ time.toList, c.isUpper = false) :
    console.line record time = consoleLine record time []
      (if console.colored then record.level.coloredName else record.level.name) := by
  have plain : consoleLayout.render record time =
      (consoleLine record time [] record.level.name).toList :=
    foldl_attach_render record [] time
  rw [line, plain]
  cases console.colored with
  | true => simp [colorLine_consoleLine record [] timed]
  | false => simp

/-- A coloured line of the console is the plain one with two codes more, one right before and one
right after the name of its level. There is such a line exactly if there is a plain one, namely for
every moment that the clock and the calendar know, and a console that is set up writes the one or
the other. The level may be any, and the message may hold its name or codes of its own. -/
theorem coloredLine_colorsLevelName (event : Event) :
    let record := event.record
    let time := event.moment.clockText
    plainLine event consoleFormat (some consoleTimePattern) =
        (fun _ => consoleLine record time event.attachments record.level.name) <$>
          event.moment.check ∧
      coloredLine event consoleFormat (some consoleTimePattern) =
        (fun _ => consoleLine record time event.attachments record.level.coloredName) <$>
          event.moment.check ∧
      ∀ console : Console, console.line record time = consoleLine record time []
        (if console.colored then record.level.coloredName else record.level.name) := by
  intro record time
  refine ⟨plainLine_console event, coloredLine_console event, fun console => ?_⟩
  exact console.line_eq record Moment.isUpper_of_mem_clockText

example :
    coloredLine
        { record := ⟨"sprite_atlas", .info, "INFO \x1b[0m"⟩, moment := { seconds := 45296 }
          attachments := ["", "Traceback"] }
        consoleFormat (some consoleTimePattern) =
      .ok "12:34:56 : \x1b[32mINFO\x1b[0m     : INFO \x1b[0m\nTraceback" := by
  decide +kernel

end Flipbook.Log
