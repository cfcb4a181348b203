import Flipbook.Proofs.Log.CsvReader
import Flipbook.Proofs.Log.TimePattern
import Flipbook.Proofs.Report
import Flipbook.Proofs.Value

/-!
The lines of a log file read as a table. Every record is one row of six fields there, whatever its
message is.
-/

namespace Flipbook.Log

theorem doubleQuotes_eq_self {text : List Char} (free : '"' ∉ text) : doubleQuotes text = text := by
  induction text with
  | nil => rfl
  | cons c rest ih =>
      obtain ⟨own, others⟩ := not_or.mp (mt List.mem_cons.mpr free)
      have plain : (if c = '"' then ['"', '"'] else [c]) = [c] := if_neg (Ne.symm own)
      rw [doubleQuotes, List.flatMap_cons, plain, ← doubleQuotes, ih others, List.singleton_append]

namespace Cell

theorem isBare_of_isAsciiDigit {c : Char} (digit : Text.isAsciiDigit c = true) : IsBare c := by
  refine ⟨?_, ?_, ?_, ?_⟩ <;>
  · rintro rfl
    exact absurd digit (by decide)

theorem isBare_of_mem_signOf {c : Char} {value : Int} (member : c ∈ Field.signOf value) :
    IsBare c := by
  unfold Field.signOf at member
  split at member
  next => exact List.mem_singleton.mp member ▸ (by decide)
  next => contradiction

theorem toList_toString (value : Int) :
    (toString value).toList = Field.signOf value ++ Nat.toDigits 10 value.natAbs := by
  cases value with
  | ofNat value =>
      have text : toString (Int.ofNat value) = value.repr := rfl
      have sign : Field.signOf (Int.ofNat value) = [] :=
        if_neg (Int.not_lt.mpr (Int.natCast_nonneg value))
      rw [text, sign, Nat.toList_repr]
      rfl
  | negSucc value =>
      have text : toString (Int.negSucc value) = "-" ++ (value + 1).repr := rfl
      have sign : Field.signOf (Int.negSucc value) = ['-'] := if_pos (Int.negSucc_lt_zero value)
      rw [text, sign, String.toList_append, Nat.toList_repr]
      rfl

theorem isBare_numeral (value : Int) : ∀ c ∈ (toString value).toList, IsBare c := by
  intro c member
  rw [toList_toString] at member
  rcases List.mem_append.mp member with sign | digit
  · exact isBare_of_mem_signOf sign
  · exact isBare_of_isAsciiDigit (Text.isAsciiDigit_of_mem_toDigits digit)

theorem isBare_name (level : Level) : ∀ c ∈ level.name.toList, IsBare c := by
  -- Through `all`, as deciding `∀ c` may try every character there is.
  have checked : ∀ name ∈ Level.names ++ ["Level "],
      name.toList.all (decide <| IsBare ·) = true := by
    decide
  have known : ∀ name ∈ Level.names ++ ["Level "], ∀ c ∈ name.toList, IsBare c :=
    fun name listed c among => of_decide_eq_true (List.all_eq_true.mp (checked name listed) c among)
  rcases level.name_cases with named | numbered
  · exact known _ (List.mem_append_left _ named)
  · rw [numbered, String.toList_append]
    exact List.forall_mem_append.mpr ⟨known _ (by simp), isBare_numeral level.rank⟩

theorem isBare_paddedName (level : Level) : ∀ c ∈ level.paddedName.toList, IsBare c := by
  rw [Level.paddedName, String.toList_append, String.toList_ofList]
  refine List.forall_mem_append.mpr ⟨isBare_name level, fun c member => ?_⟩
  rw [List.eq_of_mem_replicate member]
  decide

end Cell

theorem spells_csvLineOf {record : Record} {time duration line : String}
    (timed : '"' ∉ time.toList) (measured : '"' ∉ duration.toList)
    (logger : '"' ∉ record.logger.toList) (counted : '"' ∉ line.toList) :
    Spells (csvLineOf record time duration line).toList
      [time, record.level.paddedName, duration, record.logger, line, record.message] := by
  have chars : (csvLineOf record time duration line).toList =
      (Cell.quoted time).chars ++ ';' :: ((Cell.bare record.level.paddedName).chars ++ ';' ::
        ((Cell.quoted duration).chars ++ ';' :: ((Cell.quoted record.logger).chars ++ ';' ::
          ((Cell.quoted line).chars ++ ';' :: (Cell.quoted record.message).chars)))) := by
    have quote : "\"".toList = ['"'] := rfl
    have closing : "\";".toList = ['"', ';'] := rfl
    have opening : ";\"".toList = [';', '"'] := rfl
    have between : "\";\"".toList = ['"', ';', '"'] := rfl
    unfold csvLineOf
    simp only [String.toList_append, Cell.chars, doubleQuotes_eq_self timed,
      doubleQuotes_eq_self measured, doubleQuotes_eq_self logger, doubleQuotes_eq_self counted,
      quote, closing, opening, between]
    rw [String.toList_ofList]
    simp only [List.cons_append, List.nil_append, List.append_assoc]
  rw [chars]
  exact .next trivial (.next (Cell.isBare_paddedName record.level) (.next trivial
    (.next trivial (.next trivial (.last trivial)))))

/-- The row of a record: its time, its level filled up to eight characters, the milliseconds since
the start, its logger, its line number and its message. -/
inductive IsRow (pattern : Option String) (event : Event) : List String → Prop
  | intro {time : String} {elapsed : Int} (timed : event.moment.render pattern = .ok time)
      (measured : Value.integerOfFloat event.elapsed = .ok elapsed) :
      IsRow pattern event
        [time,
          event.record.level.name ++
            String.ofList (List.replicate (8 - event.record.level.name.length) ' '),
          toString elapsed ++ " ms", event.record.logger, toString event.line,
          event.record.message]

theorem IsRow.eq_of {event : Event} {pattern : Option String} {row : List String} {time : String}
    {elapsed : Int} (is : IsRow pattern event row) (timed : event.moment.render pattern = .ok time)
    (measured : Value.integerOfFloat event.elapsed = .ok elapsed) :
    row = [time, event.record.level.paddedName, toString elapsed ++ " ms", event.record.logger,
      toString event.line, event.record.message] := by
  obtain ⟨own, count⟩ := is
  rw [Except.ok.inj (own.symm.trans timed), Except.ok.inj (count.symm.trans measured)]
  rfl

section

variable [Limits]

theorem csvLine_eq_ok_iff {event : Event} {pattern : Option String} {text : String} :
    csvLine event pattern = .ok text ↔ ∃ time elapsed, event.moment.render pattern = .ok time ∧
      Value.integerOfFloat event.elapsed = .ok elapsed ∧ Text.isWritable event.line = true ∧
      text = csvLineOf event.record time (toString elapsed ++ " ms") (toString event.line) := by
  simp only [csvLine, Fault.bind_eq_ok_iff, Value.written_int]
  constructor
  · rintro ⟨time, timed, elapsed, measured, line, written, ⟨⟩⟩
    split at written
    next counted =>
        have numeral : toString event.line = line := Except.ok.inj written
        exact ⟨time, elapsed, timed, measured, counted, numeral ▸ rfl⟩
    next => exact nomatch written
  · rintro ⟨time, elapsed, timed, measured, counted, rfl⟩
    exact ⟨time, timed, elapsed, measured, toString event.line, if_pos counted, rfl⟩

structure Event.HasTexts (event : Event) (pattern : Option String) : Prop where
  time : ∃ time, event.moment.render pattern = .ok time
  elapsed : ∃ elapsed, Value.integerOfFloat event.elapsed = .ok elapsed
  line : Text.isWritable event.line = true

theorem exists_csvLine_iff {event : Event} {pattern : Option String} :
    (∃ line, csvLine event pattern = .ok line) ↔ event.HasTexts pattern := by
  constructor
  · rintro ⟨line, written⟩
    obtain ⟨time, elapsed, timed, measured, counted, -⟩ := csvLine_eq_ok_iff.mp written
    exact ⟨⟨time, timed⟩, ⟨elapsed, measured⟩, counted⟩
  · rintro ⟨⟨time, timed⟩, ⟨elapsed, measured⟩, counted⟩
    exact ⟨_, csvLine_eq_ok_iff.mpr ⟨time, elapsed, timed, measured, counted, rfl⟩⟩

theorem exists_row {event : Event} {pattern : Option String} {line : String}
    (logger : '"' ∉ event.record.logger.toList)
    (timed : ∀ time, event.moment.render pattern = .ok time → '"' ∉ time.toList)
    (written : csvLine event pattern = .ok line) :
    ∃ row, Spells line.toList row ∧ IsRow pattern event row := by
  obtain ⟨time, elapsed, rendered, measured, -, rfl⟩ := csvLine_eq_ok_iff.mp written
  have numeral : ∀ value : Int, '"' ∉ (toString value).toList := fun value member =>
    (Cell.isBare_numeral value '"' member).2.2.1 rfl
  have duration : '"' ∉ (toString elapsed ++ " ms").toList := by
    rw [String.toList_append, List.mem_append]
    exact not_or.mpr ⟨numeral elapsed, by decide⟩
  exact ⟨_, spells_csvLineOf (timed time rendered) duration logger (numeral event.line),
    .intro rendered measured⟩

theorem exists_rows {events : List Event} {pattern : Option String} {lines : List String}
    (loggers : ∀ event ∈ events, '"' ∉ event.record.logger.toList)
    (timed : ∀ event ∈ events, ∀ time, event.moment.render pattern = .ok time → '"' ∉ time.toList)
    (written : List.Forall₂ (fun event line => csvLine event pattern = .ok line) events lines) :
    ∃ rows, List.Forall₂ (fun line row => Spells line.toList row) lines rows ∧
      List.Forall₂ (IsRow pattern) events rows := by
  induction written with
  | nil => exact ⟨[], .nil, .nil⟩
  | cons first _ ih =>
      obtain ⟨logger, otherLoggers⟩ := List.forall_mem_cons.mp loggers
      obtain ⟨own, otherTimes⟩ := List.forall_mem_cons.mp timed
      obtain ⟨row, spelled, is⟩ := exists_row logger own first
      obtain ⟨rows, others, are⟩ := ih otherLoggers otherTimes
      exact ⟨row :: rows, .cons spelled others, .cons is are⟩

/-- A log file is read back. Its lines are there as soon as everything in its records has a text,
and read as a table they are one row for each record, in order, whatever the messages are. The
file's own times have no quotes, so that only loggers must have none. -/
theorem csvLines_readBack {events : List Event} {pattern : Option String}
    (loggers : ∀ event ∈ events, '"' ∉ event.record.logger.toList)
    (times : pattern = some fileTimePattern ∨
      ∀ event ∈ events, ∀ time, event.moment.render pattern = .ok time → '"' ∉ time.toList) :
    ((∃ lines, events.mapM (csvLine · pattern) = .ok lines) ↔
      ∀ event ∈ events, event.HasTexts pattern) ∧
    ∀ lines, events.mapM (csvLine · pattern) = .ok lines →
      ∃ rows, readCsv? (String.join (lines.map (· ++ "\n"))) = some rows ∧
        List.Forall₂ (IsRow pattern) events rows := by
  refine ⟨?_, fun lines written => ?_⟩
  · simp only [Fault.exists_mapM_iff, exists_csvLine_iff]
  · have timed : ∀ event ∈ events, ∀ time, event.moment.render pattern = .ok time →
        '"' ∉ time.toList := by
      rcases times with rfl | free
      · exact fun event _ time => Moment.quote_notMem_render
      · exact free
    obtain ⟨rows, spelled, are⟩ := exists_rows loggers timed (Fault.mapM_eq_ok_iff.mp written)
    exact ⟨rows, readCsv?_of_spelled spelled, are⟩

end

theorem csvLines_readBack_of_report :
    let report : Diagnostic :=
      { code := .badCharacter, message := "\"?\" is no mark.", source := "0;\"1\""
        offset := some 1 }
    let events : List Event :=
      [{ record := report.record, line := 59, moment := { seconds := 1700000000 },
          elapsed := .finite true 5 1073 },
        { record := ⟨"sprite_atlas", ⟨25⟩, ""⟩, elapsed := .finite false 0 0 }]
    (∀ event ∈ events, '"' ∉ event.record.logger.toList) ∧
      ∃ lines, events.mapM (csvLine · (some fileTimePattern)) = .ok lines ∧
        readCsv? (String.join (lines.map (· ++ "\n"))) = some
          [["2023-11-14 22:13:20", "ERROR   ", "-2 ms", "sprite_atlas.diagnostics", "59",
              "[bad-character] \"?\" is no mark.\n0;\"1\"\n ^"],
            ["1970-01-01 00:00:00", "Level 25", "0 ms", "sprite_atlas", "1", ""]] := by
  intro report events
  have loggers : ∀ event ∈ events, '"' ∉ event.record.logger.toList := by decide
  obtain ⟨written, readBack⟩ := csvLines_readBack loggers (.inl rfl)
  have first : ({ seconds := 1700000000 } : Moment).render (some fileTimePattern) =
      .ok "2023-11-14 22:13:20" := by decide +kernel
  have second : ({ seconds := 0 } : Moment).render (some fileTimePattern) =
      .ok "1970-01-01 00:00:00" := by decide +kernel
  have earlier : Value.integerOfFloat (.finite true 5 1073) = .ok (-2) := by decide +kernel
  have now : Value.integerOfFloat (.finite false 0 0) = .ok 0 := by decide +kernel
  have texts : ∀ event ∈ events, event.HasTexts (some fileTimePattern) :=
    List.forall_mem_cons.mpr ⟨⟨⟨_, first⟩, ⟨_, earlier⟩, by decide +kernel⟩,
      List.forall_mem_singleton.mpr ⟨⟨_, second⟩, ⟨_, now⟩, by decide +kernel⟩⟩
  obtain ⟨lines, listed⟩ := written.mpr texts
  obtain ⟨rows, read, are⟩ := readBack lines listed
  obtain ⟨row, others, is, rest, rfl⟩ := List.forall₂_cons_left_iff.mp are
  obtain ⟨last, none, isLast, nothing, rfl⟩ := List.forall₂_cons_left_iff.mp rest
  rw [List.forall₂_nil_left_iff.mp nothing, is.eq_of first earlier, isLast.eq_of second now] at read
  exact ⟨loggers, lines, listed, read.trans (by decide +kernel)⟩

end Flipbook.Log
