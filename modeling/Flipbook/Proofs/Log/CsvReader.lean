import Flipbook.Log.Csv
import Mathlib.Data.List.Forall2

/-!
A reader of rows of fields between semicolons. A field stands in double quotes, where a quote is
written twice and everything else as it is, or it stands bare. The reader refuses quotes anywhere
else.
-/

namespace Flipbook.Log

/-- Where a reader stands, with what it has of the current field, latest first. It is closing behind
a quote within quotes, which ends the field unless another quote follows. -/
inductive CsvReader.Place
  | opening
  | bare (field : List Char)
  | quoted (field : List Char)
  | closing (field : List Char)
  | malformed

structure CsvReader where
  place : CsvReader.Place := .opening
  fields : List String := []
  rows : List (List String) := []

namespace CsvReader

def endField (reader : CsvReader) (field : List Char) : CsvReader :=
  { reader with place := .opening, fields := String.ofList field.reverse :: reader.fields }

def endRow (reader : CsvReader) (field : List Char) : CsvReader :=
  { rows := (reader.endField field).fields.reverse :: reader.rows }

def stepBare (reader : CsvReader) (field : List Char) (c : Char) : CsvReader :=
  if c = ';' then reader.endField field
  else if c = '\n' then reader.endRow field
  else if c = '"' ∨ c = '\r' then { reader with place := .malformed }
  else { reader with place := .bare (c :: field) }

def step (reader : CsvReader) (c : Char) : CsvReader :=
  match reader.place with
  | .opening =>
    if c = '"' then { reader with place := .quoted [] } else reader.stepBare [] c
  | .bare field => reader.stepBare field c
  | .quoted field =>
    if c = '"' then { reader with place := .closing field }
    else { reader with place := .quoted (c :: field) }
  | .closing field =>
    if c = '"' then { reader with place := .quoted ('"' :: field) }
    else if c = ';' then reader.endField field
    else if c = '\n' then reader.endRow field
    else { reader with place := .malformed }
  | .malformed => reader

def finish? (reader : CsvReader) : Option (List (List String)) :=
  match reader.place with
  | .opening =>
    if reader.fields.isEmpty then some reader.rows.reverse
    else some (reader.endRow []).rows.reverse
  | .bare field | .closing field => some (reader.endRow field).rows.reverse
  | .quoted _ | .malformed => none

end CsvReader

def readCsv? (text : String) : Option (List (List String)) :=
  (text.toList.foldl CsvReader.step {}).finish?

inductive Cell
  | quoted (text : String)
  | bare (text : String)

namespace Cell

def text : Cell → String
  | quoted text | bare text => text

def chars : Cell → List Char
  | quoted text => '"' :: (doubleQuotes text.toList ++ ['"'])
  | bare text => text.toList

def IsBare (c : Char) : Prop := c ≠ ';' ∧ c ≠ '\n' ∧ c ≠ '"' ∧ c ≠ '\r'

instance (c : Char) : Decidable (IsBare c) :=
  inferInstanceAs (Decidable (c ≠ ';' ∧ c ≠ '\n' ∧ c ≠ '"' ∧ c ≠ '\r'))

def IsSound : Cell → Prop
  | quoted _ => True
  | bare text => ∀ c ∈ text.toList, IsBare c

end Cell

namespace CsvReader

variable {place : Place} {fields : List String} {rows : List (List String)}

theorem foldl_doubleQuotes (field text : List Char) :
    (doubleQuotes text).foldl step ⟨.quoted field, fields, rows⟩ =
      ⟨.quoted (text.reverse ++ field), fields, rows⟩ := by
  induction text generalizing field with
  | nil => rfl
  | cons c rest ih =>
      have first : (if c = '"' then ['"', '"'] else [c]).foldl step ⟨.quoted field, fields, rows⟩ =
          ⟨.quoted (c :: field), fields, rows⟩ := by
        by_cases quote : c = '"'
        · subst quote
          rfl
        · simp [quote, step]
      rw [doubleQuotes, List.flatMap_cons, List.foldl_append, first, ← doubleQuotes, ih,
        List.reverse_cons, List.append_assoc, List.singleton_append]

theorem stepBare_of_isBare {c : Char} (bare : Cell.IsBare c) (field : List Char) :
    stepBare ⟨place, fields, rows⟩ field c = ⟨.bare (c :: field), fields, rows⟩ := by
  obtain ⟨noSemicolon, noEnd, noQuote, noReturn⟩ := bare
  simp [stepBare, noSemicolon, noEnd, noQuote, noReturn]

theorem foldl_bare {text : List Char} (bare : ∀ c ∈ text, Cell.IsBare c) (field : List Char) :
    text.foldl step ⟨.bare field, fields, rows⟩ =
      ⟨.bare (text.reverse ++ field), fields, rows⟩ := by
  induction text generalizing field with
  | nil => rfl
  | cons c rest ih =>
      obtain ⟨own, others⟩ := List.forall_mem_cons.mp bare
      have first : step ⟨.bare field, fields, rows⟩ c = ⟨.bare (c :: field), fields, rows⟩ :=
        stepBare_of_isBare own field
      rw [List.foldl_cons, first, ih others, List.reverse_cons, List.append_assoc,
        List.singleton_append]

/-- Behind a written field its text is complete, whether a semicolon follows or the end of the
row. -/
theorem foldl_cell {cell : Cell} (sound : cell.IsSound) :
    ∃ place, cell.chars.foldl step ⟨.opening, fields, rows⟩ = ⟨place, fields, rows⟩ ∧
      step ⟨place, fields, rows⟩ ';' = ⟨.opening, cell.text :: fields, rows⟩ ∧
      step ⟨place, fields, rows⟩ '\n' = ⟨.opening, [], (cell.text :: fields).reverse :: rows⟩ := by
  cases cell with
  | quoted text =>
      refine ⟨.closing text.toList.reverse, ?_, ?_, ?_⟩
      · rw [Cell.chars, List.foldl_cons, List.foldl_append]
        exact congrArg (step · '"') ((foldl_doubleQuotes [] text.toList).trans
          (by rw [List.append_nil]))
      · simp [step, endField, Cell.text]
      · simp [step, endRow, endField, Cell.text]
  | bare text =>
      cases written : text.toList with
      | nil =>
          have empty : text = "" := String.toList_eq_nil_iff.mp written
          subst empty
          exact ⟨.opening, rfl, rfl, rfl⟩
      | cons c rest =>
          rw [Cell.IsSound, written] at sound
          obtain ⟨own, others⟩ := List.forall_mem_cons.mp sound
          have noQuote : c ≠ '"' := own.2.2.1
          have first : step ⟨.opening, fields, rows⟩ c = ⟨.bare [c], fields, rows⟩ :=
            (if_neg noQuote).trans (stepBare_of_isBare own [])
          have whole : String.ofList (c :: rest) = text := by rw [← written, String.ofList_toList]
          refine ⟨.bare (rest.reverse ++ [c]), ?_, ?_, ?_⟩
          · rw [Cell.chars, written, List.foldl_cons, first, foldl_bare others]
          · simp [step, stepBare, endField, Cell.text, whole]
          · simp [step, stepBare, endRow, endField, Cell.text, whole]

end CsvReader

inductive Spells : List Char → List String → Prop
  | last {cell : Cell} (sound : cell.IsSound) : Spells cell.chars [cell.text]
  | next {cell : Cell} {line : List Char} {row : List String} (sound : cell.IsSound)
      (later : Spells line row) : Spells (cell.chars ++ ';' :: line) (cell.text :: row)

namespace CsvReader

theorem foldl_line {line : List Char} {row : List String} (spelled : Spells line row)
    (fields : List String) (rows : List (List String)) :
    (line ++ ['\n']).foldl step ⟨.opening, fields, rows⟩ =
      ⟨.opening, [], (fields.reverse ++ row) :: rows⟩ := by
  induction spelled generalizing fields with
  | last sound =>
      obtain ⟨place, read, -, ended⟩ := foldl_cell sound
      rw [List.foldl_append, read, List.foldl_cons, ended, List.reverse_cons]
      rfl
  | next sound _ ih =>
      obtain ⟨place, read, separated, -⟩ := foldl_cell sound
      rw [List.append_assoc, List.cons_append, List.foldl_append, read, List.foldl_cons, separated,
        ih, List.reverse_cons, List.append_assoc, List.singleton_append]

end CsvReader

theorem readCsv?_of_spelled {lines : List String} {rows : List (List String)}
    (spelled : List.Forall₂ (fun line row => Spells line.toList row) lines rows) :
    readCsv? (String.join (lines.map (· ++ "\n"))) = some rows := by
  -- Over any rows before these, as the reader has them when it comes to a later line.
  have read : ∀ earlier, (String.join (lines.map (· ++ "\n"))).toList.foldl CsvReader.step
      ⟨.opening, [], earlier⟩ = ⟨.opening, [], rows.reverse ++ earlier⟩ := by
    induction spelled with
    | nil => exact fun earlier => rfl
    | cons first _ ih =>
        intro earlier
        rw [List.map_cons, String.join_cons, String.toList_append, String.toList_append,
          List.foldl_append]
        refine (congrArg (fun reader => List.foldl CsvReader.step reader _)
          (CsvReader.foldl_line first [] earlier)).trans ?_
        rw [ih, List.reverse_cons, List.append_assoc]
        rfl
  rw [readCsv?, read []]
  simp [CsvReader.finish?]

example : readCsv? "a;\"b;\"\"c\"\"\n\";\n;d" = some [["a", "b;\"c\"\n", ""], ["", "d"]] := by
  decide

end Flipbook.Log
