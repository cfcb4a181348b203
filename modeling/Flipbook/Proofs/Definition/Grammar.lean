import Flipbook.Definition.Term

/-!
The grammar of definitions and the machine that reads them. The states of the machine stand for the
rests that complete a sentence, and a token fits a state exactly if some rest begins with it.
-/

namespace Flipbook.Definition

open Token (Kind)

inductive StopPart : List Kind → Prop
  | absent : StopPart []
  | present : StopPart [.hyphen, .number]

inductive RepeatsPart : List Kind → Prop
  | absent : RepeatsPart []
  | present : RepeatsPart [.openParen, .number, .closeParen]

/-- Terms that are separated by commas, each a number with its optional parts. -/
inductive Sentence : List Kind → Prop
  | single {stop repeats : List Kind} (stops : StopPart stop) (repeated : RepeatsPart repeats) :
      Sentence (.number :: stop ++ repeats)
  | more {stop repeats rest : List Kind} (stops : StopPart stop) (repeated : RepeatsPart repeats)
      (following : Sentence rest) : Sentence (.number :: stop ++ repeats ++ .comma :: rest)

def IsViable (kinds : List Kind) : Prop := ∃ rest, Sentence (kinds ++ rest)

inductive Tail : List Kind → Prop
  | last : Tail []
  | more {rest : List Kind} (following : Sentence rest) : Tail (.comma :: rest)

inductive AfterStop : List Kind → Prop
  | done {tail : List Kind} (tailed : Tail tail) : AfterStop tail
  | repeated {tail : List Kind} (tailed : Tail tail) :
      AfterStop (.openParen :: .number :: .closeParen :: tail)

inductive AfterStart : List Kind → Prop
  | single {rest : List Kind} (following : AfterStop rest) : AfterStart rest
  | range {rest : List Kind} (following : AfterStop rest) :
      AfterStart (.hyphen :: .number :: rest)

def Expecting.Completes : Expecting → List Kind → Prop
  | .start, rest => Sentence rest
  | .afterStart, rest => AfterStart rest
  | .stop, rest => ∃ following, rest = .number :: following ∧ AfterStop following
  | .afterStop, rest => AfterStop rest
  | .repeats, rest => ∃ tail, rest = .number :: .closeParen :: tail ∧ Tail tail
  | .closing, rest => ∃ tail, rest = .closeParen :: tail ∧ Tail tail
  | .separator, rest => Tail rest

theorem afterStop_iff {rest : List Kind} : AfterStop rest ↔
    ∃ repeats tail, RepeatsPart repeats ∧ Tail tail ∧ rest = repeats ++ tail := by
  constructor
  · intro after
    cases after with
    | done tailed => exact ⟨[], rest, .absent, tailed, rfl⟩
    | repeated tailed => exact ⟨_, _, .present, tailed, rfl⟩
  · rintro ⟨repeats, tail, repeated, tailed, rfl⟩
    cases repeated with
    | absent => exact .done tailed
    | present => exact .repeated tailed

theorem afterStart_iff {rest : List Kind} : AfterStart rest ↔
    ∃ stop following, StopPart stop ∧ AfterStop following ∧ rest = stop ++ following := by
  constructor
  · intro after
    cases after with
    | single following => exact ⟨[], rest, .absent, following, rfl⟩
    | range following => exact ⟨_, _, .present, following, rfl⟩
  · rintro ⟨stop, following, stops, after, rfl⟩
    cases stops with
    | absent => exact .single after
    | present => exact .range after

theorem sentence_iff {kinds : List Kind} :
    Sentence kinds ↔ ∃ rest, kinds = .number :: rest ∧ AfterStart rest := by
  constructor
  · intro sentence
    cases sentence with
    | @single stop repeats stops repeated =>
        have after := afterStop_iff.mpr ⟨repeats, [], repeated, .last, (List.append_nil _).symm⟩
        exact ⟨stop ++ repeats, rfl, afterStart_iff.mpr ⟨stop, repeats, stops, after, rfl⟩⟩
    | @more stop repeats rest stops repeated following =>
        have after := afterStop_iff.mpr ⟨repeats, _, repeated, .more following, rfl⟩
        refine ⟨stop ++ (repeats ++ .comma :: rest), by simp, ?_⟩
        exact afterStart_iff.mpr ⟨stop, _, stops, after, rfl⟩
  · rintro ⟨rest, rfl, after⟩
    obtain ⟨stop, following, stops, afterStop, rfl⟩ := afterStart_iff.mp after
    obtain ⟨repeats, tail, repeated, tailed, rfl⟩ := afterStop_iff.mp afterStop
    cases tailed with
    | last => simpa using Sentence.single stops repeated
    | more following => simpa using Sentence.more stops repeated following

theorem tail_cons_iff {kind : Kind} {rest : List Kind} :
    Tail (kind :: rest) ↔ kind = .comma ∧ Sentence rest := by
  constructor
  · rintro (_ | following)
    exact ⟨rfl, following⟩
  · rintro ⟨rfl, following⟩
    exact .more following

theorem afterStop_cons_iff {kind : Kind} {rest : List Kind} :
    AfterStop (kind :: rest) ↔ Tail (kind :: rest) ∨
      (kind = .openParen ∧ Expecting.repeats.Completes rest) := by
  constructor
  · rintro (tailed | tailed)
    · exact .inl tailed
    · exact .inr ⟨rfl, _, rfl, tailed⟩
  · rintro (tailed | ⟨rfl, tail, rfl, tailed⟩)
    · exact .done tailed
    · exact .repeated tailed

theorem afterStart_cons_iff {kind : Kind} {rest : List Kind} :
    AfterStart (kind :: rest) ↔ AfterStop (kind :: rest) ∨
      (kind = .hyphen ∧ Expecting.stop.Completes rest) := by
  constructor
  · rintro (following | following)
    · exact .inl following
    · exact .inr ⟨rfl, _, rfl, following⟩
  · rintro (following | ⟨rfl, rest, rfl, following⟩)
    · exact .single following
    · exact .range following

theorem Expecting.completes_cons_iff (expecting : Expecting) (kind : Kind) (rest : List Kind) :
    expecting.Completes (kind :: rest) ↔
      ∃ next, expecting.next? kind = some next ∧ next.Completes rest := by
  cases expecting with
  | start => cases kind <;> simp [Completes, next?, sentence_iff]
  | afterStart =>
      cases kind <;> simp [Completes, next?, afterStart_cons_iff, afterStop_cons_iff, tail_cons_iff]
  | stop => cases kind <;> simp [Completes, next?]
  | afterStop => cases kind <;> simp [Completes, next?, afterStop_cons_iff, tail_cons_iff]
  | repeats => cases kind <;> simp [Completes, next?]
  | closing => cases kind <;> simp [Completes, next?]
  | separator => cases kind <;> simp [Completes, next?, tail_cons_iff]

theorem Expecting.exists_completes (expecting : Expecting) : ∃ rest, expecting.Completes rest := by
  have tailed : AfterStop [] := .done .last
  cases expecting with
  | start => exact ⟨[.number], .single .absent .absent⟩
  | afterStart => exact ⟨[], .single tailed⟩
  | stop => exact ⟨[.number], [], rfl, tailed⟩
  | afterStop => exact ⟨[], tailed⟩
  | repeats => exact ⟨[.number, .closeParen], [], rfl, .last⟩
  | closing => exact ⟨[.closeParen], [], rfl, .last⟩
  | separator => exact ⟨[], .last⟩

def Expecting.reads? (expecting : Expecting) : List Kind → Option Expecting
  | [] => some expecting
  | kind :: rest => (expecting.next? kind).bind fun next => next.reads? rest

theorem Expecting.completes_append_iff (expecting : Expecting) (kinds rest : List Kind) :
    expecting.Completes (kinds ++ rest) ↔
      ∃ next, expecting.reads? kinds = some next ∧ next.Completes rest := by
  induction kinds generalizing expecting with
  | nil => simp [reads?]
  | cons kind kinds ih =>
      rw [List.cons_append, completes_cons_iff, reads?]
      cases expecting.next? kind with
      | none => simp
      | some next => simp [ih]

theorem isViable_iff {kinds : List Kind} :
    IsViable kinds ↔ ∃ next, Expecting.start.reads? kinds = some next := by
  constructor
  · rintro ⟨rest, sentence⟩
    obtain ⟨next, read, -⟩ := (Expecting.start.completes_append_iff kinds rest).mp sentence
    exact ⟨next, read⟩
  · rintro ⟨next, read⟩
    obtain ⟨rest, completes⟩ := next.exists_completes
    exact ⟨rest, (Expecting.start.completes_append_iff kinds rest).mpr ⟨next, read, completes⟩⟩

end Flipbook.Definition
