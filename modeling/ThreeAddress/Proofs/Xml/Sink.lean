import ThreeAddress.Xml.Sink

/-!
# What a limited sink gets of a document

A document is written line by line, and a sink may become full in the middle of any of them. Where
the pieces begin and end does not matter to what the sink has taken in the end, nor to whether it
has complained: the piece which is refused fills the sink, so that the first bytes are taken and the
first of those that are not taken ends the writing (`Sink.put_append`).

So whatever is written in steps comes to the same as one piece. `Writing.Sends.bind` says it of two
steps and `Writing.Sends.forIn` of a loop; the elements of a document are put together from these,
and the whole of it is one piece with the text of the document (`writeXml_eq_put`). The same holds
of any other pieces that it is cut into (`Sink.putAll_eq_put`). A sink that takes a part of a
request only, and is asked for the rest again, has been written to in smaller pieces.
-/

namespace ThreeAddress

open Text

namespace Sink

variable {s : Sink} {bytes : List UInt8} {pieces : List (List UInt8)}

@[simp] theorem room_empty (n : Nat) (complaint : Text) : (empty n complaint).room = n := rfl

@[simp] theorem complaint_empty (n : Nat) (complaint : Text) :
    (empty n complaint).complaint = complaint := rfl

@[simp] theorem taken_empty (n : Nat) (complaint : Text) : (empty n complaint).taken = [] := rfl

/-! ### One piece -/

/-- A piece that fits is taken as a whole. -/
theorem put_of_le (h : bytes.length ≤ s.room) :
    s.put bytes =
      ({ s with room := s.room - bytes.length, taken := s.taken ++ bytes }, .ok ()) := by
  rw [put, List.take_of_length_le h, if_pos h]

/-- A piece that does not fit fills the sink and is refused. -/
theorem put_of_lt (h : s.room < bytes.length) :
    s.put bytes = ({ s with room := 0, taken := s.taken ++ bytes.take s.room },
      .error (.output s.complaint)) := by
  have hroom : s.room - bytes.length = 0 := by omega
  rw [put, hroom, if_neg (Nat.not_le_of_lt h)]

theorem put_nil (s : Sink) : s.put [] = (s, .ok ()) := by
  simp [put]

/-- Bytes behind those that overflow the sink make no difference. -/
theorem put_append_of_lt (h : s.room < bytes.length) (more : List UInt8) :
    s.put (bytes ++ more) = s.put bytes := by
  have hmore : s.room < (bytes ++ more).length := by
    rw [List.length_append]
    omega
  rw [put_of_lt h, put_of_lt hmore, List.take_append_of_le_length (Nat.le_of_lt h)]

/-- Bytes that fit leave a sink in which there is room for the rest. -/
theorem put_append_of_le (h : bytes.length ≤ s.room) (more : List UInt8) :
    s.put (bytes ++ more) = (s.put bytes).1.put more := by
  have htake : (bytes ++ more).take s.room = bytes ++ more.take (s.room - bytes.length) := by
    rw [List.take_append, List.take_of_length_le h]
  have hroom : s.room - (bytes ++ more).length = s.room - bytes.length - more.length := by
    rw [List.length_append]
    omega
  have hfits : (bytes ++ more).length ≤ s.room ↔ more.length ≤ s.room - bytes.length := by
    rw [List.length_append]
    omega
  rw [put_of_le h, put, put, htake, hroom]
  simp only [hfits, List.append_assoc]

/-- More bytes are bytes for the sink that is left, unless it has complained already. -/
theorem put_append (s : Sink) (bytes more : List UInt8) :
    s.put (bytes ++ more) =
      match s.put bytes with
      | (s', .ok ()) => s'.put more
      | (s', .error e) => (s', .error e) := by
  rcases Nat.lt_or_ge s.room bytes.length with hlt | hle
  · rw [put_append_of_lt hlt, put_of_lt hlt]
  · rw [put_append_of_le hle, put_of_le hle]

/-! ### Some pieces -/

/-- Writes one piece after the other, up to the first that is refused. -/
def putAll (s : Sink) : List (List UInt8) → Sink × Except Failure Unit
  | [] => (s, .ok ())
  | piece :: rest =>
    match s.put piece with
    | (s', .ok ()) => s'.putAll rest
    | (s', .error e) => (s', .error e)

/-- **Writing pieces is writing their bytes.** -/
theorem putAll_eq_put (s : Sink) (pieces : List (List UInt8)) :
    s.putAll pieces = s.put pieces.flatten := by
  induction pieces generalizing s with
  | nil => exact s.put_nil.symm
  | cons piece rest ih =>
    rw [putAll, List.flatten_cons, put_append]
    rcases s.put piece with ⟨s', _ | _⟩
    · rfl
    · exact ih s'

example : ((empty 2 []).putAll [[1], [2, 3], [4]]).1 = ⟨0, [], [1, 2]⟩ := by decide

/-- If the pieces do not fit, one of them is the first that does not. -/
theorem exists_first_refused (h : s.room < pieces.flatten.length) :
    ∃ before piece after, pieces = before ++ piece :: after ∧
      before.flatten.length ≤ s.room ∧ s.room < (before.flatten ++ piece).length := by
  induction pieces generalizing s with
  | nil => simp at h
  | cons piece rest ih =>
    rcases Nat.lt_or_ge s.room piece.length with hlt | hle
    · exact ⟨[], piece, rest, rfl, Nat.zero_le _, hlt⟩
    · rw [List.flatten_cons, List.length_append] at h
      obtain ⟨before, refused, after, rfl, hbefore, hrefused⟩ :=
        ih (s := { s with room := s.room - piece.length }) (by simp only; omega)
      refine ⟨piece :: before, refused, after, rfl, ?_, ?_⟩
      · simp only [List.flatten_cons, List.length_append] at hbefore ⊢
        omega
      · simp only [List.flatten_cons, List.length_append] at hrefused ⊢
        omega

/-- What comes behind the piece that overflows the sink is not written. -/
theorem putAll_append_cons_of_lt {before : List (List UInt8)} {piece : List UInt8}
    (h : s.room < (before.flatten ++ piece).length) (after later : List (List UInt8)) :
    s.putAll (before ++ piece :: later) = s.putAll (before ++ piece :: after) := by
  have hbytes : ∀ more : List (List UInt8),
      s.putAll (before ++ piece :: more) = s.put (before.flatten ++ piece) := by
    intro more
    rw [putAll_eq_put, List.flatten_append, List.flatten_cons, ← List.append_assoc,
      put_append_of_lt h]
  rw [hbytes later, hbytes after]

end Sink

/-! ### What is written in steps -/

namespace Writing

variable {w : Writing} {v : Unit → Writing} {t u : Text}

/-- What comes after a refusal is not done. -/
theorem into_bind (s : Sink) :
    Writing.into (w >>= v) s =
      match w.into s with
      | (s', .ok ()) => (v ()).into s'
      | (s', .error e) => (s', .error e) := by
  simp only [Writing.into, ExceptT.run_bind, StateT.run_bind]
  rcases w.run.run s with ⟨_ | _, s'⟩ <;> rfl

/-- A writing that comes to the same as one piece with this text. -/
def Sends (w : Writing) (t : Text) : Prop := ∀ s, w.into s = s.put (utf8 t)

theorem sends_pure : Sends (pure ()) [] := fun s ↦ s.put_nil.symm

/-- The step: what is written after something else is appended to it. -/
theorem Sends.bind (hw : w.Sends t) (hv : (v ()).Sends u) : Sends (w >>= v) (t ++ u) := by
  intro s
  rw [into_bind, hw s, utf8_append, Sink.put_append]
  rcases s.put (utf8 t) with ⟨s', _ | _⟩
  · rfl
  · exact hv s'

/-- The run: a loop sends what its rounds send, one after the other. -/
theorem Sends.forIn {α : Type} {body : α → Writing} {text : α → Text}
    (hbody : ∀ x, (body x).Sends (text x)) (xs : List α) :
    Sends (forIn xs PUnit.unit fun x _ ↦ do body x; pure (.yield PUnit.unit))
      (xs.flatMap text) := by
  induction xs with
  | nil => exact sends_pure
  | cons x xs ih =>
    rw [List.forIn_cons, bind_assoc, List.flatMap_cons]
    exact (hbody x).bind ih

end Writing

/-! ### The document -/

namespace Xml

open Writing

theorem sends_writeLine (line : Text) : (writeLine line).Sends (line ++ ['\n']) := fun _ ↦ rfl

/-- The element of a statement is written as its lines are, whether it has operands or not. -/
theorem sends_writeStatement (s : Statement) :
    (writeStatement s).Sends ((statementLines s).flatMap (· ++ ['\n'])) := by
  by_cases hxs : s.instruction.operands = []
  · rw [writeStatement, statementLines, hxs, List.flatMap_singleton]
    exact sends_writeLine _
  · have hloop := Sends.forIn
      (fun e : Operand × Nat ↦ sends_writeLine (operandLine (e.2 + 1) e.1))
      s.instruction.operands.zipIdx
    rw [writeStatement, if_neg (mt List.isEmpty_iff.1 hxs), statementLines_of_ne_nil hxs,
      operandLines_succ 0, List.flatMap_cons, List.flatMap_append, List.flatMap_map,
      List.flatMap_singleton]
    exact (sends_writeLine _).bind (hloop.bind (sends_writeLine _))

/-- The document is written as its text is. -/
theorem sends_writeDocument (p : Program) : (writeDocument p).Sends p.toXml := by
  rw [writeDocument, Program.toXml, pieces, ← List.flatMap_def]
  by_cases hss : p.statements = []
  · rw [documentLines, hss, List.flatMap_cons, List.flatMap_singleton]
    exact (sends_writeLine _).bind (sends_writeLine _)
  · have hloop := Sends.forIn sends_writeStatement p.statements
    rw [if_neg (mt List.isEmpty_iff.1 hss), documentLines_of_ne_nil hss, List.flatMap_cons,
      List.flatMap_cons, List.flatMap_append, List.flatMap_assoc, List.flatMap_singleton]
    exact (sends_writeLine _).bind ((sends_writeLine _).bind (hloop.bind (sends_writeLine _)))

end Xml

namespace Program

/-- Writing a document line by line is writing it at once. -/
theorem writeXml_eq_put (p : Program) (s : Sink) : p.writeXml s = s.put (utf8 p.toXml) :=
  Xml.sends_writeDocument p s

/-- What comes of writing the document of the program to a sink for `n` bytes. -/
structure FillsSink (p : Program) (n : Nat) (complaint : Text) : Prop where
  /-- The sink gets the first bytes of the document. -/
  taken : (p.writeXml (.empty n complaint)).1.taken = (utf8 p.toXml).take n
  /-- These are as many as the limit and the document allow. -/
  length_taken : (p.writeXml (.empty n complaint)).1.taken.length = min n (byteLength p.toXml)
  /-- The writing succeeds if the document fits, also exactly; otherwise it ends with what the sink
  says. -/
  outcome : (p.writeXml (.empty n complaint)).2 =
    if byteLength p.toXml ≤ n then .ok () else .error (.output complaint)
  /-- It does not matter in which pieces the document is written. -/
  pieces : ∀ pieces : List (List UInt8), pieces.flatten = utf8 p.toXml →
    (Sink.empty n complaint).putAll pieces = p.writeXml (.empty n complaint)
  /-- One of the pieces is the first that is refused: those before it are taken as a whole, and
  whatever comes behind it is not written. -/
  refused : ∀ pieces : List (List UInt8), pieces.flatten = utf8 p.toXml →
    n < byteLength p.toXml → ∃ before piece after, pieces = before ++ piece :: after ∧
      (Sink.empty n complaint).putAll before =
        (⟨n - before.flatten.length, complaint, before.flatten⟩, .ok ()) ∧
      n < (before.flatten ++ piece).length ∧
      ∀ later, (Sink.empty n complaint).putAll (before ++ piece :: later) =
        p.writeXml (.empty n complaint)

/-- **A sink that becomes full has taken exactly the beginning of the document.** -/
theorem fillsSink (p : Program) (n : Nat) (complaint : Text) : p.FillsSink n complaint where
  taken := by
    rw [writeXml_eq_put, Sink.put, Sink.taken_empty, Sink.room_empty, List.nil_append]
  length_taken := by
    rw [writeXml_eq_put, Sink.put, Sink.taken_empty, Sink.room_empty, List.nil_append,
      List.length_take, length_utf8]
  outcome := by
    rw [writeXml_eq_put, Sink.put, Sink.room_empty, Sink.complaint_empty, length_utf8]
  pieces := by
    intro pieces hpieces
    rw [writeXml_eq_put, Sink.putAll_eq_put, hpieces]
  refused := by
    intro pieces hpieces hlt
    have hroom : (Sink.empty n complaint).room < pieces.flatten.length := by
      rwa [hpieces, length_utf8, Sink.room_empty]
    obtain ⟨before, piece, after, rfl, hbefore, hpiece⟩ := Sink.exists_first_refused hroom
    refine ⟨before, piece, after, rfl, ?_, hpiece, fun later ↦ ?_⟩
    · rw [Sink.putAll_eq_put, Sink.put_of_le hbefore, Sink.taken_empty, Sink.room_empty,
        List.nil_append]
      rfl
    · rw [Sink.putAll_append_cons_of_lt hpiece after later, writeXml_eq_put, Sink.putAll_eq_put,
        hpieces]

end Program

end ThreeAddress
