import ThreeAddress.CommandLine
import ThreeAddress.Proofs.Program.Internal

/-!
# The filter does all or nothing

An answer is one of two things: everything that was asked for on standard output and not a word on
standard error, or nothing on standard output and a complaint (`Response.AllOrNothing`). There is no
third, since a run only writes once it knows what: the arguments come before the input, the whole
input is decoded before its first line is read, and the whole source is read before the document is
written. So a failure of one of these leaves nothing of the later ones, and the exit code tells
which it was.

An output that cannot be written comes last in this order. It changes the answer to a source just
where there is a document to write (`respondToSource_refuses`).
-/

namespace ThreeAddress

/-- The answer is a text and no complaint, or a complaint and no text. -/
inductive Response.AllOrNothing : Response → Prop
  | success {text : Text} (hne : text ≠ []) : AllOrNothing (.success text)
  | failure {e : Failure} (hcode : e.exitCode ∈ [10, 11, 21, 22, 23]) : AllOrNothing (.failure e)

namespace Response

/-- A failure says something, whatever its message. -/
theorem stderr_failure_ne_nil (e : Failure) : (failure e).stderr ≠ [] := by simp [failure]

namespace AllOrNothing

variable {r : Response}

/-- The exit code alone tells whether the run went well. -/
theorem exitCode_eq_zero_iff (h : r.AllOrNothing) : r.exitCode = 0 ↔ r.stderr = [] := by
  cases h with
  | success => exact iff_of_true rfl rfl
  | @failure e hcode =>
    refine iff_of_false (fun hzero : e.exitCode = 0 ↦ ?_) (stderr_failure_ne_nil e)
    rw [hzero] at hcode
    exact absurd hcode (by decide)

/-- Exactly one of the two streams gets something. -/
theorem stderr_eq_nil_iff (h : r.AllOrNothing) : r.stderr = [] ↔ r.stdout ≠ [] := by
  cases h with
  | success hne => exact iff_of_true rfl hne
  | @failure e => exact iff_of_false (stderr_failure_ne_nil e) (not_not.2 rfl)

/-- There are no other exit codes: none for an output that refuses what is written, since it does
not, and none for a fault of the reader. -/
theorem exitCode_mem (h : r.AllOrNothing) : r.exitCode ∈ [0, 10, 11, 21, 22, 23] := by
  cases h with
  | success => exact List.mem_cons_self
  | failure hcode => exact List.mem_cons_of_mem 0 hcode

end AllOrNothing

end Response

/-! ### Reading the input -/

namespace Program

/-- What is said of an input that is no text. -/
def notText : Failure := .input "stream did not contain valid UTF-8".toList

/-- The encoding of a text is read as the text. -/
theorem ofBytes_utf8 (source : Text) : ofBytes source.utf8.toByteArray = ofSource source := by
  have hdecode : String.fromUTF8? source.utf8.toByteArray = some (String.ofList source) :=
    dif_pos ByteArray.isValidUTF8_utf8Encode
  rw [ofBytes, hdecode]
  simp

/-- **An input that is the encoding of no text is not read at all**, whatever its first lines
are. -/
theorem ofBytes_of_forall_ne {bytes : ByteArray}
    (h : ∀ source : Text, bytes ≠ source.utf8.toByteArray) : ofBytes bytes = .error notText := by
  have hdecode : String.fromUTF8? bytes = none := dif_neg fun ⟨source, hsource⟩ ↦ h source hsource
  rw [ofBytes, hdecode]
  rfl

/-- What can be wrong with bytes is that they are no text, or that the text has a fault of the
source; a fault of the reader does not come up. -/
theorem exitCode_mem_of_ofBytes_eq_error {bytes : ByteArray} {e : Failure}
    (h : ofBytes bytes = .error e) : e.exitCode ∈ [11, 21, 22, 23] := by
  by_cases hbytes : ∃ source : Text, bytes = source.utf8.toByteArray
  · obtain ⟨source, rfl⟩ := hbytes
    rw [ofBytes_utf8] at h
    exact List.mem_cons_of_mem 11 (isExternal_of_ofSource_eq_error h).exitCode_mem
  · rw [ofBytes_of_forall_ne (not_exists.1 hbytes)] at h
    obtain rfl := Except.error.inj h
    decide

/-- Every document has at least its declaration. -/
theorem toXml_ne_nil (p : Program) : p.toXml ≠ [] := by
  simp [toXml, Xml.pieces, Xml.documentLines]

end Program

/-! ### Answering -/

/-- The bytes are read as a whole before anything is written, so the answer is one of two forms. -/
theorem respondToSource_allOrNothing (bytes : ByteArray) :
    (respondToSource .accepts bytes).AllOrNothing := by
  rw [respondToSource]
  cases h : Program.ofBytes bytes with
  | ok p => exact .success p.toXml_ne_nil
  | error e =>
    have hsub : [11, 21, 22, 23] ⊆ [10, 11, 21, 22, 23] := by decide
    exact .failure (hsub (Program.exitCode_mem_of_ofBytes_eq_error h))

/-- **Every answer is all or nothing**, if standard output can be written. -/
theorem respond_allOrNothing (arguments : List Text) (input : ByteArray) :
    (respond .accepts arguments input).AllOrNothing := by
  cases hrequest : Request.ofArguments arguments with
  | filter =>
    simp only [respond, hrequest]
    exact respondToSource_allOrNothing input
  | refused reason =>
    simp only [respond, hrequest]
    exact .failure List.mem_cons_self
  | help =>
    simp only [respond, hrequest]
    exact .success (List.append_ne_nil_of_right_ne_nil _ (List.cons_ne_nil _ _))
  | version =>
    simp only [respond, hrequest]
    exact .success (by decide)

/-- Without arguments the program is a filter, and two dashes are no argument. -/
theorem respond_of_mem {arguments : List Text} (h : arguments ∈ [[], ["--".toList]])
    (output : StandardOutput) (input : ByteArray) :
    respond output arguments input = respondToSource output input := by
  have hrequest : Request.ofArguments arguments = .filter := by
    rcases List.mem_cons.1 h with rfl | h
    · rfl
    · obtain rfl := List.mem_singleton.1 h
      rfl
  simp only [respond, hrequest]

/-- The answer to a text is its document, or else the diagnostic of its failure. -/
theorem respondToSource_utf8 (source : Text) :
    respondToSource .accepts source.utf8.toByteArray =
      match Program.ofSource source with
      | .ok p => ⟨0, p.toXml, []⟩
      | .error e => ⟨e.exitCode, [], e.render (some "<stdin>".toList) false ++ ['\n']⟩ := by
  rw [respondToSource, Program.ofBytes_utf8]
  cases h : Program.ofSource source with
  | ok p => rfl
  | error e =>
    obtain ⟨-⟩ := Program.isExternal_of_ofSource_eq_error h
    rfl

/-- **An output that refuses the document is a failure of its own**, and one that is not asked to
take any makes no difference. -/
theorem respondToSource_refuses (reason : Text) (bytes : ByteArray) :
    respondToSource (.refuses reason) bytes =
      if (respondToSource .accepts bytes).exitCode = 0 then .failure (.output reason)
      else respondToSource .accepts bytes := by
  cases h : Program.ofBytes bytes with
  | ok p =>
    simp only [respondToSource, h]
    rfl
  | error e =>
    have hcode : e.exitCode ≠ 0 := fun hzero ↦ by
      have hmem := Program.exitCode_mem_of_ofBytes_eq_error h
      rw [hzero] at hmem
      exact absurd hmem (by decide)
    simp only [respondToSource, h]
    exact (if_neg hcode).symm

/-- The exit code of an output that cannot be written is that of no other failure. -/
theorem exitCode_respondToSource_refuses_iff (reason : Text) (bytes : ByteArray) :
    (respondToSource (.refuses reason) bytes).exitCode = 12 ↔
      (respondToSource .accepts bytes).exitCode = 0 := by
  rw [respondToSource_refuses]
  split_ifs with hzero
  · exact iff_of_true rfl hzero
  · refine iff_of_false (fun h ↦ ?_) hzero
    have hmem := (respondToSource_allOrNothing bytes).exitCode_mem
    rw [h] at hmem
    exact absurd hmem (by decide)

/-- **The program does all or nothing.** If standard output can be written, the exit code, standard
output and standard error agree on whether the run has succeeded. As a filter the program reads no
line of an input that is no text, and answers to a text with its document or with the diagnostic of
its failure; where a document cannot be written, that is reported instead, and nothing else
changes. -/
theorem all_or_nothing :
    (∀ arguments input,
      ((respond .accepts arguments input).exitCode = 0 ↔
        (respond .accepts arguments input).stderr = []) ∧
      ((respond .accepts arguments input).stderr = [] ↔
        (respond .accepts arguments input).stdout ≠ []) ∧
      (respond .accepts arguments input).exitCode ∈ [0, 10, 11, 21, 22, 23]) ∧
    ∀ arguments ∈ [[], ["--".toList]], ∀ input : ByteArray,
      ((∀ source : Text, input ≠ source.utf8.toByteArray) →
        respond .accepts arguments input = ⟨11, [],
          "error: cannot read input: stream did not contain valid UTF-8\n".toList⟩) ∧
      (∀ source : Text, input = source.utf8.toByteArray → respond .accepts arguments input =
        match Program.ofSource source with
        | .ok p => ⟨0, p.toXml, []⟩
        | .error e => ⟨e.exitCode, [], e.render (some "<stdin>".toList) false ++ ['\n']⟩) ∧
      ∀ reason,
        ((respond (.refuses reason) arguments input).exitCode = 12 ↔
          (respond .accepts arguments input).exitCode = 0) ∧
        respond (.refuses reason) arguments input =
          if (respond .accepts arguments input).exitCode = 0 then
            ⟨12, [], "error: cannot write output: ".toList ++ reason ++ ['\n']⟩
          else respond .accepts arguments input := by
  constructor
  · intro arguments input
    have h := respond_allOrNothing arguments input
    exact ⟨h.exitCode_eq_zero_iff, h.stderr_eq_nil_iff, h.exitCode_mem⟩
  · intro arguments harguments input
    simp only [respond_of_mem harguments]
    refine ⟨fun hbytes ↦ ?_, ?_, fun reason ↦ ⟨?_, ?_⟩⟩
    · rw [respondToSource, Program.ofBytes_of_forall_ne hbytes]
      rfl
    · rintro source rfl
      exact respondToSource_utf8 source
    · exact exitCode_respondToSource_refuses_iff reason input
    · rw [respondToSource_refuses]
      rfl

/-- A wrong line before bytes that are no text, a wrong line alone, and a document that cannot be
written. -/
theorem all_or_nothing_three_failures :
    respond .accepts [] ⟨#[0x78, 0x0A, 0xFF]⟩ =
        ⟨11, [], "error: cannot read input: stream did not contain valid UTF-8\n".toList⟩ ∧
      respond .accepts ["--".toList] (Text.utf8 "x\n".toList).toByteArray =
        ⟨21, [], (Failure.source (.incorrectHeader ['x']) (some ⟨1, ['x'], 0, 1⟩)).render
          (some "<stdin>".toList) false ++ ['\n']⟩ ∧
      respond (.refuses "full".toList) [] header.utf8.toByteArray =
        ⟨12, [], "error: cannot write output: full\n".toList⟩ := by
  refine ⟨?_, ?_, ?_⟩
  · have hbytes : ¬(ByteArray.mk #[0x78, 0x0A, 0xFF]).IsValidUTF8 := by decide +kernel
    exact (all_or_nothing.2 [] (by decide) _).1 fun source hsource ↦ hbytes ⟨source, hsource⟩
  · have hfault : Program.ofSource "x\n".toList =
        .error (.source (.incorrectHeader ['x']) (some ⟨1, ['x'], 0, 1⟩)) := by
      decide +kernel
    rw [(all_or_nothing.2 ["--".toList] (by decide) _).2.1 _ rfl, hfault]
    rfl
  · obtain ⟨-, hread, hrefused⟩ := all_or_nothing.2 [] (by decide) header.utf8.toByteArray
    have hprogram : Program.ofSource header = .ok ⟨[]⟩ := by decide +kernel
    rw [(hrefused "full".toList).2, hread header rfl, hprogram]
    rfl

end ThreeAddress
