import ThreeAddress.Fault

/-!
# What a message quotes

A message is a fixed wording around at most one piece of the source: the content of a line that is
not the header, the name of an operation in upper case, or a token. Everything that is not ordinary
about a message is therefore in what it quotes (`Fault.exists_message_eq`): the wording has no
underscore and no line feed, and neither have the names of operations and the numbers in it. A label
is all wording.
-/

namespace ThreeAddress

open Text

/-! ### The wording -/

/-- The text has no underscore and no line feed. -/
def IsWording (t : Text) : Prop := ∀ c ∈ t, c ≠ '_' ∧ c ≠ '\n'

instance (t : Text) : Decidable (IsWording t) :=
  List.decidableBAll (fun c ↦ c ≠ '_' ∧ c ≠ '\n') t

theorem isWording_nil : IsWording [] := by simp [IsWording]

theorem IsWording.append {s t : Text} (hs : IsWording s) (ht : IsWording t) : IsWording (s ++ t) :=
  List.forall_mem_append.2 ⟨hs, ht⟩

theorem IsWording.lineFeed_not_mem {t : Text} (h : IsWording t) : '\n' ∉ t :=
  fun hmem ↦ (h _ hmem).2 rfl

theorem isWording_ofNat (n : Nat) : IsWording (ofNat n) := fun _ hc ↦
  ⟨ne_of_mem_ofNat hc (by decide), ne_of_mem_ofNat hc (by decide)⟩

theorem Opcode.isWording_name (op : Opcode) : IsWording op.name := by
  have hall : ∀ op ∈ all, IsWording op.name := by decide
  exact hall op (mem_all op)

theorem Opcode.isWording_signature (op : Opcode) : IsWording (displaySignature op.signature) := by
  have hall : ∀ op ∈ all, IsWording (displaySignature op.signature) := by decide
  exact hall op (mem_all op)

theorem Kind.isWording_name (kind : Kind) : IsWording kind.name := by
  cases kind <;> decide

theorem Category.isWording_name (category : Category) : IsWording category.name := by
  cases category <;> decide

namespace Fault

/-- What the message of the fault quotes: a part of the source or, for a fault of the reader, what
it says about itself. -/
def quoted : Fault → Text
  | incorrectHeader found => found
  | unknownOpcode word => word
  | invalidOperand token => token
  | internal detail => detail
  | missingHeader => []
  | wrongArity _ _ _ => []
  | operandMismatch _ _ _ _ => []

/-- What the message of a fault in a source quotes if the fault is about the given text. -/
def quotedOf (marked : Text) : Fault → Text
  | incorrectHeader _ => marked
  | unknownOpcode _ => marked.upper
  | invalidOperand _ => marked
  | internal _ => []
  | missingHeader => []
  | wrongArity _ _ _ => []
  | operandMismatch _ _ _ _ => []

/-- **A message is a wording around what it quotes.** -/
theorem exists_message_eq (fault : Fault) : ∃ before after,
    fault.message = before ++ fault.quoted ++ after ∧ IsWording before ∧ IsWording after := by
  -- a message that quotes nothing is all wording
  have hwording : fault.quoted = [] → IsWording fault.message → ∃ before after,
      fault.message = before ++ fault.quoted ++ after ∧ IsWording before ∧ IsWording after := by
    intro hquoted hmessage
    exact ⟨fault.message, [], by simp [hquoted], hmessage, isWording_nil⟩
  cases fault with
  | missingHeader => exact hwording rfl (by decide)
  | incorrectHeader found =>
    exact ⟨"incorrect header `".toList, "`, expected ".toList ++ quotedHeader,
      List.append_assoc _ _ _, by decide, by decide⟩
  | unknownOpcode word =>
    exact ⟨"unknown or incorrect operation code `".toList, ['`'], rfl, by decide, by decide⟩
  | wrongArity op expected actual =>
    have htakes : IsWording (op.name ++ " takes ".toList ++ ofNat expected) :=
      .append (.append op.isWording_name (by decide)) (isWording_ofNat expected)
    have hfound := htakes.append (t := " operand(s), found ".toList) (by decide)
    exact hwording rfl (hfound.append (isWording_ofNat actual))
  | invalidOperand token =>
    exact ⟨['`'], "` is not a valid variable, literal, label or type".toList, rfl, by decide,
      by decide⟩
  | operandMismatch op position expected actual =>
    have hplace : IsWording ("operand ".toList ++ ofNat position ++ " of ".toList ++ op.name) :=
      .append (.append (.append (by decide) (isWording_ofNat position)) (by decide))
        op.isWording_name
    have hkind := (hplace.append (t := " must be <".toList) (by decide)).append
      expected.isWording_name
    have hfound := hkind.append (t := ">, found a ".toList) (by decide)
    exact hwording rfl (hfound.append actual.isWording_name)
  | internal detail =>
    exact ⟨"internal error: ".toList, [], (List.append_nil _).symm, by decide, isWording_nil⟩

/-- A message breaks only where what it quotes does. -/
theorem lineFeed_not_mem_message {fault : Fault} (h : '\n' ∉ fault.quoted) :
    '\n' ∉ fault.message := by
  obtain ⟨before, after, heq, hbefore, hafter⟩ := fault.exists_message_eq
  simp [heq, h, hbefore.lineFeed_not_mem, hafter.lineFeed_not_mem]

/-- No message is empty: there is a blank in all of them. -/
theorem space_mem_message (fault : Fault) : ' ' ∈ fault.message := by
  cases fault with
  | missingHeader => decide
  | incorrectHeader found =>
    exact List.mem_append_left _ (List.mem_append_left _ (List.mem_append_left _ (by decide)))
  | unknownOpcode word => exact List.mem_append_left _ (List.mem_append_left _ (by decide))
  | wrongArity op expected actual =>
    have htakes : ' ' ∈ op.name ++ " takes ".toList := List.mem_append_right _ (by decide)
    exact List.mem_append_left _ (List.mem_append_left _ (List.mem_append_left _ htakes))
  | invalidOperand token => exact List.mem_append_right _ (by decide)
  | operandMismatch op position expected actual =>
    have hfound : ' ' ∈ ">, found a ".toList := by decide
    exact List.mem_append_left _ (List.mem_append_right _ hfound)
  | internal detail => exact List.mem_append_left _ (by decide)

/-- A label quotes nothing. -/
theorem lineFeed_not_mem_label (fault : Fault) : '\n' ∉ fault.label := by
  have hlabel : IsWording fault.label := by
    cases fault with
    | wrongArity op expected actual =>
      have hname : IsWording ("expected `".toList ++ op.name) :=
        .append (by decide) op.isWording_name
      have hsignature : IsWording (' ' :: displaySignature op.signature) :=
        .append (s := [' ']) (by decide) op.isWording_signature
      exact .append (hname.append hsignature) (by decide)
    | operandMismatch op position expected actual =>
      exact .append (.append (by decide) expected.isWording_name) (by decide)
    | missingHeader => decide
    | incorrectHeader found =>
      show IsWording ("expected ".toList ++ quotedHeader)
      decide
    | unknownOpcode word =>
      show IsWording "unknown opcode".toList
      decide
    | invalidOperand token =>
      show IsWording "invalid operand".toList
      decide
    | internal detail =>
      show IsWording "while parsing this".toList
      decide
  exact hlabel.lineFeed_not_mem

end Fault

end ThreeAddress
