import Chip8.Machine.Event
import Chip8.Proofs.Text.Parts

/-! # Messages

A fault can be told from its message, and the tick that a record of the log is about from the record.

* `Fault.lead`, `Fault.details`: a message up to its first number, and from there on.
  `lead_and_details_of_message`: how a message goes on up to its first number can be told from its
  first letters. `Fault.message_inj`: and the numbers tell the rest.
* `Record`, `Event.record`: an event as it is logged; `pc_eq_of_record_decoded`,
  `eq_of_record_failed`. -/

namespace Chip8

/-! ## Faults -/

namespace Fault

variable {f g : Fault}

/-- The message up to its first number. -/
def lead : Fault → String
  | memoryOutOfBounds _ => "memory address out of bounds: 0x"
  | pixelOutOfRange .. => "pixel coordinate out of range: x: "
  | stackOverflow _ => "stack overflow on CALL at 0x"
  | stackUnderflow _ => "stack underflow on RET at 0x"
  | invalidJumpTarget _ => "jump target out of range: 0x"
  | notImplemented _ => "instruction 0x"
  | unknownOpcode _ => "unknown opcode: 0x"
  | romTooLarge .. => "ROM is too large ("

/-- The message from its first number on. -/
def details : Fault → String
  | memoryOutOfBounds address => Hex.lower 4 address
  | pixelOutOfRange x y => x.repr ++ (", y: " ++ y.repr)
  | stackOverflow pc | stackUnderflow pc => Hex.lower 4 pc.toNat
  | invalidJumpTarget target => Hex.lower 4 target.toNat ++ ", max: 0x0ffe"
  | notImplemented opcode => Hex.lower 4 opcode.toNat ++ " is not implemented"
  | unknownOpcode opcode => Hex.lower 4 opcode.toNat
  | romTooLarge size limit =>
    size.repr ++ (" bytes), max size is " ++ (limit.repr ++ " bytes"))

/-- Every way for a message to begin. -/
def leads : List String :=
  [lead (memoryOutOfBounds 0), lead (pixelOutOfRange 0 0), lead (stackOverflow 0),
    lead (stackUnderflow 0), lead (invalidJumpTarget 0), lead (notImplemented 0),
    lead (unknownOpcode 0), lead (romTooLarge 0 0)]

theorem lead_mem_leads (f : Fault) : f.lead ∈ leads := by
  cases f <;> simp [lead, leads]

theorem leads_long : ∀ s ∈ leads, 7 ≤ s.toList.length := by decide

theorem leads_inj :
    ∀ s ∈ leads, ∀ t ∈ leads, s.toList.take 7 = t.toList.take 7 → s = t := by decide

theorem message_eq (f : Fault) : f.message = f.lead ++ f.details := by
  cases f with
  | pixelOutOfRange x y =>
    simp only [lead, details, ← String.append_assoc]
    rfl
  | romTooLarge size limit =>
    simp only [lead, details, ← String.append_assoc]
    rfl
  | invalidJumpTarget target | notImplemented opcode => exact String.append_assoc
  | _ => rfl

theorem take_message (f : Fault) : f.message.toList.take 7 = f.lead.toList.take 7 := by
  rw [message_eq, String.toList_append,
    List.take_append_of_le_length (leads_long _ f.lead_mem_leads)]

theorem lead_and_details_of_message (h : f.message = g.message) :
    f.lead = g.lead ∧ f.details = g.details := by
  have htake : f.lead.toList.take 7 = g.lead.toList.take 7 := by
    rw [← take_message, ← take_message, h]
  have hlead := leads_inj _ f.lead_mem_leads _ g.lead_mem_leads htake
  rw [message_eq, message_eq, hlead] at h
  exact ⟨hlead, (String.append_right_inj _).1 h⟩

theorem eq_of_lead_of_details (hl : f.lead = g.lead) (hd : f.details = g.details) : f = g := by
  cases f with
  | memoryOutOfBounds a =>
    cases g with
    | memoryOutOfBounds b => rw [Hex.lower_inj hd]
    | _ => simp [lead] at hl
  | pixelOutOfRange x y =>
    cases g with
    | pixelOutOfRange x' y' =>
      obtain ⟨rfl, hy⟩ := repr_append_inj rfl rfl hd
      rw [eq_of_repr hy]
    | _ => simp [lead] at hl
  | stackOverflow pc =>
    cases g with
    | stackOverflow pc' => rw [Hex.word_inj hd]
    | _ => simp [lead] at hl
  | stackUnderflow pc =>
    cases g with
    | stackUnderflow pc' => rw [Hex.word_inj hd]
    | _ => simp [lead] at hl
  | invalidJumpTarget target =>
    cases g with
    | invalidJumpTarget target' => rw [(Hex.word_append_inj hd).1]
    | _ => simp [lead] at hl
  | notImplemented opcode =>
    cases g with
    | notImplemented opcode' => rw [(Hex.word_append_inj hd).1]
    | _ => simp [lead] at hl
  | unknownOpcode opcode =>
    cases g with
    | unknownOpcode opcode' => rw [Hex.word_inj hd]
    | _ => simp [lead] at hl
  | romTooLarge size limit =>
    cases g with
    | romTooLarge size' limit' =>
      obtain ⟨rfl, hlimit⟩ := repr_append_inj rfl rfl hd
      rw [eq_of_repr ((String.append_left_inj _).1 hlimit)]
    | _ => simp [lead] at hl

/-- **A fault can be told from its message.** -/
theorem message_inj (h : f.message = g.message) : f = g :=
  eq_of_lead_of_details (lead_and_details_of_message h).1 (lead_and_details_of_message h).2

end Fault

/-! ## Records -/

/-- A record of the log. -/
abbrev Record := Level × String

def Event.record (e : Event) : Record := (e.level, e.message)

theorem record_decoded_ne_failed {pc pc' w : UInt16} {inst : Instruction} {f : Fault} :
    (Event.decoded pc w inst).record ≠ (Event.failed pc' f).record :=
  fun h => Level.noConfusion (Prod.mk.inj h).1

theorem pc_eq_of_record_decoded {pc pc' w w' : UInt16} {inst inst' : Instruction}
    (h : (Event.decoded pc w inst).record = (Event.decoded pc' w' inst').record) : pc = pc' := by
  have hmessage := (Prod.mk.inj h).2
  simp only [Event.message, String.append_assoc] at hmessage
  exact (Hex.word_append_inj ((String.append_right_inj _).1 hmessage)).1

theorem eq_of_record_failed {pc pc' : UInt16} {f f' : Fault}
    (h : (Event.failed pc f).record = (Event.failed pc' f').record) : pc = pc' ∧ f = f' := by
  have hmessage := (Prod.mk.inj h).2
  simp only [Event.message, String.append_assoc] at hmessage
  obtain ⟨hpc, hrest⟩ := Hex.word_append_inj ((String.append_right_inj _).1 hmessage)
  exact ⟨hpc, Fault.message_inj ((String.append_right_inj _).1 hrest)⟩

end Chip8
