import Chip8.Instruction.Basic

/-! # Programs

`assemble` lays the words of a list of instructions out in memory order; `length_assemble`. -/

namespace Chip8.Program

def assemble (program : List Instruction) : List UInt8 :=
  program.flatMap fun inst => Word.bytes inst.encode

theorem assemble_cons (inst : Instruction) (program : List Instruction) :
    assemble (inst :: program) = Word.bytes inst.encode ++ assemble program := rfl

theorem length_assemble (program : List Instruction) :
    (assemble program).length = 2 * program.length := by
  induction program with
  | nil => rfl
  | cons inst program ih =>
    rw [assemble_cons, List.length_append, ih, Word.length_bytes, List.length_cons]
    omega

end Chip8.Program
