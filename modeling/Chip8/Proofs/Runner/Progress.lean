import Chip8.Proofs.Machine.Start
import Chip8.Proofs.Run.Extent
import Chip8.Runner.Session

/-! # The progress of a run

How far a run has come is known from the number of ticks that it took: the loop with its counters is
the machine after that many ticks, and what is said about these ticks.

* `Progress.upTo`: the progress after a number of ticks, part by part (`machine_upTo`,
  `executed_upTo`, `failures_upTo`, `events_upTo`, `halt_upTo`).
* `Options.extent`: how many ticks a run takes; `Progress.play_eq`: so the whole run is known.
  `report_upTo`, `frame_upTo`: what is printed and drawn of it. `mem_conclusion`: what is printed
  behind the events of the machine.
* `Session.start_of_le`, `Session.start_of_gt`: a session up to the frame, for a program that fits
  and for one that does not. `Session.upTo`, `start_eq_upTo`: the first of them, by the number of
  ticks. `heading`, `output_upTo`: what it prints before the picture, and all that it prints.
  `frame_start`, `frame_start_of_none`, `output_start_frameOut`: the frame, and that nothing else is
  about it. -/

namespace Chip8.Runner

/-- How many ticks the run takes that the options ask for. -/
def Options.extent (o : Options) (m : Machine) : Nat :=
  (Machine.ticks o.keepGoing o.cycles.toNat m).length

theorem Options.stops_extent (o : Options) (m : Machine) :
    m.Stops o.keepGoing o.cycles.toNat (o.extent m) :=
  Machine.stops_ticks o.keepGoing o.cycles.toNat m

namespace Progress

/-- The progress of a run from `m` after its first `n` ticks. -/
def upTo (o : Options) (m : Machine) : Nat → Progress
  | 0 => { machine := m }
  | n + 1 => (upTo o m n).add o (m.afterTicks n).tick

theorem foldl_add (o : Options) (m : Machine) (n : Nat) :
    ((List.range n).map fun i => (m.afterTicks i).tick).foldl (add o) { machine := m } =
      upTo o m n := by
  induction n with
  | zero => rfl
  | succ n ih => rw [List.range_succ, List.map_append, List.foldl_append, ih]; rfl

/-- **The loop comes to the progress after as many ticks as it takes.** -/
theorem play_eq (o : Options) (m : Machine) : play o m = upTo o m (o.extent m) := by
  rw [play, Machine.foldTicks_eq, Machine.ticks_eq, foldl_add]
  rfl

/-! ## Part by part -/

theorem machine_upTo (o : Options) (m : Machine) (n : Nat) :
    (upTo o m n).machine = m.afterTicks n := by
  cases n with
  | zero => rfl
  | succ n => rw [Machine.afterTicks_succ]; rfl

theorem executed_upTo (o : Options) (m : Machine) (n : Nat) : (upTo o m n).executed = n := by
  induction n with
  | zero => rfl
  | succ n ih => exact congrArg (· + 1) ih

theorem failures_add (o : Options) (p : Progress) (t : Tick) :
    (p.add o t).failures = p.failures + if t.fault.isSome then 1 else 0 := by
  unfold add
  dsimp only
  split_ifs <;> rfl

theorem failures_upTo (o : Options) (m : Machine) (n : Nat) :
    (upTo o m n).failures = m.failures n := by
  induction n with
  | zero => rfl
  | succ n ih => rw [upTo, failures_add, ih, Machine.failures_succ]; rfl

theorem events_upTo (o : Options) (m : Machine) (n : Nat) :
    (upTo o m n).events.toList = (m.reported n).filter o.shows := by
  induction n with
  | zero => rfl
  | succ n ih =>
    rw [upTo, Machine.reported_succ, List.filter_append, ← ih]
    exact Array.toList_appendList

theorem halt_upTo (o : Options) (m : Machine) (n : Nat) :
    (upTo o m n).halt = m.haltAfter o.keepGoing n := by
  cases n with
  | zero => rfl
  | succ n => rfl

/-! ## What is made of it -/

/-- What is printed of a run behind what the machine reported. -/
def conclusion (o : Options) (m : Machine) (n : Nat) : List Item :=
  ((m.haltAfter o.keepGoing n).toList.map fun f => .notice (.halted n f))
  ++ [.notice (.ran n (m.failures n) (m.afterTicks n).pc), .text (m.afterTicks n).display.text]
  ++ (if o.dumpState then [.text ((m.afterTicks n).fullDump ++ "\n")] else [])

theorem mem_conclusion {o : Options} {m : Machine} {n : Nat} {i : Item}
    (h : i ∈ conclusion o m n) :
    (∃ f, m.haltAfter o.keepGoing n = some f ∧ i = .notice (.halted n f)) ∨
      i = .notice (.ran n (m.failures n) (m.afterTicks n).pc) ∨ ∃ text, i = .text text := by
  simp only [conclusion, List.mem_append, List.mem_map, Option.mem_toList, List.mem_cons,
    List.not_mem_nil, or_false] at h
  rcases h with (⟨f, hf, rfl⟩ | rfl | rfl) | h
  · exact .inl ⟨f, hf, rfl⟩
  · exact .inr (.inl rfl)
  · exact .inr (.inr ⟨_, rfl⟩)
  · split_ifs at h
    · exact .inr (.inr ⟨_, List.mem_singleton.1 h⟩)
    · cases h

theorem report_upTo (o : Options) (m : Machine) (n : Nat) :
    (upTo o m n).report o = ((m.reported n).filter o.shows).map .event ++ conclusion o m n := by
  rw [report, events_upTo, halt_upTo, executed_upTo, failures_upTo, machine_upTo, conclusion]
  simp only [List.append_assoc]

theorem frame_upTo (o : Options) (m : Machine) (n : Nat) :
    (upTo o m n).frame o =
      (m.afterTicks n).display.frame (o.foreground.getD Color.white)
        (o.background.getD Color.black) := by
  rw [frame, machine_upTo]

end Progress

/-- The machine that a session runs. -/
def Options.machine (o : Options) (data : List UInt8) : Machine :=
  Setup.machine { rom := data, tracing := o.tracing }

namespace Session

variable {data : List UInt8}

theorem start_of_le (o : Options) (h : data.length ≤ 3584) :
    start o (.ok data) = {
      output := .notice (.loaded data.length o.rom) :: (Progress.play o (o.machine data)).report o
      frame := o.frameOut.map fun path => (path, (Progress.play o (o.machine data)).frame o) } := by
  have hbuild : Setup.build { rom := data, tracing := o.tracing } = .ok (o.machine data) :=
    Setup.build_of_le h
  simp only [start, hbuild]

theorem start_of_gt (o : Options) (h : 3584 < data.length) :
    start o (.ok data) = {
      output := [.notice (.loaded data.length o.rom)]
      failure := some (.unusableRom (.romTooLarge data.length 3584)) } := by
  have hbuild : Setup.build { rom := data, tracing := o.tracing } = _ := Setup.build_of_gt h
  simp only [start, hbuild]

/-- The session of a run of `n` ticks, up to the frame. -/
def upTo (o : Options) (data : List UInt8) (n : Nat) : Session where
  output := .notice (.loaded data.length o.rom) ::
    ((((o.machine data).reported n).filter o.shows).map .event
      ++ Progress.conclusion o (o.machine data) n)
  frame := o.frameOut.map fun path =>
    (path, ((o.machine data).afterTicks n).display.frame (o.foreground.getD Color.white)
      (o.background.getD Color.black))

/-- **A session depends on the run by the number of its ticks.** -/
theorem start_eq_upTo (o : Options) (h : data.length ≤ 3584) :
    start o (.ok data) = upTo o data (o.extent (o.machine data)) := by
  rw [start_of_le o h, Progress.play_eq, Progress.report_upTo, Progress.frame_upTo, upTo]

/-- What is printed of a run of `n` ticks before the picture. -/
def heading (o : Options) (data : List UInt8) (n : Nat) : List Item :=
  .notice (.loaded data.length o.rom) ::
    (((o.machine data).reported n).filter o.shows).map .event
    ++ (((o.machine data).haltAfter o.keepGoing n).toList.map fun f => .notice (.halted n f))
    ++ [.notice (.ran n ((o.machine data).failures n) ((o.machine data).afterTicks n).pc)]

theorem text_notMem_heading (o : Options) (data : List UInt8) (n : Nat) (text : String) :
    .text text ∉ heading o data n := by
  simp [heading]

theorem wroteFrame_notMem_heading (o : Options) (data : List UInt8) (n : Nat) (path : String) :
    .notice (.wroteFrame path) ∉ heading o data n := by
  simp [heading]

theorem output_upTo (o : Options) (data : List UInt8) (n : Nat) :
    (upTo o data n).output =
      heading o data n ++ .text ((o.machine data).afterTicks n).display.text ::
        (if o.dumpState then [.text (((o.machine data).afterTicks n).fullDump ++ "\n")]
          else []) := by
  rw [upTo, Progress.conclusion, heading]
  simp only [List.append_assoc, List.cons_append, List.nil_append]

/-- The frame is that of the machine after the run. -/
theorem frame_start (o : Options) (h : data.length ≤ 3584) :
    (start o (.ok data)).frame = o.frameOut.map fun path =>
      (path, ((o.machine data).afterTicks (o.extent (o.machine data))).display.frame
        (o.foreground.getD Color.white) (o.background.getD Color.black)) := by
  rw [start_eq_upTo o h, upTo]

/-- No frame is written unless one was asked for. -/
theorem frame_start_of_none {o : Options} (h : o.frameOut = none)
    (rom : Except FileFault (List UInt8)) : (start o rom).frame = none := by
  cases rom with
  | error e => rfl
  | ok data =>
    rcases Nat.lt_or_ge 3584 data.length with hgt | hle
    · rw [start_of_gt o hgt]
    · rw [start_of_le o hle, h]
      rfl

/-- What is printed before the frame is written says nothing about it. -/
theorem output_start_frameOut (o : Options) (frameOut : Option String)
    (rom : Except FileFault (List UInt8)) :
    (start { o with frameOut } rom).output = (start o rom).output := by
  cases rom with
  | error e => rfl
  | ok data =>
    rcases Nat.lt_or_ge 3584 data.length with h | h
    · rw [start_of_gt _ h, start_of_gt _ h]
    · rw [start_of_le _ h, start_of_le _ h]
      rfl

end Session

end Chip8.Runner
