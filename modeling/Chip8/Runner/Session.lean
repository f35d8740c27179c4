import Chip8.Display.Picture
import Chip8.Machine.Run
import Chip8.Machine.Setup
import Chip8.Runner.Options
import Chip8.Runner.Report

/-! # Sessions

A session loads a program, runs it and prints the result, and then has a frame to write if one was
asked for.

* `Progress`: how far a run has come; `play o m` is the progress of the whole run.
* `start`: the session up to the frame, from what reading the program gave.
* `finish`: the session after that, from what writing the frame gave. -/

namespace Chip8.Runner

structure Progress where
  machine : Machine
  executed : Nat := 0
  failures : Nat := 0
  /-- What the machine reported, as far as it is shown. -/
  events : Array Event := #[]
  /-- The fault that ended the run early. -/
  halt : Option Fault := none

def Options.shows (o : Options) (e : Event) : Bool :=
  e.level.rank ≤ o.verbosity.rank

namespace Progress

def add (o : Options) (p : Progress) (t : Tick) : Progress where
  machine := t.machine
  executed := p.executed + 1
  failures := if t.fault.isSome then p.failures + 1 else p.failures
  events := p.events ++ t.events.filter o.shows
  halt := if t.ends o.keepGoing then t.fault else none

/-- **The run that the options ask for.** -/
def play (o : Options) (m : Machine) : Progress :=
  m.foldTicks (add o) o.keepGoing o.cycles.toNat { machine := m }

/-- What is printed of a run. -/
def report (o : Options) (p : Progress) : List Item :=
  p.events.toList.map .event
  ++ (p.halt.toList.map fun f => .notice (.halted p.executed f))
  ++ [.notice (.ran p.executed p.failures p.machine.pc), .text p.machine.display.text]
  ++ (if o.dumpState then [.text (p.machine.fullDump ++ "\n")] else [])

/-- The last frame in the colours that the options ask for. -/
def frame (o : Options) (p : Progress) : List UInt8 :=
  p.machine.display.frame (o.foreground.getD Color.white) (o.background.getD Color.black)

end Progress

structure Session where
  output : List Item
  failure : Option Failure := none
  /-- The frame to write, with its path. -/
  frame : Option (String × List UInt8) := none
  deriving DecidableEq

namespace Session

def start (o : Options) (rom : Except FileFault (List UInt8)) : Session :=
  match rom with
  | .error e => { output := [], failure := some (.unreadableRom o.rom e) }
  | .ok data =>
    let loaded := Item.notice (.loaded data.length o.rom)
    let setup : Setup := { rom := data, tracing := o.tracing }
    match setup.build with
    | .error f => { output := [loaded], failure := some (.unusableRom f) }
    | .ok m =>
      let p := Progress.play o m
      { output := loaded :: p.report o, frame := o.frameOut.map fun path => (path, p.frame o) }

def finish (s : Session) (written : Except FileFault Unit) : Session :=
  match s.frame, written with
  | none, _ => s
  | some (path, _), .ok () => { s with output := s.output ++ [.notice (.wroteFrame path)] }
  | some (path, _), .error e => { s with failure := some (.unwritableFrame path e) }

/-- What is printed, with the lines of the log as `line` sets them. -/
def stdout (s : Session) (line : Layout := Layout.columns) : String :=
  String.join (s.output.map (Item.printed line))

def exitCode (s : Session) : Nat :=
  if s.failure.isSome then 1 else 0

end Session

end Chip8.Runner
