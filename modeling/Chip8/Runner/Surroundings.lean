import Chip8.Runner.FileFault

/-! # Around the folder

The directories outside of the folder that the runner works in, as a small system has them. Files
there keep nothing; of most only the names count.

* `Directory`: a directory, by the names on the way to it; `above`: the one it lies in.
* `Device`: a file; `Entry`: what a name in a directory stands for.
* `Directory.entries`: the names in a directory. -/

namespace Chip8.Runner

/-- The names on the way from the root, the last one first. -/
structure Directory where
  names : List String
  deriving DecidableEq

namespace Directory

def root : Directory := ⟨[]⟩

def inside (d : Directory) (name : String) : Directory := ⟨name :: d.names⟩

/-- The root lies in itself. -/
def above (d : Directory) : Directory := ⟨d.names.tail⟩

/-- The folder is one for temporary files. -/
def aboveFolder : Directory := root.inside "tmp"

def top (d : Directory) : Option String := d.names.getLast?

/-- Where processes and settings look like files, no name is too long. -/
def LimitsNames (d : Directory) : Prop := d.top ≠ some "proc" ∧ d.top ≠ some "sys"

instance (d : Directory) : Decidable d.LimitsNames := by
  unfold LimitsNames; infer_instance

/-- Why a new file cannot be made. -/
def refusal? (d : Directory) : Option FileFault :=
  if d.names = ["pts", "dev"] then some (.other 13 "Permission denied")
  else match d.top with
  | some "proc" => some .notFound
  | some "sys" => some .readOnly
  | _ => none

end Directory

structure Device where
  read : Except FileFault (List UInt8) := .ok []
  write : Except FileFault Unit := .ok ()
  /-- What is written comes out on the standard output of the runner. -/
  isStdout : Bool := false

inductive Entry where
  | directory
  | device (d : Device)
  /-- A file that the process has open: a link straight to the device. -/
  | descriptor (d : Device)
  /-- The link of the process to the folder. -/
  | workingFolder
  /-- A link with the names on its way, from the root or from the directory that it is in. -/
  | link (fromRoot : Bool) (way : List String)

namespace Surroundings

def directories (names : List String) : List (String × Entry) :=
  names.map (·, .directory)

def devices (names : List String) : List (String × Entry) :=
  names.map (·, .device {})

/-- The number of the process is not known beforehand. A slash stands for it, which is in no name. -/
def ownNumber : String := "/"

/-! ## Devices -/

/-- Without an end there is no room for what is read. -/
def endless : Device := { read := .error (.other 12 "Cannot allocate memory") }

def full : Device := { endless with write := .error .noSpace }

def terminal : Device where
  read := .error (.other 6 "No such device or address")
  write := .error (.other 6 "No such device or address")

def deviceFiles : List (String × Entry) :=
  [("null", .device {}), ("full", .device full), ("zero", .device endless),
    ("random", .device endless), ("urandom", .device endless), ("tty", .device terminal),
    ("stdin", .link true ["proc", "self", "fd", "0"]),
    ("stdout", .link true ["proc", "self", "fd", "1"]),
    ("stderr", .link true ["proc", "self", "fd", "2"]),
    ("fd", .link true ["proc", "self", "fd"]), ("core", .link true ["proc", "kcore"])]
  ++ directories ["mqueue", "pts", "shm"]

/-! ## Processes -/

def descriptors : List (String × Entry) :=
  [("0", .descriptor {}), ("1", .descriptor { isStdout := true }), ("2", .descriptor {})]

/-- The name that the process goes by, on a line. -/
def processName : Device := { read := .ok "chip-8-runner\n".toUTF8.toList }

/-- Nothing lies at the address zero. -/
def processMemory : Device where
  read := .error (.other 5 "Input/output error")
  write := .error (.other 5 "Input/output error")

/-- The program cannot be written while it runs. -/
def program : Device := { write := .error (.other 26 "Text file busy") }

/-- A space of names that the process lives in has nothing to read. -/
def nameSpace : Device := { read := .error (.other 22 "Invalid argument") }

def nameSpaces : List (String × Entry) :=
  ["cgroup", "ipc", "mnt", "net", "pid", "pid_for_children", "time", "time_for_children", "user",
    "uts"].map (·, .descriptor nameSpace)

def processFiles : List (String × Entry) :=
  [("comm", .device processName), ("mem", .device processMemory), ("exe", .descriptor program),
    ("root", .link true [])]
  ++ directories ["attr", "fd", "fdinfo", "map_files", "net", "ns"]
  ++ devices ["auxv", "cgroup", "cmdline", "environ", "io", "limits", "maps", "mountinfo", "mounts",
    "mountstats", "oom_score_adj", "smaps", "stat", "statm", "status"]

def systemFiles : List (String × Entry) :=
  [("self", .link false [ownNumber]), ("thread-self", .link false [ownNumber, "task", ownNumber]),
    ("mounts", .link false ["self", "mounts"]), ("net", .link false ["self", "net"])]
  ++ directories ["1", ownNumber, "bus", "driver", "fs", "irq", "sys", "sysvipc", "tty"]
  ++ devices ["cmdline", "cpuinfo", "devices", "filesystems", "kcore", "loadavg", "meminfo",
    "modules", "stat", "swaps", "uptime", "version", "vmstat"]

/-! ## Programs and settings -/

def rootFiles : List (String × Entry) :=
  [("bin", .link false ["usr", "bin"]), ("sbin", .link false ["usr", "sbin"]),
    ("lib", .link false ["usr", "lib"]), ("lib64", .link false ["usr", "lib64"])]
  ++ directories ["boot", "dev", "etc", "home", "media", "mnt", "opt", "proc", "root", "run", "srv",
    "sys", "tmp", "usr", "var"]

def settings : List (String × Entry) :=
  [("mtab", .link true ["proc", "mounts"]),
    ("os-release", .link false ["..", "usr", "lib", "os-release"])]
  ++ directories ["alternatives", "default", "init.d", "opt", "profile.d", "security", "skel", "ssl"]
  ++ devices ["fstab", "group", "hostname", "hosts", "passwd", "profile", "resolv.conf", "shadow",
    "shells"]

def programs : List (String × Entry) :=
  ("sh", .link false ["dash"])
  :: devices ["bash", "cat", "cp", "dash", "echo", "env", "false", "ls", "mv", "rm", "sleep", "true"]

end Surroundings

open Surroundings in
def Directory.entries (d : Directory) : List (String × Entry) :=
  match d.names with
  | [] => rootFiles
  | ["dev"] => deviceFiles
  | ["etc"] => settings
  | ["run"] => directories ["lock"]
  | ["sys"] =>
    directories ["block", "bus", "class", "dev", "devices", "firmware", "fs", "kernel", "module",
      "power"]
  | ["usr"] =>
    directories ["bin", "games", "include", "lib", "lib64", "libexec", "local", "sbin", "share", "src"]
  | ["bin", "usr"] => programs
  | ["lib", "usr"] => devices ["os-release"]
  | ["local", "usr"] =>
    directories ["bin", "etc", "games", "include", "lib", "sbin", "share", "src"]
  | ["var"] =>
    [("run", .link true ["run"]), ("lock", .link true ["run", "lock"])]
    ++ directories ["backups", "cache", "lib", "local", "log", "mail", "opt", "spool", "tmp"]
  | ["proc"] => systemFiles
  | ["sys", "proc"] => directories ["abi", "debug", "dev", "fs", "kernel", "net", "user", "vm"]
  | ["1", "proc"] => ("cwd", .link true []) :: processFiles ++ directories ["task"]
  | [number, "proc"] =>
    if number = ownNumber then ("cwd", .workingFolder) :: processFiles ++ directories ["task"] else []
  | ["task", number, "proc"] => if number = ownNumber then directories [ownNumber] else []
  | [_, "task", number, "proc"] =>
    if number = ownNumber then ("cwd", .workingFolder) :: processFiles else []
  | ["fd", number, "proc"] | ["fd", _, "task", number, "proc"] =>
    if number = ownNumber then descriptors else []
  | ["ns", number, "proc"] | ["ns", _, "task", number, "proc"] =>
    if number = ownNumber then nameSpaces else []
  | _ => []

end Chip8.Runner
