import ReleaseMatrix.Shell.Stream

namespace ReleaseMatrix.Shell

namespace Signal

/-- The names of signals and what is told about a process that one of them ended, from the first one on. -/
def table : List (String × String) :=
  [("HUP", "Hangup"), ("INT", "Interrupt"), ("QUIT", "Quit"), ("ILL", "Illegal instruction"),
    ("TRAP", "Trace/breakpoint trap"), ("ABRT", "Aborted"), ("BUS", "Bus error"),
    ("FPE", "Floating point exception"), ("KILL", "Killed"), ("USR1", "User defined signal 1"),
    ("SEGV", "Segmentation fault"), ("USR2", "User defined signal 2"), ("PIPE", "Broken pipe"),
    ("ALRM", "Alarm clock"), ("TERM", "Terminated"), ("STKFLT", "Stack fault"), ("CHLD", "Child exited"),
    ("CONT", "Continued"), ("STOP", "Stopped (signal)"), ("TSTP", "Stopped"),
    ("TTIN", "Stopped (tty input)"), ("TTOU", "Stopped (tty output)"), ("URG", "Urgent I/O condition"),
    ("XCPU", "CPU time limit exceeded"), ("XFSZ", "File size limit exceeded"),
    ("VTALRM", "Virtual timer expired"), ("PROF", "Profiling timer expired"), ("WINCH", "Window changed"),
    ("IO", "I/O possible"), ("PWR", "Power failure"), ("SYS", "Bad system call")]

/-- How many signals there are, the unnamed ones included. -/
def limit : Nat := 65

/-- The number of the trap that runs before commands. -/
def step : Nat := 65

/-- The number of the trap for commands that fail. -/
def failure : Nat := 66

/-- The number of the trap for the end of functions and of files that are read. -/
def leaving : Nat := 67

/-- The name of a signal. Zero is the end of a script. -/
def name (signal : Nat) : String :=
  match signal with
  | 0 => "EXIT"
  | n + 1 =>
    match table[n]? with
    | some (name, _) => name
    | none => toString signal

/-- The signal that a text names, or tells as a number. -/
def ofText? (text : Octets) : Option Nat :=
  if !text.isEmpty && text.toList.all Char.isDigit then text.toNat?.filter (· < limit)
  else
    let wanted := text.toUpper
    if wanted = "EXIT" then some 0
    else (table.findIdx? (·.1 == wanted)).map (· + 1)

def isNumber (text : Octets) : Bool :=
  !text.isEmpty && text.toList.all Char.isDigit && (text.toNat?.filter (· < limit)).isSome

/-- Signals that do nothing unless they are expected: they tell of children, or stop and resume processes. -/
def isHarmless (signal : Nat) : Bool :=
  signal ∈ [0, 17, 18, 19, 20, 21, 22, 23, 28]

/-- The signal that nothing keeps from ending a process. -/
def kill : Nat := 9

def interrupt : Nat := 2

def terminate : Nat := 15

/-- What is told about a child that a signal ended. Interrupts and broken pipes are not told. -/
def obituary? (signal : Nat) : Option String :=
  if signal = 2 || signal = 13 then none
  else (table[signal - 1]?).map (·.2)

end Signal

namespace ShellM

/-- Takes a signal: it is ignored, it waits for its trap, or it ends the process. -/
def receive (signal : Nat) : ShellM Unit := do
  if signal = Signal.kill then throw (.gone (.killed signal))
  match (← self).trap? signal with
  | some "" => pure ()
  | some _ => modifySelf fun p => { p with arrived := p.arrived.filter (· ≠ signal) ++ [signal] }
  | none => if !Signal.isHarmless signal then throw (.gone (.killed signal))

/-- Takes the signals that others sent to this process. -/
def receiveMail : ShellM Unit := do
  let s ← get
  let (mine, others) := s.world.mail.partition (·.1 == s.self.id)
  set { s with world.mail := others }
  mine.forM fun m => receive m.2

/-- Sends a signal to a process, and says whether there is such a process. A job that is not run yet ends. -/
def send (signal : Nat) (receiver : Nat) : ShellM Bool := do
  let s ← get
  if receiver = s.self.id then
    receive signal
    pure true
  else match s.world.waiting.find? (·.process.id == receiver) with
    | some job =>
      let isIgnored := Signal.isHarmless signal || (job.process.trap? signal).isSome
      if signal = Signal.kill || !isIgnored then
        let waiting := s.world.waiting.filter (·.process.id != receiver)
        let endings := (receiver, .killed signal) :: s.world.endings
        set { s with world.waiting := waiting, world.endings := endings }
      pure true
    | none =>
      if s.self.jobs.contains receiver then pure true
      else if s.self.ancestors.contains receiver then
        set { s with world.mail := s.world.mail ++ [(receiver, signal)] }
        pure true
      else pure false

/-- Tells how a child ended that a signal ended, and keeps its exit status. -/
def noteEnding (e : Ending) : ShellM Unit := do
  match e with
  | .killed signal =>
    match Signal.obituary? signal with
    | some text =>
      let _ ← write 2 (text ++ "\n")
    | none => pure ()
  | .exited _ => pure ()
  setStatus e.status

end ShellM

end ReleaseMatrix.Shell
