import ReleaseMatrix.Workspace
import ReleaseMatrix.Error
import ReleaseMatrix.Target
import ReleaseMatrix.Workspace.Change

namespace ReleaseMatrix

/-- What is waited for after a build, in milliseconds: a delay, then looks at the binary in intervals
until two in a row agree on its size or the time is up. -/
structure Barrier where
  minDelay : Nat
  pollInterval : Nat
  timeout : Nat
deriving DecidableEq, Repr

/-- The milliseconds that have passed at each look since the waiting began. Every time is reached. -/
structure Clock where
  elapsed : Nat → Nat
  lookAfter : Nat → Nat
  le_elapsed : ∀ ms, ms ≤ elapsed (lookAfter ms)

/-- The clock whose looks are `interval` milliseconds apart, or one if that is zero. -/
def Clock.steady (interval : Nat) : Clock where
  elapsed k := k * max interval 1
  lookAfter ms := ms / max interval 1 + 1
  le_elapsed ms := by
    rw [Nat.mul_comm]
    exact Nat.le_of_lt (Nat.lt_mul_div_succ ms (by omega))

/-- What a look at a path shows. Whatever is there has a size, but only some things are regular files. -/
structure Look where
  size? : Option Nat
  isRegular : Bool
deriving DecidableEq, Repr

/-- Whether a look shows something, of the size that the look before showed. -/
def Look.agrees (look : Look) (last : Option Nat) : Bool :=
  look.size?.isSome && look.size? = last

/-- The size that a directory shows. -/
def directorySize : Nat := 4096

def Workspace.look (w : Workspace) (p : Path) : Look :=
  match w.entry? p with
  | some .directory => ⟨some directorySize, false⟩
  | some e => ⟨some (e.content?.getD []).length, e.isFile⟩
  | none => ⟨none, false⟩

namespace Barrier

def default : Barrier :=
  ⟨2000, 200, 10000⟩

/-- The verdict of the looks from number `k` on, and the number of the look that gave it. `last` is the
size at the look before, and `n` bounds the looks to come. -/
def verdictFrom (b : Barrier) (clock : Clock) (view : Nat → Look) : Nat → Nat → Option Nat → Bool × Nat
  | 0, k, last => ((view k).agrees last || (view k).isRegular, k)
  | n + 1, k, last =>
    if (view k).agrees last then (true, k)
    else if b.timeout ≤ clock.elapsed k then ((view k).isRegular, k)
    else verdictFrom b clock view n (k + 1) (view k).size?

/-- Whether what the looks show is there, and the number of the last look. -/
def verdict (b : Barrier) (clock : Clock) (view : Nat → Look) : Bool × Nat :=
  b.verdictFrom clock view (clock.lookAfter b.timeout) 0 none

/-- Waits for a path in files that do not change meanwhile. -/
def wait (b : Barrier) (w : Workspace) (p : Path) : Bool :=
  (b.verdict (.steady b.pollInterval) fun _ => w.look p).1

end Barrier

end ReleaseMatrix

namespace ReleaseMatrix.Scratch

/-- Whether `p` is the entry `name` directly inside `root`. -/
def isChild (root p : Path) (name : String) : Bool :=
  p.parent?.any (fun parent => decide (parent.Same root)) && p.fileName? == some name

/-- The directory below `root` that a target is built in. Only an id that names an entry directly inside
`root` has one. -/
def directory (root : Path) (t : Target) : Except BuildError Path :=
  let p := root.join t.id
  if isChild root p t.id then .ok p
  else .error (.scratch p ("'" ++ t.id ++ "' does not name a directory inside " ++ root.text))

/-- Makes the directory anew, so that nothing from before is left in it. -/
def reset (p : Path) : TaskM BuildError Unit :=
  TaskM.describe (.scratch p ·.message) do
    if (← get).exists? p then FileM.removeTree p
    FileM.makeDirectories p

/-- Where the toolchain leaves the binary of a target. The name without the target's suffix will do where
the full name is missing. The full name is looked for first, and the other one in the files that are there
a moment later. -/
def binaryBetween (first later : Workspace) (installDir : Path) (product : String) (t : Target) : Path :=
  let binDir := installDir.join "bin"
  let full := binDir.join (product ++ t.exeSuffix)
  let bare := binDir.join product
  if t.exeSuffix ≠ "" && !first.exists? full && later.exists? bare then bare else full

/-- Where the toolchain leaves the binary of a target, in files that do not change meanwhile. -/
def binary (w : Workspace) (installDir : Path) (product : String) (t : Target) : Path :=
  binaryBetween w w installDir product t

end ReleaseMatrix.Scratch

namespace ReleaseMatrix

/-- A toolchain. It reports whether its run succeeded, and may go on writing after it: `filesAt r k`
gives the files at the `k`-th moment after the run. -/
structure Compiler where
  compile : BuildRequest → WorkM BuildError Unit
  filesAt : BuildRequest → Nat → FileTree → FileTree

/-- A compiler that has written everything when its run ends. -/
def Compiler.prompt (compile : BuildRequest → WorkM BuildError Unit) : Compiler :=
  ⟨compile, fun _ _ files => files⟩

structure Builder where
  compiler : Compiler
  product : String
  restrictedTarget : String
  barrier : Barrier
  clock : Clock

namespace Builder

def profile (b : Builder) (t : Target) : Profile :=
  .forTarget t b.restrictedTarget

/-- The workspace at a moment after the run of the compiler, which left `w`. -/
def seen (b : Builder) (r : BuildRequest) (w : Workspace) (moment : Nat) : Workspace :=
  { w with files := b.compiler.filesAt r moment w.files }

/-- The name that is waited for. It is chosen by the files of the first two moments. -/
def chosen (b : Builder) (r : BuildRequest) (w : Workspace) : Path :=
  Scratch.binaryBetween (b.seen r w 0) (b.seen r w 1) r.installDir b.product r.target

/-- What the looks show of a path. Each asks for the size at one moment and for the kind at the next. -/
def view (b : Builder) (r : BuildRequest) (w : Workspace) (p : Path) (k : Nat) : Look :=
  ⟨((b.seen r w (2 * k + 2)).look p).size?, ((b.seen r w (2 * k + 3)).look p).isRegular⟩

/-- Waits for the binary of a build that has ended, and says where it is. -/
def waitForBinary (b : Builder) (r : BuildRequest) : WorkM BuildError Path := do
  let w ← get
  let binary := b.chosen r w
  let (settled, last) := b.barrier.verdict b.clock (b.view r w binary)
  set (b.seen r w (2 * last + 3))
  if settled then pure binary else WorkM.fail (.binaryMissing r.target.id binary)

def compileAndWait (b : Builder) (r : BuildRequest) : WorkM BuildError Path := do
  modify (·.record (.compiled r))
  b.compiler.compile r
  b.waitForBinary r

/-- Builds a target with a given profile in its own directory below `root`, and says where its binary is. -/
def buildWith (b : Builder) (t : Target) (profile : Profile) (root : Path) : WorkM BuildError Path := do
  let scratch ← WorkM.ofTask (MonadExcept.ofExcept (Scratch.directory root t))
  WorkM.ofTask (Scratch.reset scratch)
  b.compileAndWait ⟨t, profile, scratch⟩

def build (b : Builder) (t : Target) (root : Path) : WorkM BuildError Path :=
  b.buildWith t (b.profile t) root

end Builder

end ReleaseMatrix
