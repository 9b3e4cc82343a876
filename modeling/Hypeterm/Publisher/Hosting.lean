import Hypeterm.Publisher.Session
import Hypeterm.Http.CreateTerminal
import Hypeterm.Library.Tasks

/-! Terminals that a subscriber asked this machine to open.  Every request has a task of
its own on a runtime with several threads, so that between any two reads and writes of
what the tasks share others may act. -/
namespace Hypeterm.Publisher

open Library

/-- The owner's policy, as far as it decides. -/
structure RemoteOpenConfig where
  enabled : Bool
  maxTerminals : Nat

def remoteOpenBurst : Nat := 3

def remoteOpenWindow : Nat := 60000

def hostingTime : Nat := 30000

def acceptableLabel (label : String) : Bool :=
  !label.isEmpty && label.utf8ByteSize ≤ 200 && !label.toList.all Http.isWhitespace &&
    !label.toList.any fun c => Http.isControl c || (0x80 ≤ c.toNat && c.toNat ≤ 0x9F)

structure HostedShell where
  label : String
  requestId : String
  cols : Nat
  rows : Nat

def hostedShell (request : OpenRequest) : HostedShell where
  label := request.label.getD "phone"
  requestId := request.requestId
  cols := min (max (request.cols.getD 80) 1) 65535
  rows := min (max (request.rows.getD 24) 1) 65535

inductive Child where
  | starting
  | attached
  | ended
  deriving DecidableEq

/-- Where a task stands: what it has still to pass, and from the spawn on its child. -/
inductive HostPhase where
  | requested
  | permitted
  | counted
  | admitted
  | spawning (child : Child)
  | hosting (child : Child) (due : Nat)
  | settled (child : Child)
  | declined (reason : String)
  deriving DecidableEq

structure HostTask where
  request : OpenRequest
  phase : HostPhase

/-- What the tasks and the clients share.  The last three fields are history: the shells
that were started, and with how many terminals, the new one among them, a start was made
and a request refused as one too many. -/
structure Host where
  remote : RemoteOpenConfig
  claimed : List String
  hosting : Nat
  lastSpawns : List Nat
  now : Nat
  tasks : Nat → Option HostTask
  nextTask : Nat
  shells : List HostedShell
  startedWith : List Nat
  refusedWith : List Nat

/-- `succeeds` is how the spawn goes.  A local client claims and releases a `local_ref`, and
so does a child, which is attached once it has. -/
inductive HostAction where
  | request (request : OpenRequest)
  | proceed (id : Nat) (succeeds : Bool)
  | attach (id : Nat) (localRef : String)
  | exit (id : Nat)
  | claim (localRef : String)
  | release (localRef : String)
  | tick (elapsed : Nat)

def HostPhase.child : HostPhase → Option Child
  | .spawning child | .hosting child _ | .settled child => some child
  | _ => none

def HostPhase.setChild (phase : HostPhase) (child : Child) : HostPhase :=
  match phase with
  | .spawning _ => .spawning child
  | .hosting _ due => .hosting child due
  | .settled _ => .settled child
  | other => other

def HostTask.isStarting (task : HostTask) : Bool := task.phase.child = some .starting

/-- It is between the test of the limit and the increment. -/
def HostTask.isAdmitted (task : HostTask) : Bool := task.phase = .admitted

/-- Its share of the counter has not been given back. -/
def HostTask.isCounted (task : HostTask) : Bool :=
  match task.phase with
  | .spawning _ | .hosting _ _ => true
  | _ => false

namespace Host

def initial (remote : RemoteOpenConfig) : Host :=
  ⟨remote, [], 0, [], 0, fun _ => none, 0, [], [], []⟩

def count (host : Host) (test : HostTask → Bool) : Nat := countTasks test host.tasks host.nextTask

def terminals (host : Host) : Nat := host.claimed.length + host.count HostTask.isStarting

def setPhase (host : Host) (id : Nat) (task : HostTask) (phase : HostPhase) : Host :=
  { host with tasks := Function.update host.tasks id (some { task with phase }) }

def checkSwitch (host : Host) (id : Nat) (task : HostTask) : Host :=
  if host.remote.enabled then host.setPhase id task .permitted
  else host.setPhase id task (.declined "not_permitted")

def checkRate (host : Host) (id : Nat) (task : HostTask) : Host :=
  let recent := host.lastSpawns.filter fun spawned => host.now - spawned < remoteOpenWindow
  if remoteOpenBurst ≤ recent.length then
    ({ host with lastSpawns := recent } : Host).setPhase id task (.declined "busy")
  else ({ host with lastSpawns := recent ++ [host.now] } : Host).setPhase id task .counted

def checkLimit (host : Host) (id : Nat) (task : HostTask) : Host :=
  let live := host.claimed.length + host.hosting
  if host.remote.maxTerminals ≤ live then
    ({ host with refusedWith := host.refusedWith ++ [host.terminals] } : Host).setPhase id task
      (.declined "limit_reached")
  else host.setPhase id task .admitted

/-- The label is validated again, and the counter is raised before the spawn. -/
def begin (host : Host) (id : Nat) (task : HostTask) : Host :=
  if acceptableLabel (task.request.label.getD "phone") then
    ({ host with
      hosting := host.hosting + 1
      shells := host.shells ++ [hostedShell task.request]
      startedWith := host.startedWith ++ [host.terminals + 1] } : Host).setPhase id task
        (.spawning .starting)
  else host.setPhase id task (.declined "not_permitted")

/-- The spawn returns.  A timer gives the share of the counter back. -/
def spawned (host : Host) (id : Nat) (task : HostTask) (child : Child) (succeeds : Bool) : Host :=
  if succeeds then host.setPhase id task (.hosting child (host.now + hostingTime))
  else
    ({ host with hosting := host.hosting - 1 } : Host).setPhase id task (.declined "internal_error")

def proceed (host : Host) (id : Nat) (task : HostTask) (succeeds : Bool) : Option Host :=
  match task.phase with
  | .requested => some (host.checkSwitch id task)
  | .permitted => some (host.checkRate id task)
  | .counted => some (host.checkLimit id task)
  | .admitted => some (host.begin id task)
  | .spawning child => some (host.spawned id task child succeeds)
  | .hosting child due =>
      if due ≤ host.now then
        some (({ host with hosting := host.hosting - 1 } : Host).setPhase id task (.settled child))
      else none
  | .settled _ | .declined _ => none

def claim (host : Host) (localRef : String) : Option Host :=
  if localRef ∈ host.claimed then none
  else some { host with claimed := host.claimed ++ [localRef] }

def step (host : Host) : HostAction → Option Host
  | .request request =>
      some { host with
        tasks := Function.update host.tasks host.nextTask (some ⟨request, .requested⟩)
        nextTask := host.nextTask + 1 }
  | .proceed id succeeds => (host.tasks id).bind fun task => host.proceed id task succeeds
  | .attach id localRef =>
      (host.tasks id).bind fun task =>
        if task.isStarting then
          (host.claim localRef).map fun claimed =>
            claimed.setPhase id task (task.phase.setChild .attached)
        else none
  | .exit id =>
      (host.tasks id).bind fun task =>
        if task.phase.child.isSome then some (host.setPhase id task (task.phase.setChild .ended))
        else none
  | .claim localRef => host.claim localRef
  | .release localRef => some { host with claimed := host.claimed.erase localRef }
  | .tick elapsed => some { host with now := host.now + elapsed }

end Host

end Hypeterm.Publisher
