import SriovConfig.Rules
import Mathlib.Logic.Function.Basic

/-! The system `sriov_config.py` runs against: the actions it takes and the exceptions they
raise, what it reads from sysfs and from the `common` helpers, and the state it changes. The
VF counts of the PFs are the kernel's: only `set_numvfs` writes them, and every other function
runs in `SysM`, which reads them and cannot change them. -/
set_option autoImplicit false

namespace EStateM.Result

variable {ε σ α β : Type}

def state : EStateM.Result ε σ α → σ
  | .ok _ s => s
  | .error _ s => s

def raised : EStateM.Result ε σ α → Bool
  | .ok _ _ => false
  | .error _ _ => true

def andThen (r : EStateM.Result ε σ α) (f : α → σ → EStateM.Result ε σ β) : EStateM.Result ε σ β :=
  match r with
  | .ok a s => f a s
  | .error e s => .error e s

def handle (r : EStateM.Result ε σ α) (h : ε → σ → EStateM.Result ε σ α) : EStateM.Result ε σ α :=
  match r with
  | .ok a s => .ok a s
  | .error e s => h e s

def mapValue (f : α → β) (r : EStateM.Result ε σ α) : EStateM.Result ε σ β :=
  r.andThen fun a s => .ok (f a) s

@[simp] theorem andThen_ok (a : α) (s : σ) (f : α → σ → EStateM.Result ε σ β) :
    (EStateM.Result.ok a s : EStateM.Result ε σ α).andThen f = f a s := rfl

@[simp] theorem andThen_error (e : ε) (s : σ) (f : α → σ → EStateM.Result ε σ β) :
    (EStateM.Result.error e s : EStateM.Result ε σ α).andThen f = .error e s := rfl

@[simp] theorem handle_ok (a : α) (s : σ) (h : ε → σ → EStateM.Result ε σ α) :
    (EStateM.Result.ok a s : EStateM.Result ε σ α).handle h = .ok a s := rfl

@[simp] theorem handle_error (e : ε) (s : σ) (h : ε → σ → EStateM.Result ε σ α) :
    (EStateM.Result.error e s : EStateM.Result ε σ α).handle h = h e s := rfl

@[simp] theorem mapValue_eq (f : α → β) (r : EStateM.Result ε σ α) :
    r.mapValue f = r.andThen fun a s => .ok (f a) s := rfl

@[simp] theorem state_ok (a : α) (s : σ) : (EStateM.Result.ok a s : EStateM.Result ε σ α).state = s :=
  rfl

@[simp] theorem state_error (e : ε) (s : σ) :
    (EStateM.Result.error e s : EStateM.Result ε σ α).state = s := rfl

@[simp] theorem raised_ok (a : α) (s : σ) : (EStateM.Result.ok a s : EStateM.Result ε σ α).raised = false :=
  rfl

@[simp] theorem raised_error (e : ε) (s : σ) :
    (EStateM.Result.error e s : EStateM.Result ε σ α).raised = true := rfl

/-- A postcondition on a run: `Q` when it returns, `E` when it raises. -/
def Holds (r : EStateM.Result ε σ α) (Q : α → σ → Prop) (E : ε → σ → Prop) : Prop :=
  match r with
  | .ok a s => Q a s
  | .error e s => E e s

@[simp] theorem holds_ok (a : α) (s : σ) (Q : α → σ → Prop) (E : ε → σ → Prop) :
    (EStateM.Result.ok a s : EStateM.Result ε σ α).Holds Q E ↔ Q a s := Iff.rfl

@[simp] theorem holds_error (e : ε) (s : σ) (Q : α → σ → Prop) (E : ε → σ → Prop) :
    (EStateM.Result.error e s : EStateM.Result ε σ α).Holds Q E ↔ E e s := Iff.rfl

theorem holds_andThen (r : EStateM.Result ε σ α) (f : α → σ → EStateM.Result ε σ β)
    (Q : β → σ → Prop) (E : ε → σ → Prop) :
    (r.andThen f).Holds Q E ↔ r.Holds (fun a s => (f a s).Holds Q E) E := by
  cases r <;> rfl

theorem Holds.mono {r : EStateM.Result ε σ α} {Q Q' : α → σ → Prop} {E E' : ε → σ → Prop}
    (h : r.Holds Q E) (hQ : ∀ a s, Q a s → Q' a s) (hE : ∀ e s, E e s → E' e s) :
    r.Holds Q' E' := by
  cases r
  · exact hQ _ _ h
  · exact hE _ _ h

def mapState (f : σ → σ) : EStateM.Result ε σ α → EStateM.Result ε σ α
  | .ok a s => .ok a (f s)
  | .error e s => .error e (f s)

@[simp] theorem state_mapState (f : σ → σ) (r : EStateM.Result ε σ α) :
    (r.mapState f).state = f r.state := by
  cases r <;> rfl

theorem holds_mapState (f : σ → σ) (r : EStateM.Result ε σ α) (Q : α → σ → Prop) (E : ε → σ → Prop) :
    (r.mapState f).Holds Q E ↔ r.Holds (fun a s => Q a (f s)) (fun e s => E e (f s)) := by
  cases r <;> rfl

instance (r : EStateM.Result ε σ α) (Q : α → σ → Prop) (E : ε → σ → Prop)
    [∀ a s, Decidable (Q a s)] [∀ e s, Decidable (E e s)] : Decidable (r.Holds Q E) :=
  match r with
  | .ok a s => inferInstanceAs (Decidable (Q a s))
  | .error e s => inferInstanceAs (Decidable (E e s))

end EStateM.Result

namespace SriovConfig.System
open PyText PyRe Rules

/-- A PF entry of the sriov map (`device_type: pf`); `None` fields are the keys left out. -/
structure PfItem where
  name : List Char
  numvfs : Int
  promisc : Option (List Char)
  linkMode : Option (List Char)
  vdpa : Bool
  steeringMode : Option (List Char)
deriving DecidableEq, Repr

/-- A VF entry of the sriov map (`device_type: vf`); `device` is `item['device']['name']`. -/
structure VfItem where
  name : List Char
  device : List Char
  vfid : Int
  macaddr : Option (List Char)
  vlanId : Option Int
  qos : Option Int
  maxTxRate : Option Int
  minTxRate : Option Int
  spoofcheck : Option (List Char)
  state : Option (List Char)
  trust : Option (List Char)
  promisc : Option (List Char)
  driver : Option (List Char)
  pciAddress : List Char
deriving DecidableEq, Repr

/-- An entry of `common.get_sriov_map()`. -/
inductive SriovItem where
  | pf (item : PfItem)
  | vf (item : VfItem)
deriving DecidableEq, Repr

/-- What the run does outside the process, in order. -/
inductive Effect where
  | execute (argv : List (List Char))
  | readNumvfs (ifname : List Char)
  | writeNumvfs (ifname : List Char) (numvfs : Int)
  | monitorStart
  | monitorStop
  | queueGet
  | writeFile (path content : List Char)
  | appendFile (path content : List Char)
  | removeFile (path : List Char)
  | chmod (path : List Char) (mode : Nat)
  | sleep (seconds : Nat)
  | loadKmods (mods : List (List Char))
  | restorecon (path : List Char)
  | setDriverctlOverride (pciAddress driver : List Char)
  | updateSriovBindPcisMap (driver : List Char) (pcis : List (List Char))
  | configureSriovBindService
  | bindVfs (driver : List Char) (pcis : List (List Char))
deriving DecidableEq, Repr

/-- The exceptions the run raises. `sriovNumvfs msg io` is `SRIOVNumvfsException(msg)`, where an
`IOError` on the path `io` is formatted after `msg`; `helper f` is raised inside `common.f` or
`sriov_bind_config.f`. -/
inductive PyExc where
  | sriovNumvfs (msg : List Char) (io : Option (List Char))
  | processExecution (argv : List (List Char))
  | os (path : List Char)
  | runtime (msg : List Char)
  | attribute
  | json
  | value
  | unbound (var : List Char)
  | helper (fn : List Char)
deriving DecidableEq, Repr

/-- The environment: the sriov map, the `common` helpers the file calls, the kernel's answers
and which actions fail. Every answer may depend on the actions taken before it. -/
structure Env where
  uni : UnicodeDb
  sriovMap : List SriovItem
  devPath : List Char → List Char → List Char
  isMellanox : List Char → Bool
  /-- `common.interface_mac`; `none` when it raises, the netdev's address being unreadable. -/
  interfaceMac : List Char → Option (List Char)
  fails : List Effect → Effect → Bool
  output : List Effect → List (List Char) → List Char
  vdpaDevices : List Char → Option (List (List Char))
  sysfsData : List Effect → List Char → List Char
  sysfsExists : List Effect → List Char → Bool
  sysfsIsDir : List Effect → List Char → Bool
  listdir : List Effect → List Char → Option (List (List Char))
  udevEvents : List Effect → Effect → List (List Char)
  created : List Char → Int → Int
  /-- The file of the handler `common.configure_logger(log_file=True)` adds. -/
  logFile : List Char
  /-- The records the logger writes there for the actions taken, formatted with their times, at
  the level `common.logger_level(verbose, debug)` sets. -/
  logText : Bool → Bool → List Effect → List Char
  /-- The regular files a helper call of `common` or `sriov_bind_config` writes. -/
  helperFiles : Effect → List (List Char)
  /-- What the helper call leaves in one of them, after the actions taken and from its text
  before the call. -/
  helperData : List Effect → Effect → List Char → Option (List Char) → Option (List Char)
  /-- The log and the helpers write nothing under `/etc/udev/`, where the file's own rules are. -/
  writes_outside_udev : ∀ path, (path = logFile ∨ ∃ e, path ∈ helperFiles e) →
    ¬ "/etc/udev/".toList <+: path

/-- The environment where every action succeeds, no event arrives, sysfs is empty, the helpers
write no file and the logger no record, and `common.get_dev_path` gives the paths under
`/sys/class/net`. -/
def quietEnv : Env where
  uni := asciiOnlyDb
  sriovMap := []
  devPath := fun ifname path => "/sys/class/net/".toList ++ ifname ++ ['/'] ++ path
  isMellanox := fun _ => false
  interfaceMac := fun _ => some []
  fails := fun _ _ => false
  output := fun _ _ => []
  vdpaDevices := fun _ => some []
  sysfsData := fun _ _ => []
  sysfsExists := fun _ _ => false
  sysfsIsDir := fun _ _ => false
  listdir := fun _ _ => some []
  udevEvents := fun _ _ => []
  created := fun _ numvfs => numvfs
  logFile := "/var/log/os-net-config.log".toList
  logText := fun _ _ _ => []
  helperFiles := fun _ => []
  helperData := fun _ _ _ _ => none
  writes_outside_udev := by
    rintro path (rfl | ⟨_, h⟩)
    · decide
    · exact absurd h (List.not_mem_nil _)

/-- The kernel's VF counts, and the writes made to them. -/
structure Kernel where
  numvfs : List Char → Int
  writes : List (List Char × Int)

/-- The kernel after a write of `numvfs` to the count of `ifname`, which it then reports as `c`. -/
def Kernel.written (k : Kernel) (ifname : List Char) (numvfs c : Int) : Kernel :=
  ⟨Function.update k.numvfs ifname c, k.writes ++ [(ifname, numvfs)]⟩

/-- The rest of the state the run changes: the regular files, the module's `vf_to_pf` and
`vf_queue` (device paths of the queued events), whether the udev observer runs, and the
actions taken. -/
structure Sys where
  files : List Char → Option (List Char)
  vfToPf : List (List Char × VfLink)
  vfQueue : List (List Char)
  observing : Bool
  trace : List Effect

structure World where
  kernel : Kernel
  sys : Sys

/-- A boot: every count at 0, no files, no observer, nothing queued and nothing done. -/
def World.initial : World := ⟨⟨fun _ => 0, []⟩, ⟨fun _ => none, [], [], false, []⟩⟩

/-- Code that does not write `sriov_numvfs`. -/
abbrev SysM := ReaderT (List Char → Int) (EStateM PyExc Sys)

abbrev M := EStateM PyExc World

namespace Sys

def record (s : Sys) (e : Effect) : Sys := { s with trace := s.trace ++ [e] }

/-- The observer thread puts the kernel's events on `vf_queue` while it runs. -/
def deliver (s : Sys) (events : List (List Char)) : Sys :=
  { s with vfQueue := if s.observing then s.vfQueue ++ events else s.vfQueue }

def setFile (s : Sys) (path : List Char) (content : Option (List Char)) : Sys :=
  { s with files := Function.update s.files path content }

@[simp] theorem record_files (s : Sys) (e : Effect) : (s.record e).files = s.files := rfl

@[simp] theorem record_trace (s : Sys) (e : Effect) : (s.record e).trace = s.trace ++ [e] := rfl

@[simp] theorem deliver_files (s : Sys) (events : List (List Char)) :
    (s.deliver events).files = s.files := rfl

@[simp] theorem deliver_trace (s : Sys) (events : List (List Char)) :
    (s.deliver events).trace = s.trace := rfl

theorem deliver_of_observing_false {s : Sys} (h : s.observing = false) (events : List (List Char)) :
    s.deliver events = s := by
  cases s
  simp_all [deliver]

@[simp] theorem setFile_files (s : Sys) (path : List Char) (content : Option (List Char)) :
    (s.setFile path content).files = Function.update s.files path content := rfl

@[simp] theorem setFile_trace (s : Sys) (path : List Char) (content : Option (List Char)) :
    (s.setFile path content).trace = s.trace := rfl

/-- `text` appended to the file at `path`, which is created when missing. -/
def appendTo (s : Sys) (path text : List Char) : Sys :=
  s.setFile path (some ((s.files path).getD [] ++ text))

end Sys

/-! ### Actions and reads -/

section Primitives
variable (env : Env)

/-- Take an action: it is recorded, it raises `exc` when the environment fails it, and the
events the kernel emits after it are delivered. -/
def perform (e : Effect) (exc : PyExc) : SysM Unit := fun _ s =>
  if env.fails s.trace e then .error exc (s.record e)
  else .ok () ((s.record e).deliver (env.udevEvents s.trace e))

/-- `processutils.execute(*argv)`, with its standard output. -/
def execute (argv : List (List Char)) : SysM (List Char) := fun counts s =>
  match perform env (.execute argv) (.processExecution argv) counts s with
  | .ok _ s' => .ok (env.output s.trace argv) s'
  | .error e s' => .error e s'

def sysfsData (path : List Char) : SysM (List Char) := fun _ s => .ok (env.sysfsData s.trace path) s

def sysfsExists (path : List Char) : SysM Bool := fun _ s => .ok (env.sysfsExists s.trace path) s

def sysfsIsDir (path : List Char) : SysM Bool := fun _ s => .ok (env.sysfsIsDir s.trace path) s

/-- `os.listdir`, raising when the directory cannot be read. -/
def listdir (path : List Char) : SysM (List (List Char)) := fun _ s =>
  match env.listdir s.trace path with
  | some names => .ok names s
  | none => .error (.os path) s

/-- Let time pass (`time.sleep`): the kernel's events are delivered, and nothing can fail. -/
def pause (e : Effect) : SysM Unit := fun _ s => .ok () ((s.record e).deliver (env.udevEvents s.trace e))

/-- `os.path.exists` on a regular file. -/
def pathExists (path : List Char) : SysM Bool := fun _ s => .ok (s.files path).isSome s

/-- `common.get_file_data` on a regular file: its text, or `''` when it does not exist. -/
def getFileData (path : List Char) : SysM (List Char) := fun _ s =>
  .ok (((s.files path).map universalNewlines).getD []) s

def writeFile (path content : List Char) : SysM Unit := do
  perform env (.writeFile path content) (.os path)
  modify fun s => s.setFile path (some content)

def appendFile (path content : List Char) : SysM Unit := do
  perform env (.appendFile path content) (.os path)
  modify fun s => s.setFile path (some ((s.files path).getD [] ++ content))

def removeFile (path : List Char) : SysM Unit := do
  perform env (.removeFile path) (.os path)
  modify fun s => s.setFile path none

/-- The files helper call `e` writes, with what the environment says it leaves in them. -/
def helperWrites (e : Effect) (s : Sys) : Sys :=
  (env.helperFiles e).foldl (fun s path => s.setFile path (env.helperData s.trace e path (s.files path))) s

/-- A call of a helper `fn` of `common` or `sriov_bind_config`, whose code is not in the file:
it writes its files, then takes action `e`, raising when the environment fails it. -/
def callHelper (e : Effect) (fn : List Char) : SysM Unit := do
  modify (helperWrites env e)
  perform env e (.helper fn)

/-- `common.configure_logger(log_file=True)`: the file handler opens the log file for appending,
creating it. The logger it returns is modelled by where the run stands: the records from there on
go to the file. -/
def configureLogger : SysM Nat := fun _ s => .ok s.trace.length (s.appendTo env.logFile [])

/-- The records of the run since `start` land in the log file. -/
def writeLog (verbose debug : Bool) (start : Nat) : SysM Unit :=
  modify fun s => s.appendTo env.logFile (env.logText verbose debug (s.trace.drop start))

/-- A VF count as the kernel reports it. -/
def numvfsOf (ifname : List Char) : SysM Int := fun counts s => .ok (counts ifname) s

theorem perform_run (e : Effect) (exc : PyExc) (c : List Char → Int) (s : Sys) :
    perform env e exc c s = if env.fails s.trace e then .error exc (s.record e)
      else .ok () ((s.record e).deliver (env.udevEvents s.trace e)) := rfl

theorem execute_run (argv : List (List Char)) (c : List Char → Int) (s : Sys) :
    execute env argv c s = (perform env (.execute argv) (.processExecution argv) c s).mapValue
      fun _ => env.output s.trace argv := by
  unfold execute
  cases perform env (.execute argv) (.processExecution argv) c s <;> rfl

theorem callHelper_run (e : Effect) (fn : List Char) (c : List Char → Int) (s : Sys) :
    callHelper env e fn c s = perform env e (.helper fn) c (helperWrites env e s) := rfl

theorem foldl_setFile_eq {f : Sys → List Char → Option (List Char)} :
    ∀ (l : List (List Char)) (s : Sys),
      l.foldl (fun s path => s.setFile path (f s path)) s =
        { s with files := (l.foldl (fun s path => s.setFile path (f s path)) s).files }
  | [], _ => rfl
  | _ :: l, s => by rw [List.foldl_cons, foldl_setFile_eq l]; rfl

theorem foldl_setFile_files_of_not_mem {f : Sys → List Char → Option (List Char)} {path : List Char} :
    ∀ (l : List (List Char)) (s : Sys), path ∉ l →
      (l.foldl (fun s path => s.setFile path (f s path)) s).files path = s.files path
  | [], _, _ => rfl
  | p :: l, s, h => by
    rw [List.foldl_cons, foldl_setFile_files_of_not_mem l _ (List.not_mem_of_not_mem_cons h)]
    exact Function.update_noteq (List.ne_of_not_mem_cons h) _ _

theorem helperWrites_eq (e : Effect) (s : Sys) :
    helperWrites env e s = { s with files := (helperWrites env e s).files } :=
  foldl_setFile_eq _ _

@[simp] theorem helperWrites_trace (e : Effect) (s : Sys) : (helperWrites env e s).trace = s.trace := by
  rw [helperWrites_eq]

@[simp] theorem helperWrites_vfToPf (e : Effect) (s : Sys) :
    (helperWrites env e s).vfToPf = s.vfToPf := by
  rw [helperWrites_eq]

theorem helperWrites_files_of_not_mem {e : Effect} {path : List Char} (h : path ∉ env.helperFiles e)
    (s : Sys) : (helperWrites env e s).files path = s.files path :=
  foldl_setFile_files_of_not_mem _ s h

end Primitives

/-- Run code that does not write `sriov_numvfs`. -/
def liftSys {α : Type} (x : SysM α) : M α := fun w =>
  match x w.kernel.numvfs w.sys with
  | .ok a s => .ok a ⟨w.kernel, s⟩
  | .error e s => .error e ⟨w.kernel, s⟩

/-- Writing `numvfs` to a PF's `sriov_numvfs` at `path`: the kernel takes a count only from 0,
and then reports `env.created`. -/
def writeNumvfs (env : Env) (ifname path : List Char) (numvfs : Int) : M Unit := fun w =>
  let e := Effect.writeNumvfs ifname numvfs
  let s := w.sys.record e
  let writes := w.kernel.writes ++ [(ifname, numvfs)]
  if env.fails w.sys.trace e ∨ w.kernel.numvfs ifname ≠ 0 then .error (.os path) ⟨⟨w.kernel.numvfs, writes⟩, s⟩
  else .ok () ⟨w.kernel.written ifname numvfs (env.created ifname numvfs),
    s.deliver (env.udevEvents w.sys.trace e)⟩

/-! ### Running the two monads -/

section Run
variable {α β : Type}

@[simp] theorem sysM_bind (x : SysM α) (f : α → SysM β) (c : List Char → Int) (s : Sys) :
    (x >>= f) c s = (x c s).andThen fun a s' => f a c s' := by
  show EStateM.bind (x c) (fun a => f a c) s = _
  unfold EStateM.bind
  cases x c s <;> rfl

@[simp] theorem sysM_map (f : α → β) (x : SysM α) (c : List Char → Int) (s : Sys) :
    (f <$> x) c s = (x c s).mapValue f := by
  show EStateM.map f (x c) s = _
  unfold EStateM.map
  cases x c s <;> rfl

@[simp] theorem sysM_pure (a : α) (c : List Char → Int) (s : Sys) :
    (pure a : SysM α) c s = .ok a s := rfl

@[simp] theorem sysM_get (c : List Char → Int) (s : Sys) : (get : SysM Sys) c s = .ok s s := rfl

@[simp] theorem sysM_modify (f : Sys → Sys) (c : List Char → Int) (s : Sys) :
    (modify f : SysM Unit) c s = .ok () (f s) := rfl

@[simp] theorem sysM_throw (e : PyExc) (c : List Char → Int) (s : Sys) :
    (throw e : SysM α) c s = .error e s := rfl

@[simp] theorem sysM_tryCatch (x : SysM α) (h : PyExc → SysM α) (c : List Char → Int) (s : Sys) :
    (tryCatch x h) c s = (x c s).handle fun e s' => h e c s' := by
  show EStateM.tryCatch (x c) (fun e => h e c) s = _
  unfold EStateM.tryCatch
  cases x c s <;> rfl

@[simp] theorem m_run_bind (x : M α) (f : α → M β) (w : World) :
    (x >>= f).run w = (x.run w).andThen fun a w' => (f a).run w' := by
  show EStateM.bind x f w = (x w).andThen fun a w' => f a w'
  unfold EStateM.bind
  cases x w <;> rfl

@[simp] theorem m_run_pure (a : α) (w : World) : (pure a : M α).run w = .ok a w := rfl

@[simp] theorem m_run_throw (e : PyExc) (w : World) : (throw e : M α).run w = .error e w := rfl

@[simp] theorem m_run_tryCatch (x : M α) (h : PyExc → M α) (w : World) :
    (tryCatch x h).run w = (x.run w).handle fun e w' => (h e).run w' := by
  show EStateM.tryCatch x h w = (x w).handle fun e w' => h e w'
  unfold EStateM.tryCatch
  cases x w <;> rfl

theorem liftSys_run (x : SysM α) (w : World) : (liftSys x).run w =
    match x w.kernel.numvfs w.sys with
    | .ok a s => .ok a ⟨w.kernel, s⟩
    | .error e s => .error e ⟨w.kernel, s⟩ := rfl

/-- A `finally` clause that only changes the state acts on the state the run ends in. -/
theorem m_run_tryFinally_modify (x : M α) (f : Sys → Sys) (w : World) :
    (tryFinally x (liftSys (modify f))).run w = (x.run w).mapState fun w' => ⟨w'.kernel, f w'.sys⟩ := by
  -- the `finally` of `EStateM`, unfolded to a case split on how `x` ends
  show (tryFinally x (liftSys (modify f))) w = (x w).mapState _
  delta tryFinally tryFinally' EStateM.instMonadFinally
  show EStateM.map _ _ w = _
  delta EStateM.map
  dsimp only
  cases x w <;> rfl

theorem liftSys_bind (x : SysM α) (f : α → SysM β) :
    liftSys (x >>= f) = liftSys x >>= fun a => liftSys (f a) := by
  funext w
  show (liftSys (x >>= f)).run w = (liftSys x >>= fun a => liftSys (f a)).run w
  rw [m_run_bind, liftSys_run, liftSys_run, sysM_bind]
  cases x w.kernel.numvfs w.sys <;> rfl

end Run

@[simp] theorem liftSys_kernel {α : Type} (x : SysM α) (w : World) : ((liftSys x).run w).state.kernel = w.kernel := by
  rw [liftSys_run]
  split <;> rfl

/-! ### Triples over `M` -/

/-- From a state satisfying `P`, a run that returns ends in `Q`, and one that raises in `E`. -/
def Triple {α : Type} (P : World → Prop) (x : M α) (Q : α → World → Prop) (E : World → Prop) : Prop :=
  ∀ w, P w → (x.run w).Holds Q fun _ => E

section Triple
variable {α β : Type} {P : World → Prop} {E : World → Prop}

theorem Triple.bind {x : M α} {f : α → M β} {Q : α → World → Prop} {R : β → World → Prop}
    (hx : Triple P x Q E) (hf : ∀ a, Triple (Q a) (f a) R E) : Triple P (x >>= f) R E := fun w hw => by
  rw [m_run_bind, EStateM.Result.holds_andThen]
  have := hx w hw
  revert this
  cases x.run w with
  | ok a w' => exact hf a w'
  | error e w' => exact id

theorem Triple.pure {a : α} {Q : α → World → Prop} (h : ∀ w, P w → Q a w) :
    Triple P (pure a) Q E := fun w hw => h w hw

theorem Triple.mono {x : M α} {P' : World → Prop} {Q Q' : α → World → Prop} {E' : World → Prop}
    (h : Triple P x Q E) (hP : ∀ w, P' w → P w) (hQ : ∀ a w, Q a w → Q' a w)
    (hE : ∀ w, E w → E' w) : Triple P' x Q' E' := fun w hw => by
  have := h w (hP w hw)
  revert this
  cases x.run w with
  | ok a w' => exact hQ a w'
  | error e w' => exact hE w'

theorem Triple.throw {e : PyExc} {Q : α → World → Prop} (h : ∀ w, P w → E w) :
    Triple P (throw e) Q E := fun w hw => h w hw

theorem Triple.liftSys {x : SysM α} {R R' : Kernel → Prop} (h : ∀ k, R k → R' k) :
    Triple (fun w => R w.kernel) (liftSys x) (fun _ w => R w.kernel) (fun w => R' w.kernel) :=
  fun w hw => by
    rw [liftSys_run]
    cases x w.kernel.numvfs w.sys with
    | ok a s => exact hw
    | error e s => exact h _ hw

/-- A loop whose every step takes an accumulator `acc` with `I acc` to one with `I` (or raises
into `E`) ends with an accumulator with `I`. -/
theorem Triple.foldlM_acc {γ : Type} {I : β → World → Prop} {f : β → γ → M β} :
    ∀ (l : List γ) (init : β), (∀ acc, ∀ c ∈ l, Triple (I acc) (f acc c) I E) →
      Triple (I init) (l.foldlM f init) I E
  | [], _, _ => Triple.pure fun _ hw => hw
  | c :: l, init, h => by
    rw [List.foldlM_cons]
    exact (h init c (List.mem_cons_self _ _)).bind fun b =>
      Triple.foldlM_acc l b fun acc c hc => h acc c (List.mem_cons_of_mem _ hc)

theorem Triple.foldlM {γ : Type} {f : β → γ → M β} (l : List γ) (init : β)
    (h : ∀ acc, ∀ c ∈ l, Triple P (f acc c) (fun _ => P) E) :
    Triple P (l.foldlM f init) (fun _ => P) E :=
  Triple.foldlM_acc (I := fun _ => P) l init h

theorem Triple.state {x : M α} {Q : α → World → Prop} {R : World → Prop} (h : Triple P x Q E)
    {w : World} (hw : P w) (hQ : ∀ a w, Q a w → R w) (hE : ∀ w, E w → R w) :
    R ((x.run w).state) := by
  have := h w hw
  revert this
  cases x.run w with
  | ok a w' => exact hQ a w'
  | error e w' => exact hE w'

end Triple

theorem foldlM_run_congr {β γ δ : Type} (n : β → δ) {f g : β → γ → M β} (l : List γ)
    (h : ∀ a a' c w, c ∈ l → n a = n a' →
      ((f a c).run w).mapValue n = ((g a' c).run w).mapValue n) :
    ∀ a a' w, n a = n a' → ((l.foldlM f a).run w).mapValue n = ((l.foldlM g a').run w).mapValue n := by
  induction l with
  | nil => intro a a' w hn; simp [hn]
  | cons c l ih =>
    intro a a' w hn
    have hc := h a a' c w (List.mem_cons_self _ _) hn
    rw [List.foldlM_cons, List.foldlM_cons, m_run_bind, m_run_bind]
    revert hc
    rcases (f a c).run w with ⟨b, w₁⟩ | ⟨e, w₁⟩ <;> rcases (g a' c).run w with ⟨b', w₂⟩ | ⟨e', w₂⟩ <;>
      simp only [EStateM.Result.mapValue_eq, EStateM.Result.andThen_ok, EStateM.Result.andThen_error,
        EStateM.Result.ok.injEq, EStateM.Result.error.injEq, reduceCtorEq, false_implies, and_imp]
    · rintro hb rfl
      exact ih (fun a a' c w hc => h a a' c w (List.mem_cons_of_mem _ hc)) b b' w₁ hb
    · exact And.intro

theorem writeNumvfs_run (env : Env) (ifname path : List Char) (numvfs : Int) (w : World) :
    (writeNumvfs env ifname path numvfs).run w =
      if env.fails w.sys.trace (.writeNumvfs ifname numvfs) ∨ w.kernel.numvfs ifname ≠ 0 then
        .error (.os path) ⟨w.kernel.written ifname numvfs (w.kernel.numvfs ifname),
          w.sys.record (.writeNumvfs ifname numvfs)⟩
      else .ok () ⟨w.kernel.written ifname numvfs (env.created ifname numvfs),
        (w.sys.record (.writeNumvfs ifname numvfs)).deliver (env.udevEvents w.sys.trace (.writeNumvfs ifname numvfs))⟩ := by
  show writeNumvfs env ifname path numvfs w = _
  simp only [writeNumvfs, Kernel.written, Function.update_eq_self]

end SriovConfig.System
