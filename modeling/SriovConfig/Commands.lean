import SriovConfig.Numvfs

/-! The commands `sriov_config.py` runs and the sysfs attributes it reads for a PF: bringing
interfaces up and down, the PCI addresses of a PF and of its VFs, switchdev mode, flow steering,
vDPA devices, and the udev observer. -/
set_option autoImplicit false

namespace SriovConfig.Commands
open PyText PyRe Rules System

/-- `_MLNX_DRIVER`. -/
def mlnxDriver : List Char := "mlx5_core".toList

/-- `MLNX_UNBIND_FILE_PATH`. -/
def mlnxUnbindFilePath : List Char := "/sys/bus/pci/drivers/mlx5_core/unbind".toList

/-- `MLNX5_VDPA_KMODS`. -/
def mlnx5VdpaKmods : List (List Char) := ["vdpa".toList, "vhost_vdpa".toList, "mlx5_vdpa".toList]

/-- `MAX_RETRIES`. -/
def maxRetries : Nat := 10

section Defs
variable (env : Env)

/-- `run_ip_config_cmd(*cmd)`: `processutils.execute` retries the command up to 10 times, and the
environment says whether the last attempt fails. -/
def runIpConfigCmd (cmd : List (List Char)) : SysM Unit := do
  let _ ← execute env cmd

/-- `run_ip_config_cmd_safe(raise_error, *cmd)`. -/
def runIpConfigCmdSafe (raiseError : Bool) (cmd : List (List Char)) : SysM Unit :=
  tryCatch (runIpConfigCmd env cmd) fun e =>
    match e with
    | .processExecution _ => if raiseError then throw e else pure ()
    | _ => throw e

def ifDownInterface (device : List Char) : SysM Unit := do
  let _ ← execute env ["/sbin/ifdown".toList, device]

def ifUpInterface (device : List Char) : SysM Unit := do
  let _ ← execute env ["/sbin/ifup".toList, device]

/-- `get_pf_pci(pf_name)`: `.group(1)` of a failed search raises `AttributeError`. -/
def getPfPci (pfName : List Char) : SysM (List Char) := do
  match pciSlotNameSearch (← sysfsData env (env.devPath pfName "uevent".toList)) with
  | some pfPci => pure pfPci
  | none => throw .attribute

def getPfDeviceId (pfName : List Char) : SysM (List Char) := do
  pure (strip (← sysfsData env (env.devPath pfName "device".toList)))

/-- `get_vf_pcis_list(pf_name)`: the PCI addresses of the `virtfn*` links of the PF. -/
def getVfPcisList (pfName : List Char) : SysM (List (List Char)) := do
  let pfFiles ← listdir env (env.devPath pfName "_device".toList)
  pfFiles.foldlM (fun vfPcisList pfFile =>
    if "virtfn".toList.isPrefixOf pfFile then do
      match pciSlotNameSearch (← sysfsData env (env.devPath pfName (pfFile ++ "/uevent".toList))) with
      | some vfPci => pure (vfPcisList ++ [vfPci])
      | none => throw .attribute
    else pure vfPcisList) []

/-- `_driver_unbind(dev)`. -/
def driverUnbind (dev : List Char) : SysM Unit := do
  if ← sysfsExists env ("/sys/bus/pci/devices/".toList ++ dev ++ "/driver".toList) then
    perform env (.writeFile mlnxUnbindFilePath dev) (.os mlnxUnbindFilePath)

/-- The loop of `_wait_for_uplink_rep_creation`: whether `phys_switch_id` appears within
`retries` reads, one second apart. -/
def uplinkRepReady (path : List Char) : Nat → SysM Bool
  | 0 => pure false
  | retries + 1 => do
    if (← sysfsData env path) ≠ [] then pure true
    else do
      pause env (.sleep 1)
      uplinkRepReady path retries

/-- `_wait_for_uplink_rep_creation(pf_name)`. -/
def waitForUplinkRepCreation (pfName : List Char) : SysM Unit := do
  if ← uplinkRepReady env ("/sys/class/net/".toList ++ pfName ++ "/phys_switch_id".toList) maxRetries
  then pure ()
  else throw (.runtime (pfName ++ ": Timeout waiting uplink representor".toList))

/-- `configure_switchdev(pf_name)`. -/
def configureSwitchdev (pfName : List Char) : SysM Unit := do
  let pfPci ← getPfPci env pfName
  let pfDeviceId ← getPfDeviceId env pfName
  if pfDeviceId = "0x1013".toList ∨ pfDeviceId = "0x1015".toList then
    let _ ← execute env ["/usr/sbin/devlink".toList, "dev".toList, "eswitch".toList, "set".toList,
      "pci/".toList ++ pfPci, "inline-mode".toList, "transport".toList]
  let _ ← execute env ["/usr/sbin/devlink".toList, "dev".toList, "eswitch".toList, "set".toList,
    "pci/".toList ++ pfPci, "mode".toList, "switchdev".toList]
  waitForUplinkRepCreation env pfName
  let _ ← execute env ["/usr/sbin/ethtool".toList, "-K".toList, pfName, "hw-tc-offload".toList,
    "on".toList]

/-- `get_vdpa_vhost_devices()`: the names of `loads(stdout)['dev']`. -/
def getVdpaVhostDevices : SysM (List (List Char)) := do
  match env.vdpaDevices (← execute env ["vdpa".toList, "-j".toList, "dev".toList]) with
  | some devices => pure devices
  | none => throw .json

def configureVdpaVhostDevice (pci : List Char) : SysM Unit := do
  let _ ← execute env ["vdpa".toList, "dev".toList, "add".toList, "name".toList, pci,
    "mgmtdev".toList, "pci/".toList ++ pci]

/-- `configure_flow_steering(pf_name, steering_mode)`: a failing command is only logged. -/
def configureFlowSteering (pfName steeringMode : List Char) : SysM Unit := do
  let pfPci ← getPfPci env pfName
  tryCatch (do
      let _ ← execute env ["/usr/sbin/devlink".toList, "dev".toList, "param".toList, "set".toList,
        "pci/".toList ++ pfPci, "name".toList, "flow_steering_mode".toList, "value".toList,
        steeringMode, "cmode".toList, "runtime".toList])
    fun e =>
      match e with
      | .processExecution _ => pure ()
      | _ => throw e

/-- `_pf_interface_up(pf_device)`. -/
def pfInterfaceUp (p : PfItem) : SysM Unit := do
  if let some promisc := p.promisc then
    runIpConfigCmd env ["ip".toList, "link".toList, "set".toList, "dev".toList, p.name,
      "promisc".toList, promisc]
  runIpConfigCmd env ["ip".toList, "link".toList, "set".toList, "dev".toList, p.name, "up".toList]

/-- `pf_configure_status(pf_device)`. -/
def pfConfigureStatus (p : PfItem) : SysM Bool := do
  pure (p.numvfs = (← Numvfs.getNumvfs env p.name))

/-- `udev_monitor_setup()` and `udev_monitor_start(observer)`: the observer thread starts
putting the kernel's net events on `vf_queue`. -/
def udevMonitorStart : SysM Unit := do
  perform env .monitorStart (.helper "pyudev".toList)
  modify fun s => { s with observing := true }

def udevMonitorStop : SysM Unit := do
  perform env .monitorStop (.helper "pyudev".toList)
  modify fun s => { s with observing := false }

def restartOvsAndPfsNetdevs : SysM Unit := do
  let _ ← execute env ["/usr/bin/systemctl".toList, "restart".toList, "openvswitch".toList]
  env.sriovMap.forM fun item =>
    match item with
    | .pf p => do
      ifDownInterface env p.name
      ifUpInterface env p.name
    | .vf _ => pure ()

end Defs

/-! ### The PCI address of a PF -/

/-- `get_pf_pci` on a `uevent` file of lines reads back the value of its `PCI_SLOT_NAME` line
when no line before it holds the key, and changes nothing. -/
theorem get_pf_pci_reads_pci_slot_name (env : Env) (pfName : List Char) (c : List Char → Int)
    (s : Sys) (pre post : List (List Char)) (v : List Char)
    (hpre : ∀ l ∈ pre, '\n' ∉ l ∧ ¬ "PCI_SLOT_NAME=".toList <:+: l) (hv : '\n' ∉ v)
    (h : env.sysfsData s.trace (env.devPath pfName "uevent".toList) =
      writeLines (pre ++ ("PCI_SLOT_NAME=".toList ++ v) :: post)) :
    getPfPci env pfName c s = .ok v s := by
  simp only [getPfPci, sysM_bind, sysfsData, EStateM.Result.andThen_ok, h,
    pciSlotNameSearch_writeLines post hv hpre]
  rfl

/-- A ConnectX-5 PF whose `uevent` file reads as sysfs prints it. -/
def mlx5UeventEnv : Env :=
  { quietEnv with
    sysfsData := fun _ _ => writeLines ["DRIVER=mlx5_core".toList, "PCI_CLASS=20000".toList,
      "PCI_SLOT_NAME=0000:06:00.0".toList, "MODALIAS=pci:v000015B3d00001017".toList] }

theorem get_pf_pci_reads_mlx5_uevent :
    (∀ l ∈ ["DRIVER=mlx5_core".toList, "PCI_CLASS=20000".toList],
      '\n' ∉ l ∧ ¬ "PCI_SLOT_NAME=".toList <:+: l) ∧ '\n' ∉ "0000:06:00.0".toList ∧
    mlx5UeventEnv.sysfsData [] (mlx5UeventEnv.devPath "p1".toList "uevent".toList) =
      writeLines (["DRIVER=mlx5_core".toList, "PCI_CLASS=20000".toList] ++
        ("PCI_SLOT_NAME=".toList ++ "0000:06:00.0".toList) ::
          ["MODALIAS=pci:v000015B3d00001017".toList]) ∧
    getPfPci mlx5UeventEnv "p1".toList (fun _ => 0) World.initial.sys =
      .ok "0000:06:00.0".toList World.initial.sys :=
  have hpre : ∀ l ∈ ["DRIVER=mlx5_core".toList, "PCI_CLASS=20000".toList],
      '\n' ∉ l ∧ ¬ "PCI_SLOT_NAME=".toList <:+: l := by decide
  have hv : '\n' ∉ "0000:06:00.0".toList := by decide
  have h : mlx5UeventEnv.sysfsData [] (mlx5UeventEnv.devPath "p1".toList "uevent".toList) =
      writeLines (["DRIVER=mlx5_core".toList, "PCI_CLASS=20000".toList] ++
        ("PCI_SLOT_NAME=".toList ++ "0000:06:00.0".toList) ::
          ["MODALIAS=pci:v000015B3d00001017".toList]) := rfl
  ⟨hpre, hv, h, get_pf_pci_reads_pci_slot_name mlx5UeventEnv _ _ _ _ _ _ hpre hv h⟩

/-! ### The wait for the uplink representor -/

section Wait
variable (env : Env)

theorem uplinkRepReady_run (path : List Char) (c : List Char → Int) :
    ∀ (retries : Nat) (s : Sys), ∃ k ≤ retries, ∃ s',
      uplinkRepReady env path retries c s = .ok (decide (k < retries)) s' ∧
      s'.trace = s.trace ++ List.replicate k (.sleep 1) ∧ s'.files = s.files ∧
      (∀ i < k, env.sysfsData (s.trace ++ List.replicate i (.sleep 1)) path = []) ∧
      (k < retries → env.sysfsData (s.trace ++ List.replicate k (.sleep 1)) path ≠ [])
  | 0, s => ⟨0, le_rfl, s, rfl, by simp, rfl, by simp, by simp⟩
  | retries + 1, s => by
    by_cases hread : env.sysfsData s.trace path = []
    · obtain ⟨k, hk, s', hrun, htrace, hfiles, hempty, hfound⟩ :=
        uplinkRepReady_run path c retries ((s.record (.sleep 1)).deliver (env.udevEvents s.trace (.sleep 1)))
      simp only [Sys.deliver_trace, Sys.record_trace, Sys.deliver_files, Sys.record_files,
        List.append_assoc, List.singleton_append] at htrace hfiles hempty hfound
      refine ⟨k + 1, by omega, s', ?_, by rw [htrace, List.replicate_succ], hfiles, ?_, ?_⟩
      · simp only [uplinkRepReady, sysM_bind, sysfsData, pause, hread, EStateM.Result.andThen_ok]
        simpa using hrun
      · rintro (_ | i) hi
        · simpa using hread
        · simpa [List.replicate_succ] using hempty i (by omega)
      · simpa [List.replicate_succ] using hfound
    · exact ⟨0, by omega, s, by simp [uplinkRepReady, sysfsData, hread], by simp, rfl,
        by simp, by simpa using hread⟩

end Wait

/-- `is_partitioned_pf(dev_name)`: some VF entry of the map is a VF of the PF. -/
def isPartitionedPf (sriovMap : List SriovItem) (devName : List Char) : Bool :=
  sriovMap.any fun item =>
    match item with
    | .vf v => v.device = devName
    | .pf _ => false

end SriovConfig.Commands
