import SriovConfig.Trace
import SriovConfig.VfCalls
import Mathlib.Tactic.LiftLets

/-! The order of the actions of `configure_sriov_pf` and of `main` over the sriov map: for each
part, which actions it can append to the trace. From them, over every map and every run, the udev
observer runs through every write of a VF count and every wait on `vf_queue`, and udev is
triggered at most once, after all of them. -/
set_option autoImplicit false

namespace SriovConfig.Observer
open System Trace Numvfs Commands UdevFiles ConfigurePf Cli VfCalls

/-! ### The actions of each part -/

/-- `udevadm trigger`, as `trigger_udev_rules` runs it. -/
def triggerArgv : List (List Char) :=
  ["/usr/sbin/udevadm".toList, "trigger".toList, "--action=add".toList,
    "--attr-match=subsystem=net".toList]

/-- The action `trigger_udev_rules` takes. -/
def isTrigger : Effect → Bool
  | .execute argv => argv == triggerArgv
  | _ => false

/-- The actions that stop the observer or trigger udev. -/
def stopsOrTriggers : Effect → Bool
  | .monitorStop => true
  | e => isTrigger e

/-- The actions that write a VF count or wait on `vf_queue`. -/
def touchesVfs : Effect → Bool
  | .writeNumvfs _ _ | .queueGet => true
  | _ => false

/-- An action the PF loop may take. -/
def Quiet (e : Effect) : Prop := stopsOrTriggers e = false

/-- Whether an action writes a VF count. -/
def isWrite : Effect → Bool
  | .writeNumvfs _ _ => true
  | _ => false

/-- An action the code run through `liftSys` may take in the loop: it neither stops the observer,
nor triggers udev, nor writes a VF count. -/
def Still (e : Effect) : Prop := Quiet e ∧ isWrite e = false

section Loop
variable (env : Env)

theorem runIpConfigCmd_emits {Q : Effect → Prop} {cmd : List (List Char)} (h : Q (.execute cmd)) :
    Emits Q (runIpConfigCmd env cmd) := by
  unfold runIpConfigCmd
  exact Emits.bind (Emits.execute env h) fun _ => Emits.pure _

theorem ifUpInterface_emits (device : List Char) : Emits Still (ifUpInterface env device) := by
  unfold ifUpInterface
  exact Emits.bind (Emits.execute env ⟨rfl, rfl⟩) fun _ => Emits.pure _

theorem getPfPci_emits {Q : Effect → Prop} (pfName : List Char) :
    Emits Q (getPfPci env pfName) := by
  unfold getPfPci
  refine Emits.bind (Emits.of_state fun _ _ => rfl) fun _ => ?_
  split
  · exact Emits.pure _
  · exact Emits.throw _

theorem getPfDeviceId_emits {Q : Effect → Prop} (pfName : List Char) :
    Emits Q (getPfDeviceId env pfName) := by
  unfold getPfDeviceId
  exact Emits.bind (Emits.of_state fun _ _ => rfl) fun _ => Emits.pure _

theorem getVfPcisList_emits {Q : Effect → Prop} (pfName : List Char) :
    Emits Q (getVfPcisList env pfName) := by
  unfold getVfPcisList
  refine Emits.bind (Emits.listdir env _) fun _ => Emits.foldlM _ _ fun _ _ _ =>
    Emits.ite (Emits.bind (Emits.of_state fun _ _ => rfl) fun _ => ?_) (Emits.pure _)
  split
  · exact Emits.pure _
  · exact Emits.throw _

theorem driverUnbind_emits (dev : List Char) : Emits Still (driverUnbind env dev) := by
  unfold driverUnbind
  refine Emits.bind (Emits.of_state fun _ _ => rfl) fun _ => ?_
  split
  · exact Emits.perform env ⟨rfl, rfl⟩
  · exact Emits.pure _

theorem uplinkRepReady_emits (path : List Char) :
    ∀ retries, Emits Still (uplinkRepReady env path retries)
  | 0 => Emits.pure _
  | retries + 1 => by
    unfold uplinkRepReady
    refine Emits.bind (Emits.of_state fun _ _ => rfl) fun _ => ?_
    split
    · exact Emits.pure _
    · exact Emits.bind (Emits.pause env ⟨rfl, rfl⟩) fun _ => uplinkRepReady_emits path retries

theorem configureSwitchdev_emits (pfName : List Char) :
    Emits Still (configureSwitchdev env pfName) := by
  unfold configureSwitchdev waitForUplinkRepCreation
  refine Emits.bind (getPfPci_emits env pfName) fun _ => ?_
  refine Emits.bind (getPfDeviceId_emits env pfName) fun _ => ?_
  lift_lets
  intro jp
  have hjp : ∀ y, Emits Still (jp y) := fun _ =>
    Emits.bind (Emits.execute env ⟨rfl, rfl⟩) fun _ =>
      Emits.bind (Emits.bind (uplinkRepReady_emits env _ _) fun _ => Emits.ite (Emits.pure _) (Emits.throw _))
        fun _ => Emits.bind (Emits.execute env ⟨rfl, rfl⟩) fun _ => Emits.pure _
  exact Emits.ite (Emits.bind (Emits.execute env ⟨rfl, rfl⟩) fun _ => Emits.bind (Emits.pure _) hjp)
    (Emits.bind (Emits.pure _) hjp)

theorem getVdpaVhostDevices_emits : Emits Still (getVdpaVhostDevices env) := by
  unfold getVdpaVhostDevices
  refine Emits.bind (Emits.execute env ⟨rfl, rfl⟩) fun _ => ?_
  split
  · exact Emits.pure _
  · exact Emits.throw _

theorem configureVdpaVhostDevice_emits (pci : List Char) :
    Emits Still (configureVdpaVhostDevice env pci) := by
  unfold configureVdpaVhostDevice
  exact Emits.bind (Emits.execute env ⟨rfl, rfl⟩) fun _ => Emits.pure _

theorem configureFlowSteering_emits (pfName steeringMode : List Char) :
    Emits Still (configureFlowSteering env pfName steeringMode) := by
  unfold configureFlowSteering
  refine Emits.bind (getPfPci_emits env pfName) fun _ =>
    Emits.tryCatch (Emits.bind (Emits.execute env ⟨rfl, rfl⟩) fun _ => Emits.pure _) fun _ => ?_
  split
  · exact Emits.pure _
  · exact Emits.throw _

theorem pfInterfaceUp_emits (p : PfItem) : Emits Still (pfInterfaceUp env p) := by
  unfold pfInterfaceUp
  lift_lets
  intro jp
  have hjp : ∀ y, Emits Still (jp y) := fun _ => runIpConfigCmd_emits env ⟨rfl, rfl⟩
  split
  · exact Emits.bind (runIpConfigCmd_emits env ⟨rfl, rfl⟩) hjp
  · exact Emits.bind (Emits.pure _) hjp

theorem getNumvfs_emits (ifname : List Char) : Emits Still (getNumvfs env ifname) := by
  unfold getNumvfs
  exact Emits.bind (Emits.perform env ⟨rfl, rfl⟩) fun _ => Emits.of_state fun _ _ => rfl

theorem pfConfigureStatus_emits (p : PfItem) : Emits Still (pfConfigureStatus env p) := by
  unfold pfConfigureStatus
  exact Emits.bind (getNumvfs_emits env p.name) fun _ => Emits.pure _

theorem reloadUdevRules_emits : Emits Still (reloadUdevRules env) := by
  unfold reloadUdevRules
  exact Emits.bind (Emits.execute env ⟨rfl, rfl⟩) fun _ => Emits.pure _

theorem addUdevRule_emits (udevData udevFile pattern : List Char) :
    Emits Still (addUdevRule env udevData udevFile pattern) := by
  have hwrite : ∀ a : PUnit, Emits Still (do reloadUdevRules env; pure true) := fun _ =>
    Emits.bind (reloadUdevRules_emits env) fun _ => Emits.pure _
  unfold addUdevRule
  refine Emits.bind (Emits.of_state fun _ _ => rfl) fun _ =>
    Emits.ite (Emits.bind (Emits.writeFile env ⟨rfl, rfl⟩) hwrite)
      (Emits.bind (Emits.of_state fun _ _ => rfl) fun _ => ?_)
  exact Emits.ite (Emits.ite (Emits.pure _) (Emits.bind (Emits.writeFile env ⟨rfl, rfl⟩) hwrite))
    (Emits.bind (Emits.appendFile env ⟨rfl, rfl⟩) hwrite)

theorem addUdevRuleForSriovPf_emits (pfName : List Char) :
    Emits Still (addUdevRuleForSriovPf env pfName) :=
  Emits.bind (getPfPci_emits env pfName) fun _ => addUdevRule_emits env _ _ _

theorem addUdevRuleForVfRepresentors_emits (pfName : List Char) :
    Emits Still (addUdevRuleForVfRepresentors env pfName) := by
  unfold addUdevRuleForVfRepresentors createRepLinkNameScript
  refine Emits.bind (Emits.of_state fun _ _ => rfl) fun _ =>
    Emits.bind (getPfPci_emits env pfName) fun _ => ?_
  split
  · exact Emits.pure _
  · exact Emits.bind (Emits.bind (Emits.writeFile env ⟨rfl, rfl⟩) fun _ =>
      Emits.perform env ⟨rfl, rfl⟩) fun _ =>
      addUdevRule_emits env _ _ _

theorem addUdevRuleForVdpaRepresentors_emits : Emits Still (addUdevRuleForVdpaRepresentors env) :=
  Emits.bind Emits.get fun _ => Emits.ite (addUdevRule_emits env _ _ _) (Emits.throw _)

theorem cleanupPuppetConfig_emits : Emits Still (cleanupPuppetConfig env) := by
  unfold cleanupPuppetConfig
  lift_lets
  intro jp₁ jp₂
  have h₁ : ∀ y, Emits Still (jp₁ y) := fun _ =>
    Emits.bind (Emits.of_state fun _ _ => rfl) fun _ =>
      Emits.ite (Emits.bind (Emits.of_state fun _ _ => rfl) fun _ =>
        Emits.ite (Emits.removeFile env ⟨rfl, rfl⟩) (Emits.writeFile env ⟨rfl, rfl⟩))
        (Emits.pure _)
  have h₂ : ∀ y, Emits Still (jp₂ y) := fun _ =>
    Emits.bind (Emits.of_state fun _ _ => rfl) fun _ =>
      Emits.ite (Emits.bind (Emits.removeFile env ⟨rfl, rfl⟩) h₁)
        (Emits.bind (Emits.pure _) h₁)
  exact Emits.bind (Emits.of_state fun _ _ => rfl) fun _ =>
    Emits.ite (Emits.bind (Emits.removeFile env ⟨rfl, rfl⟩) h₂)
      (Emits.bind (Emits.pure _) h₂)

theorem vfEvent_emits (pfName device : List Char) : Emits Still (vfEvent env pfName device) := by
  unfold vfEvent
  refine Emits.bind Emits.get fun _ => ?_
  split
  · exact Emits.pure _
  · exact Emits.bind (Emits.listdir env _) fun _ =>
      Emits.ite (Emits.bind (Emits.modify fun _ => rfl) fun _ => Emits.pure _) (Emits.pure _)

theorem waitLoop_emits (pfName : List Char) (numvfs : Int) :
    ∀ vfCount queue, Emits Still (waitLoop env pfName numvfs vfCount queue)
  | _, [] => by
    rw [waitLoop]
    exact Emits.ite
      (Emits.bind (Emits.modify_record (fun _ => rfl) ⟨rfl, rfl⟩) fun _ => Emits.pure _)
      (Emits.pure _)
  | _, _ :: rest => by
    rw [waitLoop]
    exact Emits.ite (Emits.bind (Emits.modify_record (fun _ => rfl) ⟨rfl, rfl⟩) fun _ =>
      Emits.bind (vfEvent_emits env _ _) fun _ => waitLoop_emits pfName numvfs _ rest) (Emits.pure _)

theorem setNumvfs_emits (ifname : List Char) (numvfs : Int) :
    EmitsM (fun e => Still e ∨ e = .writeNumvfs ifname numvfs) (setNumvfs env ifname numvfs) := by
  unfold setNumvfs waitForVfCreation
  refine EmitsM.bind (EmitsM.liftSys ((getNumvfs_emits env ifname).mono fun _ => .inl)) fun _ =>
    EmitsM.ite (EmitsM.ite (EmitsM.pure _) ?_) (EmitsM.pure _)
  refine EmitsM.bind (EmitsM.tryCatch (EmitsM.writeNumvfs env (.inr rfl)) fun _ => EmitsM.throw _)
    fun _ => EmitsM.bind (EmitsM.liftSys
      ((Emits.bind Emits.get fun _ => waitLoop_emits env _ _ _ _).mono fun _ => .inl)) fun _ =>
      EmitsM.bind (EmitsM.liftSys ((getNumvfs_emits env ifname).mono fun _ => .inl)) fun _ =>
        EmitsM.ite (EmitsM.throw _) (EmitsM.pure _)

theorem preparePf_emits (p : PfItem) : Emits Still (preparePf env p) := by
  unfold preparePf
  refine Emits.bind (pfInterfaceUp_emits env p) fun _ => ?_
  lift_lets
  intro jp
  have hjp : ∀ y, Emits Still (jp y) := fun _ =>
    Emits.ite (configureSwitchdev_emits env _) (Emits.pure _)
  exact Emits.ite (Emits.ite (Emits.bind (addUdevRule_emits env _ _ _) fun _ =>
    Emits.bind (Emits.pure _) hjp) (Emits.bind (Emits.pure _) hjp)) (Emits.bind (Emits.pure _) hjp)

theorem configureVfPcis_emits (vdpa : Bool) (vdpaDevices : Option (List (List Char)))
    (vfPcisList : List (List Char)) :
    Emits Still (configureVfPcis env vdpa vdpaDevices vfPcisList) := by
  unfold configureVfPcis
  refine Emits.forM _ fun _ _ => Emits.ite (driverUnbind_emits env _) ?_
  split
  · exact Emits.throw _
  · exact Emits.ite (configureVdpaVhostDevice_emits env _) (Emits.pure _)

theorem finishPf_emits (executionFromCli : Bool) (vdpaDevices : Option (List (List Char)))
    (p : PfItem) (acc : PfLoop) : Emits Still (finishPf env executionFromCli vdpaDevices p acc) := by
  unfold finishPf
  lift_lets
  intro vdpa jp₁
  have h₁ : ∀ a, Emits Still (jp₁ a) := fun _ =>
    Emits.ite (Emits.bind (ifUpInterface_emits env _) fun _ => Emits.pure _)
      (Emits.bind (Emits.pure _) fun _ => Emits.pure _)
  refine Emits.ite (Emits.bind (getVfPcisList_emits env _) fun _ => ?_) (Emits.pure _)
  lift_lets
  intro jp₂
  have h₂ : ∀ y, Emits Still (jp₂ y) := fun _ =>
    Emits.bind (addUdevRule_emits env _ _ _) fun _ =>
      Emits.bind (addUdevRuleForSriovPf_emits env _) fun _ =>
        Emits.bind (addUdevRuleForVfRepresentors_emits env _) fun _ =>
          Emits.ite (Emits.bind (configureFlowSteering_emits env _ _) fun _ =>
              Emits.bind (configureSwitchdev_emits env _) fun _ => Emits.bind (Emits.pure _) h₁)
            (Emits.bind (addUdevRuleForVdpaRepresentors_emits env) fun _ =>
              Emits.bind (Emits.pure _) h₁)
  exact Emits.bind (configureVfPcis_emits env _ _ _) fun _ =>
    Emits.ite (Emits.bind (Emits.callHelper env ⟨rfl, rfl⟩) h₂) (Emits.bind (Emits.pure _) h₂)

theorem configurePfItem_emits (executionFromCli : Bool) (vdpaDevices : Option (List (List Char)))
    (acc : PfLoop) (item : SriovItem) :
    EmitsM Quiet (configurePfItem env executionFromCli vdpaDevices acc item) := by
  cases item with
  | vf _ => exact EmitsM.pure _
  | pf p =>
    exact EmitsM.bind (EmitsM.liftSys ((pfConfigureStatus_emits env p).mono fun _ h => h.1))
      fun _ =>
      EmitsM.ite (EmitsM.pure _)
        (EmitsM.bind (EmitsM.liftSys ((preparePf_emits env p).mono fun _ h => h.1)) fun _ =>
          EmitsM.bind ((setNumvfs_emits env _ _).mono fun _ h => h.elim And.left fun h => h ▸ rfl)
            fun _ => EmitsM.liftSys ((finishPf_emits env _ _ _ _).mono fun _ h => h.1))

theorem udevMonitorStart_appends : Appends (· = [.monitorStart]) (udevMonitorStart env) :=
  Appends.bind_nil (Appends.perform env _ _) fun _ => Emits.modify fun _ => rfl

theorem beforePfLoop_appends :
    Appends (fun l => ∃ l', l = .monitorStart :: l' ∧ ∀ e ∈ l', Still e) (beforePfLoop env) :=
  Appends.bind (udevMonitorStart_appends env) (fun _ =>
      Emits.bind (cleanupPuppetConfig_emits env) fun _ => Emits.ite
        (Emits.bind (Emits.callHelper env ⟨rfl, rfl⟩) fun _ => (getVdpaVhostDevices_emits env).map)
        (Emits.pure _))
    (fun _ l₂ h₁ h₂ => ⟨l₂, by rw [h₁]; rfl, h₂⟩) fun _ h => ⟨[], h, by simp⟩

end Loop

/-! ### After the loop -/

/-- An action after the loop that neither touches the VFs nor triggers udev. -/
def Calm (e : Effect) : Prop := touchesVfs e = false ∧ isTrigger e = false

/-- What may follow the loop: no VF is touched, and udev is triggered at most once. -/
def AfterLoop (l : List Effect) : Prop := (∀ e ∈ l, touchesVfs e = false) ∧ l.countP isTrigger ≤ 1

section After
variable {l₁ l₂ : List Effect}

theorem countP_isTrigger_of_calm (h : ∀ e ∈ l₁, Calm e) : l₁.countP isTrigger = 0 :=
  List.countP_eq_zero.mpr fun e he => by simp [(h e he).2]

theorem AfterLoop.calm_append (h₁ : ∀ e ∈ l₁, Calm e) (h₂ : AfterLoop l₂) : AfterLoop (l₁ ++ l₂) :=
  ⟨List.forall_mem_append.mpr ⟨fun e he => (h₁ e he).1, h₂.1⟩, by
    rw [List.countP_append, countP_isTrigger_of_calm h₁, Nat.zero_add]
    exact h₂.2⟩

theorem AfterLoop.append_calm (h₁ : AfterLoop l₁) (h₂ : ∀ e ∈ l₂, Calm e) : AfterLoop (l₁ ++ l₂) :=
  ⟨List.forall_mem_append.mpr ⟨h₁.1, fun e he => (h₂ e he).1⟩, by
    rw [List.countP_append, countP_isTrigger_of_calm h₂]
    exact h₁.2⟩

theorem AfterLoop.of_calm (h : ∀ e ∈ l₁, Calm e) : AfterLoop l₁ :=
  ⟨fun e he => (h e he).1, (countP_isTrigger_of_calm h).trans_le (Nat.zero_le 1)⟩

theorem AfterLoop.trigger_append (h₂ : ∀ e ∈ l₂, Calm e) :
    AfterLoop (.execute triggerArgv :: l₂) := by
  refine ⟨List.forall_mem_cons.mpr ⟨rfl, fun e he => (h₂ e he).1⟩, ?_⟩
  rw [List.countP_cons, countP_isTrigger_of_calm h₂]
  decide

variable (env : Env) {α : Type} {x : SysM α} {f : α → SysM Unit}

theorem Appends.calm_bind (hx : Emits Calm x) (hf : ∀ a, Appends AfterLoop (f a)) :
    Appends AfterLoop (x >>= f) :=
  Appends.bind hx hf (fun _ _ => AfterLoop.calm_append) fun _ => AfterLoop.of_calm

theorem restartOvsAndPfsNetdevs_emits : Emits Calm (restartOvsAndPfsNetdevs env) := by
  unfold restartOvsAndPfsNetdevs ifDownInterface ifUpInterface
  refine Emits.bind (Emits.execute env ⟨rfl, rfl⟩) fun _ => Emits.forM _ fun _ _ => ?_
  split
  · exact Emits.bind (Emits.bind (Emits.execute env ⟨rfl, rfl⟩) fun _ => Emits.pure _) fun _ =>
      Emits.bind (Emits.execute env ⟨rfl, rfl⟩) fun _ => Emits.pure _
  · exact Emits.pure _

theorem afterPfLoop_appends (executionFromCli restartOpenvswitch : Bool) (acc : PfLoop) :
    Appends AfterLoop (afterPfLoop env executionFromCli restartOpenvswitch acc) := by
  unfold afterPfLoop udevMonitorStop triggerUdevRules
  lift_lets
  intro jp₁ jp₂
  have h₁ : ∀ y, Emits Calm (jp₁ y) := fun _ =>
    Emits.bind (Emits.bind (Emits.perform env ⟨rfl, rfl⟩) fun _ => Emits.modify fun _ => rfl) fun _ =>
      Emits.ite (restartOvsAndPfsNetdevs_emits env) (Emits.pure _)
  have h₂ : ∀ y, Appends AfterLoop (jp₂ y) := fun _ =>
    Appends.ite (Appends.bind (Appends.bind_nil (Appends.execute env triggerArgv) fun _ => Emits.pure _) h₁
        (fun _ _ h₁ h₂ => by rw [h₁]; exact AfterLoop.trigger_append h₂)
        fun _ h => by rw [h]; exact AfterLoop.trigger_append (List.forall_mem_nil _))
      (Appends.calm_bind (Emits.pure _) fun a => Appends.mono (h₁ a) fun _ => AfterLoop.of_calm)
  refine Appends.ite ?_ (Appends.calm_bind (Emits.pure _) h₂)
  split
  · exact Appends.calm_bind (Emits.throw _) h₂
  · exact Appends.ite (Appends.ite (Appends.calm_bind (Emits.callHelper env ⟨rfl, rfl⟩) h₂)
      (Appends.calm_bind (Emits.callHelper env ⟨rfl, rfl⟩) fun _ =>
        Appends.calm_bind (Emits.callHelper env ⟨rfl, rfl⟩) h₂)) (Appends.calm_bind (Emits.pure _) h₂)

end After

/-! ### The whole run -/

/-- Quiet actions, then what may follow the loop. -/
def QuietThenAfter (l : List Effect) : Prop :=
  ∃ l₁ l₂, l = l₁ ++ l₂ ∧ (∀ e ∈ l₁, Quiet e) ∧ AfterLoop l₂

theorem QuietThenAfter.quiet_append {l₁ l₂ : List Effect} (h₁ : ∀ e ∈ l₁, Quiet e)
    (h₂ : QuietThenAfter l₂) : QuietThenAfter (l₁ ++ l₂) :=
  let ⟨q, a, hl, hq, ha⟩ := h₂
  ⟨l₁ ++ q, a, by rw [hl, List.append_assoc], List.forall_mem_append.mpr ⟨h₁, hq⟩, ha⟩

theorem QuietThenAfter.append_calm {l₁ l₂ : List Effect} (h₁ : QuietThenAfter l₁)
    (h₂ : ∀ e ∈ l₂, Calm e) : QuietThenAfter (l₁ ++ l₂) :=
  let ⟨q, a, hl, hq, ha⟩ := h₁
  ⟨q, a ++ l₂, by rw [hl, List.append_assoc], hq, ha.append_calm h₂⟩

theorem QuietThenAfter.of_quiet {l : List Effect} (h : ∀ e ∈ l, Quiet e) : QuietThenAfter l :=
  ⟨l, [], (List.append_nil l).symm, h, by simp [AfterLoop]⟩

theorem configureSriovPf_appends (env : Env) (executionFromCli restartOpenvswitch : Bool) :
    AppendsM (fun l => ∃ l', l = .monitorStart :: l' ∧ QuietThenAfter l')
      (configureSriovPf env executionFromCli restartOpenvswitch) :=
  AppendsM.bind (AppendsM.liftSys (beforePfLoop_appends env)) (fun _ =>
      AppendsM.bind (EmitsM.foldlM _ _ fun acc item _ => configurePfItem_emits env _ _ acc item)
        (fun acc => AppendsM.liftSys (afterPfLoop_appends env _ _ acc))
        (fun l₁ l₂ h₁ h₂ => ⟨l₁, l₂, rfl, h₁, h₂⟩) fun _ => QuietThenAfter.of_quiet)
    (fun _ _ ⟨l', hl, hq⟩ hr =>
      ⟨l' ++ _, by rw [hl]; rfl, hr.quiet_append fun e he => (hq e he).1⟩)
    fun _ ⟨l', hl, hq⟩ => ⟨l', hl, QuietThenAfter.of_quiet fun e he => (hq e he).1⟩

/-- Over every sriov map and every run of `configure_sriov_pf`, however it ends: its first action
starts the udev observer; every write of a VF count and every wait on `vf_queue` comes before
anything stops the observer or triggers udev; and udev is triggered at most once. -/
theorem configureSriovPf_observes_vf_writes (env : Env) (executionFromCli restartOpenvswitch : Bool)
    (w : World) :
    ∃ l₁ l₂, ((configureSriovPf env executionFromCli restartOpenvswitch).run w).state.sys.trace =
        w.sys.trace ++ .monitorStart :: (l₁ ++ l₂) ∧
      (∀ e ∈ l₁, stopsOrTriggers e = false) ∧ (∀ e ∈ l₂, touchesVfs e = false) ∧
      l₂.countP isTrigger ≤ 1 := by
  obtain ⟨_, hl, _, rfl, l₁, l₂, rfl, hq, ha⟩ :=
    configureSriovPf_appends env executionFromCli restartOpenvswitch w
  exact ⟨l₁, l₂, hl, hq, ha⟩

section Vf
variable (env : Env)

theorem runIpConfigCmdSafe_emits {Q : Effect → Prop} (raiseError : Bool) {cmd : List (List Char)}
    (h : Q (.execute cmd)) : Emits Q (runIpConfigCmdSafe env raiseError cmd) := by
  refine Emits.tryCatch (runIpConfigCmd_emits env h) fun _ => ?_
  split
  · exact Emits.ite (Emits.throw _) (Emits.pure _)
  · exact Emits.throw _

theorem VfCall.run_emits {Q : Effect → Prop} (k : VfCall) (h : Q k.effect) : Emits Q (k.run env) := by
  cases k with
  | cmd argv => exact runIpConfigCmd_emits env h
  | safe raiseError argv => exact runIpConfigCmdSafe_emits env raiseError h
  | driverctl pciAddress driver => exact Emits.callHelper env h

theorem calm_of_mem_vfCalls {v : VfItem} {k : VfCall} (hk : k ∈ vfCalls v) : Calm k.effect := by
  simp only [vfCalls, List.mem_append, Option.mem_toList, Option.mem_def, Option.map_eq_some',
    or_assoc] at hk
  rcases hk with ⟨_, _, rfl⟩ | ⟨_, _, rfl⟩ | ⟨_, _, rfl⟩ | ⟨_, _, rfl⟩ | ⟨_, _, rfl⟩ | ⟨_, _, rfl⟩ |
    ⟨_, _, rfl⟩ | ⟨_, _, rfl⟩ | ⟨_, _, rfl⟩ <;> exact ⟨rfl, rfl⟩

theorem configureSriovVf_emits : Emits Calm (configureSriovVf env) := by
  rw [configureSriovVf_eq]
  refine Emits.forM _ fun k hk => VfCall.run_emits env k ?_
  obtain ⟨item, -, hk⟩ := List.mem_flatMap.mp hk
  cases item with
  | vf v => exact calm_of_mem_vfCalls hk
  | pf _ => cases hk

end Vf

theorem main_appends (env : Env) (opts : Opts) {P : List Effect → Prop}
    (h : AppendsM P (mainMode env opts)) : AppendsM P (main env opts) := fun w =>
  let ⟨l, hl, hp⟩ := h ⟨w.kernel, w.sys.appendTo env.logFile []⟩
  ⟨l, by rw [main_run, EStateM.Result.state_mapState]; exact hl, hp⟩

/-- Over every sriov map and every run of `main` without `--numvfs`, however it ends: the same
order as in `configure_sriov_pf`, with the VF settings of `configure_sriov_vf` after it. -/
theorem main_observes_vf_writes (env : Env) (opts : Opts) (hn : opts.numvfs = []) (w : World) :
    ∃ l₁ l₂, ((main env opts).run w).state.sys.trace = w.sys.trace ++ .monitorStart :: (l₁ ++ l₂) ∧
      (∀ e ∈ l₁, stopsOrTriggers e = false) ∧ (∀ e ∈ l₂, touchesVfs e = false) ∧
      l₂.countP isTrigger ≤ 1 := by
  have h : AppendsM (fun l => ∃ l', l = .monitorStart :: l' ∧ QuietThenAfter l') (main env opts) := by
    refine main_appends env opts ?_
    unfold mainMode
    rw [if_neg (not_not.mpr hn)]
    exact AppendsM.bind (configureSriovPf_appends env false false)
      (fun _ => EmitsM.bind (EmitsM.liftSys (configureSriovVf_emits env)) fun _ => EmitsM.pure _)
      (fun _ _ ⟨l', hl, hr⟩ hc => ⟨l' ++ _, by rw [hl]; rfl, hr.append_calm hc⟩) fun _ h => h
  obtain ⟨_, hl, _, rfl, l₁, l₂, rfl, hq, ha⟩ := h w
  exact ⟨l₁, l₂, hl, hq, ha⟩

theorem main_observes_vf_writes_on_boot :
    (⟨false, false, []⟩ : Opts).numvfs = [] ∧
    ∃ l₁ l₂, ((main quietEnv ⟨false, false, []⟩).run World.initial).state.sys.trace =
        World.initial.sys.trace ++ .monitorStart :: (l₁ ++ l₂) ∧
      (∀ e ∈ l₁, stopsOrTriggers e = false) ∧ (∀ e ∈ l₂, touchesVfs e = false) ∧
      l₂.countP isTrigger ≤ 1 :=
  ⟨rfl, main_observes_vf_writes quietEnv ⟨false, false, []⟩ rfl World.initial⟩

end SriovConfig.Observer
