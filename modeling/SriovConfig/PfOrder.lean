import SriovConfig.Observer
import Mathlib.Data.List.Infix

/-! The actions for one PF in `configure_sriov_pf`. The PF is brought up before its count is
written, and a vDPA Mellanox PF goes through `configure_switchdev` (the switchdev mode, the wait
for the uplink representor, the hardware TC offload) before it: over every map and every run, each
write of a VF count comes after these actions, taken for an entry that asks for it. Then the loop
over the VFs of a switchdev PF creates the vDPA devices that `vdpa dev` does not list yet, or
unbinds the driver of the DPDK VFs. -/
set_option autoImplicit false

namespace SriovConfig.PfOrder
open System Trace Numvfs Commands UdevFiles ConfigurePf Observer

/-- `ip link set dev <name> up`, as `_pf_interface_up` runs it. -/
def ipUpArgv (name : List Char) : List (List Char) :=
  ["ip".toList, "link".toList, "set".toList, "dev".toList, name, "up".toList]

/-- `devlink dev eswitch set pci/<pci> mode switchdev`. -/
def switchdevArgv (pfPci : List Char) : List (List Char) :=
  ["/usr/sbin/devlink".toList, "dev".toList, "eswitch".toList, "set".toList,
    "pci/".toList ++ pfPci, "mode".toList, "switchdev".toList]

/-- `ethtool -K <pf> hw-tc-offload on`. -/
def hwTcOffloadArgv (pfName : List Char) : List (List Char) :=
  ["/usr/sbin/ethtool".toList, "-K".toList, pfName, "hw-tc-offload".toList, "on".toList]

/-- The actions of a `configure_switchdev(pf_name)` that returned: the switchdev mode of the PF's
PCI device, the sleeps of the wait for the uplink representor, then the offload on the PF. -/
def SwitchdevDone (pfName : List Char) (l : List Effect) : Prop :=
  ∃ pfPci k, .execute (switchdevArgv pfPci) ::
    (List.replicate k (.sleep 1) ++ [.execute (hwTcOffloadArgv pfName)]) <:+: l

/-- What comes before a write of `n` to the count of `q`: an entry of the map asks for it, the PF
was brought up, and a vDPA Mellanox PF went through `configure_switchdev`. -/
def Prepared (env : Env) (q : List Char) (n : Int) (pre : List Effect) : Prop :=
  ∃ p, SriovItem.pf p ∈ env.sriovMap ∧ p.name = q ∧ p.numvfs = n ∧
    .execute (ipUpArgv q) ∈ pre ∧ (p.vdpa = true → env.isMellanox q = true → SwitchdevDone q pre)

/-- Every write of a VF count in `l` comes after its preparation. -/
def WritesPrepared (env : Env) (l : List Effect) : Prop :=
  Preceded (fun e pre => ∀ q n, e = .writeNumvfs q n → Prepared env q n pre) l

section Invariant
variable {env : Env} {q : List Char} {n : Int} {l l' : List Effect}

theorem SwitchdevDone.append_right {pfName : List Char} (h : SwitchdevDone pfName l) :
    SwitchdevDone pfName (l ++ l') :=
  let ⟨pfPci, k, hk⟩ := h
  ⟨pfPci, k, hk.trans (List.prefix_append l l').isInfix⟩

theorem SwitchdevDone.append_left {pfName : List Char} (h : SwitchdevDone pfName l') :
    SwitchdevDone pfName (l ++ l') :=
  let ⟨pfPci, k, hk⟩ := h
  ⟨pfPci, k, hk.trans (List.suffix_append l l').isInfix⟩

theorem Prepared.append (h : Prepared env q n l) : Prepared env q n (l ++ l') :=
  let ⟨p, hp, hq, hn, hup, hsw⟩ := h
  ⟨p, hp, hq, hn, List.mem_append_left _ hup, fun hv hm => (hsw hv hm).append_right⟩

theorem writesPrepared_nil : WritesPrepared env [] := preceded_nil

theorem WritesPrepared.append (h : WritesPrepared env l)
    (h' : ∀ q n, .writeNumvfs q n ∈ l' → Prepared env q n l) : WritesPrepared env (l ++ l') :=
  Preceded.append h (fun _ he q n hq => h' q n (hq ▸ he)) fun _ _ _ hp q n hq => (hp q n hq).append

theorem WritesPrepared.append_still (h : WritesPrepared env l) (h' : ∀ e ∈ l', isWrite e = false) :
    WritesPrepared env (l ++ l') :=
  h.append fun _ _ hw => Bool.noConfusion (h' _ hw)

end Invariant

/-! ### The preparation of a PF -/

section Prepare
variable (env : Env)

theorem runIpConfigCmd_appends (cmd : List (List Char)) :
    Appends (· = [.execute cmd]) (runIpConfigCmd env cmd) :=
  Appends.bind_nil (Appends.execute env cmd) fun _ => Emits.pure _

theorem pfInterfaceUp_appendsOk (p : PfItem) :
    AppendsOk (fun l => .execute (ipUpArgv p.name) ∈ l) (pfInterfaceUp env p) := by
  unfold pfInterfaceUp
  lift_lets
  intro jp
  have hjp : ∀ y, AppendsOk (fun l => .execute (ipUpArgv p.name) ∈ l) (jp y) := fun _ =>
    (AppendsOk.of_appends (runIpConfigCmd_appends env _)).mono fun _ h => h ▸ List.mem_singleton_self _
  split
  · exact AppendsOk.bind (AppendsOk.of_appends (runIpConfigCmd_appends env _)) hjp
      fun _ _ _ h => List.mem_append_right _ h
  · exact AppendsOk.bind (AppendsOk.of_appends (Emits.pure (Q := fun _ => True) _)) hjp
      fun _ _ _ h => List.mem_append_right _ h

theorem waitForUplinkRepCreation_appendsOk (pfName : List Char) :
    AppendsOk (fun l => ∃ k, l = List.replicate k (.sleep 1)) (waitForUplinkRepCreation env pfName) :=
  fun c s => by
    obtain ⟨k, -, s', hrun, htrace, -⟩ := uplinkRepReady_run env
      ("/sys/class/net/".toList ++ pfName ++ "/phys_switch_id".toList) c maxRetries s
    simp only [waitForUplinkRepCreation, sysM_bind, hrun, EStateM.Result.andThen_ok]
    split
    · exact ⟨_, htrace, k, rfl⟩
    · trivial

theorem configureSwitchdev_appendsOk (pfName : List Char) :
    AppendsOk (SwitchdevDone pfName) (configureSwitchdev env pfName) := by
  unfold configureSwitchdev
  refine AppendsOk.bind (R := SwitchdevDone pfName)
    (AppendsOk.of_appends (getPfPci_emits (Q := fun _ => True) env pfName))
    (fun pfPci => ?_) fun _ _ _ h => h.append_left
  refine AppendsOk.bind (R := SwitchdevDone pfName)
    (AppendsOk.of_appends (getPfDeviceId_emits (Q := fun _ => True) env pfName))
    (fun _ => ?_) fun _ _ _ h => h.append_left
  lift_lets
  intro jp
  have hjp : ∀ y, AppendsOk (SwitchdevDone pfName) (jp y) := fun _ =>
    AppendsOk.bind (AppendsOk.of_appends (Appends.execute env (switchdevArgv pfPci))) (fun _ =>
      AppendsOk.bind (S := fun l => ∃ k, l = List.replicate k (.sleep 1) ++
          [.execute (hwTcOffloadArgv pfName)]) (waitForUplinkRepCreation_appendsOk env pfName)
        (fun _ => AppendsOk.bind (S := (· = [.execute (hwTcOffloadArgv pfName)]))
          (AppendsOk.of_appends (Appends.execute env (hwTcOffloadArgv pfName)))
          (fun _ => AppendsOk.of_appends (Emits.pure (Q := fun _ => False) _))
          fun _ _ h₁ h₂ => by rw [h₁, List.eq_nil_iff_forall_not_mem.mpr h₂, List.append_nil])
        fun _ _ ⟨k, h₁⟩ h₂ => ⟨k, by rw [h₁, h₂]⟩)
      fun _ _ h₁ ⟨k, h₂⟩ => ⟨pfPci, k, by rw [h₁, h₂]; exact List.infix_refl _⟩
  exact AppendsOk.ite
    (fun _ => AppendsOk.bind (AppendsOk.of_appends (Appends.execute env _)) (fun _ =>
      AppendsOk.bind (AppendsOk.of_appends (Emits.pure (Q := fun _ => True) _)) hjp
        fun _ _ _ h => h.append_left) fun _ _ _ h => h.append_left)
    fun _ => AppendsOk.bind (AppendsOk.of_appends (Emits.pure (Q := fun _ => True) _)) hjp
      fun _ _ _ h => h.append_left

/-- What `preparePf` that returns did for the PF: brought it up, and moved a vDPA Mellanox PF to
switchdev. -/
def PreparedPf (p : PfItem) (l : List Effect) : Prop :=
  .execute (ipUpArgv p.name) ∈ l ∧
    (p.vdpa = true → env.isMellanox p.name = true → SwitchdevDone p.name l)

theorem preparePf_appendsOk (p : PfItem) : AppendsOk (PreparedPf env p) (preparePf env p) := by
  unfold preparePf
  refine AppendsOk.bind (R := fun l => p.vdpa = true → env.isMellanox p.name = true →
      SwitchdevDone p.name l) (pfInterfaceUp_appendsOk env p) (fun _ => ?_)
    fun _ _ hup hsw => ⟨List.mem_append_left _ hup, fun hv hm => (hsw hv hm).append_left⟩
  lift_lets
  intro jp
  have hjp : ∀ y, AppendsOk (fun l => p.vdpa = true → env.isMellanox p.name = true →
      SwitchdevDone p.name l) (jp y) := fun _ =>
    AppendsOk.ite (fun _ => (configureSwitchdev_appendsOk env p.name).mono fun _ h _ _ => h)
      fun hn => AppendsOk.of_appends (Emits.pure (Q := fun _ => True) _) |>.mono
        fun _ _ hv hm => absurd ⟨hv, hm⟩ hn
  have hpure : AppendsOk (fun l => p.vdpa = true → env.isMellanox p.name = true →
      SwitchdevDone p.name l) (pure PUnit.unit >>= jp) :=
    AppendsOk.bind (AppendsOk.of_appends (Emits.pure (Q := fun _ => True) _)) hjp
      fun _ _ _ h hv hm => (h hv hm).append_left
  refine AppendsOk.ite (fun _ => AppendsOk.ite (fun _ => ?_) fun _ => hpure) fun _ => hpure
  exact AppendsOk.bind (AppendsOk.of_appends (addUdevRule_emits env _ _ _)) (fun _ => hpure)
    fun _ _ _ h hv hm => (h hv hm).append_left

theorem PreparedPf.append_left {p : PfItem} {l l' : List Effect} (h : PreparedPf env p l') :
    PreparedPf env p (l ++ l') :=
  ⟨List.mem_append_right _ h.1, fun hv hm => (h.2 hv hm).append_left⟩

end Prepare

/-! ### Every write of a run -/

theorem isWrite_eq_false_of_touchesVfs {e : Effect} (h : touchesVfs e = false) : isWrite e = false := by
  cases e <;> first | rfl | exact h

section Run
variable (env : Env) (t₀ : List Effect)

theorem Triple.noWrite {α : Type} {x : M α} (h : EmitsM (fun e => isWrite e = false) x) :
    Triple (Since t₀ (WritesPrepared env)) x (fun _ => Since t₀ (WritesPrepared env))
      (Since t₀ (WritesPrepared env)) :=
  Triple.since_emitsM h fun _ _ hp hs => hp.append_still hs

theorem Triple.still {α : Type} {x : SysM α} (h : Emits Still x) :
    Triple (Since t₀ (WritesPrepared env)) (liftSys x) (fun _ => Since t₀ (WritesPrepared env))
      (Since t₀ (WritesPrepared env)) :=
  Triple.noWrite env t₀ (EmitsM.liftSys (h.mono fun _ h => h.2))

theorem configurePfItem_prepared (executionFromCli : Bool) (vdpaDevices : Option (List (List Char)))
    (acc : PfLoop) (item : SriovItem) (hi : item ∈ env.sriovMap) :
    Triple (Since t₀ (WritesPrepared env))
      (configurePfItem env executionFromCli vdpaDevices acc item)
      (fun _ => Since t₀ (WritesPrepared env)) (Since t₀ (WritesPrepared env)) := by
  cases item with
  | vf _ => exact Triple.pure fun _ h => h
  | pf p =>
    simp only [configurePfItem]
    refine (Triple.still env t₀ (pfConfigureStatus_emits env p)).bind fun _ => ?_
    split
    · exact Triple.pure fun _ h => h
    · refine (Triple.since_liftSys (S := fun l => WritesPrepared env l ∧ PreparedPf env p l)
        (preparePf_emits env p) (preparePf_appendsOk env p)
        (fun _ _ hp hs => hp.append_still fun e he => (hs e he).2)
        fun _ _ hp hs hr => ⟨hp.append_still fun e he => (hs e he).2, hr.append_left⟩).bind
        fun _ => (Triple.since_emitsM (setNumvfs_emits env p.name p.numvfs)
          fun _ _ ⟨hp, hprep⟩ hs => hp.append fun q n hw => ?_).bind
        fun _ => Triple.still env t₀ (finishPf_emits env _ _ _ _)
      rcases hs _ hw with hst | heq
      · exact Bool.noConfusion hst.2
      · obtain ⟨rfl, rfl⟩ := Effect.writeNumvfs.inj heq
        exact ⟨p, hi, rfl, rfl, hprep.1, hprep.2⟩

/-- A run of `configure_sriov_pf` keeps every write since `t₀` prepared. -/
theorem configureSriovPf_prepared (executionFromCli restartOpenvswitch : Bool) :
    Triple (Since t₀ (WritesPrepared env))
      (configureSriovPf env executionFromCli restartOpenvswitch)
      (fun _ => Since t₀ (WritesPrepared env)) (Since t₀ (WritesPrepared env)) :=
  (Triple.noWrite env t₀ (AppendsM.liftSys ((beforePfLoop_appends env).mono
      fun _ ⟨_, hl, hs⟩ e he => by
        rw [hl] at he
        rcases List.mem_cons.mp he with rfl | he
        exacts [rfl, (hs e he).2]))).bind fun _ =>
    Triple.bind (Triple.foldlM _ _ fun acc item hi =>
        configurePfItem_prepared env t₀ executionFromCli _ acc item hi) fun acc =>
      Triple.noWrite env t₀ (AppendsM.liftSys ((afterPfLoop_appends env _ _ acc).mono
        fun _ ha e he => isWrite_eq_false_of_touchesVfs (ha.1 e he)))

end Run

/-- Over every sriov map and every run of `configure_sriov_pf`, however it ends, each write of a
VF count is one an entry of the map asks for, and comes after that PF was brought up with
`ip link set dev <pf> up`; for a vDPA Mellanox PF it also comes after its `configure_switchdev`:
the switchdev mode, the wait for the uplink representor and the hardware TC offload. -/
theorem configure_sriov_pf_prepares_pf_before_count (env : Env)
    (executionFromCli restartOpenvswitch : Bool) (w : World) :
    ∃ l, ((configureSriovPf env executionFromCli restartOpenvswitch).run w).state.sys.trace =
        w.sys.trace ++ l ∧
      ∀ pre q n post, l = pre ++ .writeNumvfs q n :: post → Prepared env q n pre :=
  (configureSriovPf_prepared env w.sys.trace executionFromCli restartOpenvswitch).state
    (R := fun w' => ∃ l, w'.sys.trace = w.sys.trace ++ l ∧ WritesPrepared env l)
    ⟨[], (List.append_nil _).symm, writesPrepared_nil⟩ (fun _ _ h => h) (fun _ h => h)
    |>.imp fun _ ⟨hl, hp⟩ => ⟨hl, fun pre _ _ post he => hp pre _ post he _ _ rfl⟩

/-! ### The VFs of a switchdev PF -/

section VfLoop
variable (env : Env)

/-- `vdpa dev add name <pci> mgmtdev pci/<pci>`, as `configure_vdpa_vhost_device` runs it. -/
def vdpaDevAddArgv (pci : List Char) : List (List Char) :=
  ["vdpa".toList, "dev".toList, "add".toList, "name".toList, pci, "mgmtdev".toList,
    "pci/".toList ++ pci]

theorem driverUnbind_appends (dev : List Char) :
    Appends (fun l => l = [] ∨ l = [.writeFile mlnxUnbindFilePath dev]) (driverUnbind env dev) := by
  unfold driverUnbind
  refine Appends.bind (R := fun l => l = [] ∨ l = [.writeFile mlnxUnbindFilePath dev])
    (Appends.of_state fun _ _ => rfl) (fun _ => Appends.ite (Appends.mono (Appends.perform env _ _)
      fun _ => .inr) (Appends.mono (Appends.of_state fun _ _ => rfl) fun _ => .inl))
    (fun _ _ h₁ h₂ => by rwa [h₁]) fun _ => .inl

theorem configureVfPcis_dpdk (vdpaDevices : Option (List (List Char))) :
    ∀ vfPcisList : List (List Char),
      Appends (·.Sublist (vfPcisList.map fun pci => .writeFile mlnxUnbindFilePath pci))
        (configureVfPcis env false vdpaDevices vfPcisList)
  | [] => Appends.mono (Appends.of_state fun _ _ => rfl) fun _ h => h ▸ List.Sublist.slnil
  | pci :: rest => by
    unfold configureVfPcis
    rw [List.forM_cons']
    exact Appends.bind (driverUnbind_appends env pci) (fun _ => configureVfPcis_dpdk vdpaDevices rest)
      (fun l₁ l₂ h₁ h₂ => by rcases h₁ with rfl | rfl; exacts [h₂.cons _, h₂.cons₂ _])
      fun l h => by rcases h with rfl | rfl; exacts [List.nil_sublist _, (List.nil_sublist _).cons₂ _]

theorem configureVfPcis_vdpa (devices : List (List Char)) (vfPcisList : List (List Char)) :
    Takes (vfPcisList.flatMap fun pci => if pci ∈ devices then [] else [.execute (vdpaDevAddArgv pci)])
      (configureVfPcis env true (some devices) vfPcisList) :=
  Takes.forM _ fun pci _ => Takes.ite (fun h => absurd h Bool.false_ne_true) fun _ => by
    show Takes _ (if pci ∉ devices then _ else _)
    split
    · exact Takes.pure _
    · have h := (Takes.execute env (vdpaDevAddArgv pci)).bind fun _ => Takes.pure ()
      rwa [List.append_nil] at h

end VfLoop

/-- The loop over the VFs of a switchdev Mellanox PF. For vDPA, every run runs
`vdpa dev add name <pci> mgmtdev pci/<pci>` for exactly the VFs that `vdpa dev` did not list, in
order, and stops at the first that fails; so a second run with the devices created adds none. For
DPDK, it writes the `mlx5_core` unbind file only with the VFs' own PCI addresses, in order and at
most once for each VF of the list. -/
theorem configure_vf_pcis_adds_missing_vdpa_devices (env : Env) (vfPcisList : List (List Char)) :
    (∀ devices, Takes (vfPcisList.flatMap fun pci =>
        if pci ∈ devices then [] else [.execute (vdpaDevAddArgv pci)])
      (configureVfPcis env true (some devices) vfPcisList)) ∧
    ∀ vdpaDevices, Appends (·.Sublist (vfPcisList.map fun pci => .writeFile mlnxUnbindFilePath pci))
      (configureVfPcis env false vdpaDevices vfPcisList) :=
  ⟨fun devices => configureVfPcis_vdpa env devices vfPcisList,
    fun vdpaDevices => configureVfPcis_dpdk env vdpaDevices vfPcisList⟩

end SriovConfig.PfOrder
