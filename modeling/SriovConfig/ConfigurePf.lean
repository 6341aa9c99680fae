import SriovConfig.UdevFiles

/-! `configure_sriov_pf`: the loop over the PFs of the sriov map, between the start and the stop
of the udev observer. Each PF is cut at its one call of `set_numvfs`: what comes before and after
it runs in `SysM` and cannot touch the VF counts. -/
set_option autoImplicit false

namespace SriovConfig.ConfigurePf
open PyText Rules System Commands UdevFiles Numvfs

/-- The variables the PF loop carries from one PF to the next. `vdpa` is unbound until a PF gets
to `vdpa = item.get('vdpa')`. -/
structure PfLoop where
  dpdkVfsPcisList : List (List Char)
  triggerUdevRule : Bool
  vdpa : Option Bool
deriving DecidableEq, Repr

/-- `item.get('vdpa')` on an entry of the map; VF entries have no `vdpa`. -/
def SriovItem.vdpa : SriovItem → Bool
  | .pf p => p.vdpa
  | .vf _ => false

section Defs
variable (env : Env)

/-- What the loop does for a PF before `set_numvfs`: bring it up, add its legacy rule, and move a
vDPA Mellanox PF to switchdev. -/
def preparePf (p : PfItem) : SysM Unit := do
  pfInterfaceUp env p
  if p.linkMode = some "legacy".toList then
    if !isPartitionedPf env.sriovMap p.name then
      let _ ← addUdevRuleForLegacySriovPf env p.name p.numvfs
  if p.vdpa ∧ env.isMellanox p.name then configureSwitchdev env p.name

/-- The loop over the VFs of a switchdev PF: unbind a DPDK VF's driver, or create a VF's vDPA
device unless `vdpa_devices` already has it. -/
def configureVfPcis (vdpa : Bool) (vdpaDevices : Option (List (List Char)))
    (vfPcisList : List (List Char)) : SysM Unit :=
  vfPcisList.forM fun vfPci =>
    if !vdpa then driverUnbind env vfPci
    else
      match vdpaDevices with
      | none => throw (.unbound "vdpa_devices".toList)
      | some devices => if vfPci ∉ devices then configureVdpaVhostDevice env vfPci else pure ()

/-- What the loop does for a PF after `set_numvfs`: a switchdev Mellanox PF gets its VFs set up,
its udev rules, and for DPDK its steering mode and switchdev mode. -/
def finishPf (executionFromCli : Bool) (vdpaDevices : Option (List (List Char))) (p : PfItem)
    (acc : PfLoop) : SysM PfLoop := do
  let vdpa := p.vdpa
  if p.linkMode = some "switchdev".toList ∧ env.isMellanox p.name then do
    let vfPcisList ← getVfPcisList env p.name
    configureVfPcis env vdpa vdpaDevices vfPcisList
    if vdpa then callHelper env (.restorecon "/dev/vhost-*".toList) "restorecon".toList
    let _ ← addUdevRuleToUnmanageVfRepresentorsByNm env
    let trigger := (← addUdevRuleForSriovPf env p.name) || acc.triggerUdevRule
    let trigger := (← addUdevRuleForVfRepresentors env p.name) || trigger
    let acc' ← if !vdpa then do
        configureFlowSteering env p.name (p.steeringMode.getD "smfs".toList)
        configureSwitchdev env p.name
        pure (PfLoop.mk (acc.dpdkVfsPcisList ++ vfPcisList) trigger (some vdpa))
      else do
        pure (PfLoop.mk acc.dpdkVfsPcisList ((← addUdevRuleForVdpaRepresentors env) || trigger)
          (some vdpa))
    if executionFromCli then ifUpInterface env p.name
    pure acc'
  else pure { acc with vdpa := some vdpa }

/-- One entry of the PF loop; a PF already at its count is skipped (`continue`). -/
def configurePfItem (executionFromCli : Bool) (vdpaDevices : Option (List (List Char)))
    (acc : PfLoop) : SriovItem → M PfLoop
  | .vf _ => pure acc
  | .pf p => do
    if ← liftSys (pfConfigureStatus env p) then pure acc
    else do
      liftSys (preparePf env p)
      let _ ← setNumvfs env p.name p.numvfs
      liftSys (finishPf env executionFromCli vdpaDevices p acc)

/-- What `configure_sriov_pf` does before the PF loop: start the observer, clean up puppet's
files, and load the vDPA modules when some entry asks for vDPA. -/
def beforePfLoop : SysM (Option (List (List Char))) := do
  udevMonitorStart env
  cleanupPuppetConfig env
  if env.sriovMap.any SriovItem.vdpa then do
    callHelper env (.loadKmods mlnx5VdpaKmods) "load_kmods".toList
    some <$> getVdpaVhostDevices env
  else pure none

/-- What `configure_sriov_pf` does after the PF loop: hand the DPDK VFs to `sriov_bind_config`,
trigger udev if a rule changed, stop the observer, and restart openvswitch if asked. -/
def afterPfLoop (executionFromCli restartOpenvswitch : Bool) (acc : PfLoop) : SysM Unit := do
  if acc.dpdkVfsPcisList ≠ [] then
    match acc.vdpa with
    | none => throw (.unbound "vdpa".toList)
    | some vdpa =>
      if !vdpa then
        if !executionFromCli then
          callHelper env (.updateSriovBindPcisMap mlnxDriver acc.dpdkVfsPcisList)
            "update_sriov_bind_pcis_map".toList
        else do
          callHelper env .configureSriovBindService "configure_sriov_bind_service".toList
          callHelper env (.bindVfs mlnxDriver acc.dpdkVfsPcisList) "bind_vfs".toList
  if acc.triggerUdevRule then triggerUdevRules env
  udevMonitorStop env
  if restartOpenvswitch then restartOvsAndPfsNetdevs env

/-- `configure_sriov_pf(execution_from_cli, restart_openvswitch)`. -/
def configureSriovPf (executionFromCli restartOpenvswitch : Bool) : M Unit := do
  let vdpaDevices ← liftSys (beforePfLoop env)
  let acc ← env.sriovMap.foldlM (configurePfItem env executionFromCli vdpaDevices) ⟨[], false, none⟩
  liftSys (afterPfLoop env executionFromCli restartOpenvswitch acc)

end Defs

/-! ### The writes to `sriov_numvfs` -/

/-- The counts the map asks for: the `numvfs` of a PF entry. -/
def mapAllows (sriovMap : List SriovItem) (pfName : List Char) (numvfs : Int) : Prop :=
  ∃ p, SriovItem.pf p ∈ sriovMap ∧ p.name = pfName ∧ p.numvfs = numvfs

section Writes
variable (env : Env) (k0 : Kernel)

theorem configurePfItem_runWrites (executionFromCli : Bool)
    (vdpaDevices : Option (List (List Char))) (acc : PfLoop) (item : SriovItem)
    (hi : item ∈ env.sriovMap) :
    Triple (fun w => RunWrites (mapAllows env.sriovMap) k0 true w.kernel)
      (configurePfItem env executionFromCli vdpaDevices acc item)
      (fun _ w => RunWrites (mapAllows env.sriovMap) k0 true w.kernel)
      (fun w => RunWrites (mapAllows env.sriovMap) k0 false w.kernel) := by
  cases item with
  | vf v => exact Triple.pure fun _ hw => hw
  | pf p =>
    refine (Triple.liftSys fun _ h => h.unsettle).bind fun b => ?_
    split
    · exact Triple.pure fun _ hw => hw
    · exact (Triple.liftSys fun _ h => h.unsettle).bind fun _ =>
        (setNumvfs_runWrites env ⟨p, hi, rfl, rfl⟩).bind fun _ => Triple.liftSys fun _ h => h.unsettle

theorem configureSriovPf_runWrites (executionFromCli restartOpenvswitch : Bool) :
    Triple (fun w => RunWrites (mapAllows env.sriovMap) k0 true w.kernel)
      (configureSriovPf env executionFromCli restartOpenvswitch)
      (fun _ w => RunWrites (mapAllows env.sriovMap) k0 true w.kernel)
      (fun w => RunWrites (mapAllows env.sriovMap) k0 false w.kernel) :=
  (Triple.liftSys fun _ h => h.unsettle).bind fun vdpaDevices =>
    (Triple.foldlM _ _ fun acc item hi =>
      configurePfItem_runWrites env k0 executionFromCli vdpaDevices acc item hi).bind fun _ =>
    Triple.liftSys fun _ h => h.unsettle

end Writes

/-! ### A host already configured

When every PF of the map is at its count, `pf_configure_status` skips every PF, so the loop
keeps its initial variables and the run reduces to the observer, the cleanup and the reads. -/

section Configured
variable (env : Env)

/-- What the PF loop does for an entry whose PF is at its count: read the count. -/
def skipItem : SriovItem → SysM Unit
  | .pf p => do let _ ← getNumvfs env p.name
  | .vf _ => pure ()

/-- `configure_sriov_pf` on a host where every PF of the map is at its count: the observer starts,
puppet's files are cleaned up, the vDPA modules are loaded if asked, each PF's count is read, the
observer stops and openvswitch restarts if asked. -/
def configuredRun (restartOpenvswitch : Bool) : SysM Unit := do
  let _ ← beforePfLoop env
  env.sriovMap.forM (skipItem env)
  udevMonitorStop env
  if restartOpenvswitch then restartOvsAndPfsNetdevs env

theorem afterPfLoop_initial (executionFromCli restartOpenvswitch : Bool) :
    afterPfLoop env executionFromCli restartOpenvswitch ⟨[], false, none⟩ = (do
      udevMonitorStop env
      if restartOpenvswitch then restartOvsAndPfsNetdevs env) := rfl

theorem configurePfItem_configured (executionFromCli : Bool)
    (vdpaDevices : Option (List (List Char))) (acc : PfLoop) (item : SriovItem) (w : World)
    (h : ∀ p, item = .pf p → w.kernel.numvfs p.name = p.numvfs) :
    (configurePfItem env executionFromCli vdpaDevices acc item).run w =
      ((liftSys (skipItem env item)).run w).mapValue fun _ => acc := by
  cases item with
  | vf v => rfl
  | pf p =>
    simp only [configurePfItem, skipItem, pfConfigureStatus, liftSys_bind, m_run_bind, liftSys_run]
    rcases h1 : getNumvfs env p.name w.kernel.numvfs w.sys with ⟨cur, s1⟩ | ⟨e, s1⟩
    · simp [getNumvfs_ok env h1, h p rfl]
    · rfl

theorem foldlM_configurePfItem_configured (executionFromCli : Bool)
    (vdpaDevices : Option (List (List Char))) :
    ∀ (l : List SriovItem) (acc : PfLoop) (w : World),
      (∀ p, SriovItem.pf p ∈ l → w.kernel.numvfs p.name = p.numvfs) →
      (l.foldlM (configurePfItem env executionFromCli vdpaDevices) acc).run w =
        ((liftSys (l.forM (skipItem env))).run w).mapValue fun _ => acc
  | [], _, _, _ => rfl
  | item :: l, acc, w, h => by
    rw [List.foldlM_cons, List.forM_cons', liftSys_bind, m_run_bind, m_run_bind,
      configurePfItem_configured env _ _ _ _ _ fun p hp => h p (hp ▸ List.mem_cons_self _ _)]
    have hk := liftSys_kernel (skipItem env item) w
    revert hk
    rcases (liftSys (skipItem env item)).run w with ⟨_, w1⟩ | ⟨_, w1⟩ <;> intro hk
    · exact foldlM_configurePfItem_configured executionFromCli vdpaDevices l acc w1 fun p hp => by
        rw [← h p (List.mem_cons_of_mem _ hp), ← hk]; rfl
    · rfl

end Configured

/-- On a host where every PF of the map is already at its count, `configure_sriov_pf` skips every
PF: it runs as the observer, the cleanup and the reads of the counts alone, so it writes no
`sriov_numvfs`, adds no udev rule, triggers no udev rule and hands no VF to
`sriov_bind_config`. -/
theorem configure_sriov_pf_skips_configured_pfs (env : Env) (executionFromCli restartOpenvswitch : Bool)
    (w : World) (h : ∀ p, SriovItem.pf p ∈ env.sriovMap → w.kernel.numvfs p.name = p.numvfs) :
    (configureSriovPf env executionFromCli restartOpenvswitch).run w =
      (liftSys (configuredRun env restartOpenvswitch)).run w := by
  simp only [configureSriovPf, configuredRun, liftSys_bind, m_run_bind]
  have hk := liftSys_kernel (beforePfLoop env) w
  revert hk
  rcases (liftSys (beforePfLoop env)).run w with ⟨_, w1⟩ | ⟨_, w1⟩ <;> intro hk
  · rw [EStateM.Result.andThen_ok, EStateM.Result.andThen_ok,
      foldlM_configurePfItem_configured env _ _ _ _ w1 fun p hp => by rw [← h p hp, ← hk]; rfl]
    rcases (liftSys (env.sriovMap.forM (skipItem env))).run w1 with ⟨_, w2⟩ | ⟨_, w2⟩
    · rw [EStateM.Result.mapValue_eq, EStateM.Result.andThen_ok, EStateM.Result.andThen_ok,
        EStateM.Result.andThen_ok, afterPfLoop_initial, liftSys_bind, m_run_bind]
    · rfl
  · rfl

/-- A legacy PF whose four VFs exist already is skipped, its legacy rule included. -/
theorem configure_sriov_pf_skips_legacy_pf_at_four :
    (∀ p, SriovItem.pf p ∈ [SriovItem.pf ⟨"p1".toList, 4, none, some "legacy".toList, false, none⟩] →
      (fun _ => 4 : List Char → Int) p.name = p.numvfs) ∧
    (configureSriovPf { quietEnv with
        sriovMap := [.pf ⟨"p1".toList, 4, none, some "legacy".toList, false, none⟩] } false false).run
        ⟨⟨fun _ => 4, []⟩, World.initial.sys⟩ =
      (liftSys (configuredRun { quietEnv with
        sriovMap := [.pf ⟨"p1".toList, 4, none, some "legacy".toList, false, none⟩] } false)).run
        ⟨⟨fun _ => 4, []⟩, World.initial.sys⟩ :=
  have h : ∀ p, SriovItem.pf p ∈ [SriovItem.pf ⟨"p1".toList, 4, none, some "legacy".toList, false, none⟩] →
      (fun _ => 4 : List Char → Int) p.name = p.numvfs := fun p hp => by
    obtain rfl := SriovItem.pf.inj (List.mem_singleton.mp hp)
    rfl
  ⟨h, configure_sriov_pf_skips_configured_pfs _ false false _ h⟩

/-! ### A second run

`set_numvfs` writes nothing to a PF at its count or with VFs already, and a run of
`configure_sriov_pf` that returns leaves every PF of its map so: applied again, it changes no VF
count. -/

section Rerun
variable (env : Env)

/-- Every PF entry of `l` is at its count or has VFs already. -/
def Converged (l : List SriovItem) (k : Kernel) : Prop :=
  ∀ p, SriovItem.pf p ∈ l → k.numvfs p.name = p.numvfs ∨ k.numvfs p.name ≠ 0

theorem Converged.snoc {l : List SriovItem} {k : Kernel} {c : SriovItem} (h : Converged l k)
    (hc : ∀ p, c = .pf p → k.numvfs p.name = p.numvfs ∨ k.numvfs p.name ≠ 0) :
    Converged (l ++ [c]) k := fun p hp => by
  rcases List.mem_append.mp hp with hp | hp
  · exact h p hp
  · exact hc p (List.mem_singleton.mp hp).symm

theorem Converged.written {l : List SriovItem} {k : Kernel} {ifname : List Char}
    (h : Converged l k) (hz : k.numvfs ifname = 0) (numvfs c : Int) :
    Converged l (k.written ifname numvfs c) := fun p hp => by
  by_cases hn : p.name = ifname
  · have hp0 : p.numvfs = 0 := by
      rcases h p hp with h' | h' <;> rw [hn, hz] at h'
      · exact h'.symm
      · exact absurd rfl h'
    simp only [Kernel.written, hn, Function.update_same, hp0]
    exact eq_or_ne c 0
  · simp only [Kernel.written, Function.update_noteq hn]
    exact h p hp

theorem Triple.liftSys_true {α : Type} {R : Kernel → Prop} (x : SysM α) :
    Triple (fun w => R w.kernel) (liftSys x) (fun _ w => R w.kernel) fun _ => True :=
  Triple.liftSys fun _ _ => trivial

theorem pfConfigureStatus_triple (p : PfItem) {R : Kernel → Prop} :
    Triple (fun w => R w.kernel) (liftSys (pfConfigureStatus env p))
      (fun b w => R w.kernel ∧ (b = true → w.kernel.numvfs p.name = p.numvfs)) fun _ => True := by
  intro w hw
  simp only [pfConfigureStatus, liftSys_bind, m_run_bind, liftSys_run]
  rcases h1 : getNumvfs env p.name w.kernel.numvfs w.sys with ⟨cur, s1⟩ | ⟨e, s1⟩
  · simp [getNumvfs_ok env h1, hw, eq_comm]
  · trivial

theorem setNumvfs_converged {l : List SriovItem} (p : PfItem) :
    Triple (fun w => Converged l w.kernel) (setNumvfs env p.name p.numvfs)
      (fun _ w => Converged (l ++ [.pf p]) w.kernel) fun _ => True := by
  intro w hw
  rcases setNumvfs_cases env p.name p.numvfs w with
    ⟨w', h, hk, hc⟩ | ⟨e, w', h, -⟩ | ⟨hz, -, ⟨e, w', c, h, -⟩ | ⟨w', h, hk⟩⟩ <;> rw [h]
  · rw [EStateM.Result.holds_ok, hk]
    exact hw.snoc fun q hq => by cases hq; exact hc.imp_left Eq.symm
  · trivial
  · trivial
  · rw [EStateM.Result.holds_ok, hk]
    exact (hw.written hz _ _).snoc fun q hq => by cases hq; exact .inl (by simp [Kernel.written])

theorem configurePfItem_converged (executionFromCli : Bool)
    (vdpaDevices : Option (List (List Char))) (acc : PfLoop) (l : List SriovItem)
    (item : SriovItem) :
    Triple (fun w => Converged l w.kernel)
      (configurePfItem env executionFromCli vdpaDevices acc item)
      (fun _ w => Converged (l ++ [item]) w.kernel) fun _ => True := by
  cases item with
  | vf v => exact Triple.pure fun _ hw => hw.snoc fun _ h => nomatch h
  | pf p =>
    simp only [configurePfItem]
    refine (pfConfigureStatus_triple env p (R := Converged l)).bind fun b => ?_
    split
    · exact Triple.pure fun _ hw => hw.1.snoc fun q hq => by cases hq; exact .inl (hw.2 ‹_›)
    · exact ((Triple.liftSys_true (R := Converged l) _).mono (fun _ hw => hw.1) (fun _ _ h => h)
        fun _ h => h).bind fun _ =>
        (setNumvfs_converged env p).bind fun _ => Triple.liftSys_true (R := Converged (l ++ [.pf p])) _

theorem foldlM_configurePfItem_converged (executionFromCli : Bool)
    (vdpaDevices : Option (List (List Char))) :
    ∀ (l done : List SriovItem) (acc : PfLoop),
      Triple (fun w => Converged done w.kernel)
        (l.foldlM (configurePfItem env executionFromCli vdpaDevices) acc)
        (fun _ w => Converged (done ++ l) w.kernel) fun _ => True
  | [], done, _ => Triple.pure fun _ hw => by rwa [List.append_nil]
  | item :: l, done, acc => by
    rw [List.foldlM_cons]
    refine (configurePfItem_converged env executionFromCli vdpaDevices acc done item).bind
      fun acc' => ?_
    have := foldlM_configurePfItem_converged executionFromCli vdpaDevices l (done ++ [item]) acc'
    rwa [List.append_assoc, List.singleton_append] at this

/-- A run of `configure_sriov_pf` that returns leaves every PF of the map converged. -/
theorem configureSriovPf_converged (executionFromCli restartOpenvswitch : Bool) :
    Triple (fun _ => True) (configureSriovPf env executionFromCli restartOpenvswitch)
      (fun _ w => Converged env.sriovMap w.kernel) fun _ => True :=
  ((Triple.liftSys_true (R := Converged []) _).mono (fun _ _ _ hp => nomatch hp) (fun _ _ h => h)
      fun _ h => h).bind fun _ =>
    (foldlM_configurePfItem_converged env executionFromCli _ _ [] _).bind fun _ =>
      Triple.liftSys_true (R := Converged env.sriovMap) _

theorem setNumvfs_of_converged {k : Kernel} {ifname : List Char} {numvfs : Int}
    (h : k.numvfs ifname = numvfs ∨ k.numvfs ifname ≠ 0) :
    Triple (fun w => w.kernel = k) (setNumvfs env ifname numvfs) (fun _ w => w.kernel = k)
      fun w => w.kernel = k := by
  rintro w rfl
  rcases setNumvfs_cases env ifname numvfs w with
    ⟨w', h', hk, -⟩ | ⟨e, w', h', hk⟩ | ⟨hz, hn, -⟩
  · rw [h']; exact hk
  · rw [h']; exact hk
  · exact absurd ((h.resolve_right (not_not.mpr hz)).symm.trans hz) hn

theorem configurePfItem_of_converged (executionFromCli : Bool)
    (vdpaDevices : Option (List (List Char))) (acc : PfLoop) {k : Kernel} (item : SriovItem)
    (hk : Converged [item] k) :
    Triple (fun w => w.kernel = k) (configurePfItem env executionFromCli vdpaDevices acc item)
      (fun _ w => w.kernel = k) fun w => w.kernel = k := by
  cases item with
  | vf v => exact Triple.pure fun _ h => h
  | pf p =>
    simp only [configurePfItem]
    refine (Triple.liftSys (R := (· = k)) fun _ h => h).bind fun b => ?_
    split
    · exact Triple.pure fun _ h => h
    · exact (Triple.liftSys (R := (· = k)) fun _ h => h).bind fun _ =>
        (setNumvfs_of_converged env (hk p (List.mem_singleton_self _))).bind fun _ =>
          Triple.liftSys (R := (· = k)) fun _ h => h

theorem configureSriovPf_of_converged (executionFromCli restartOpenvswitch : Bool) {k : Kernel}
    (hk : Converged env.sriovMap k) :
    Triple (fun w => w.kernel = k) (configureSriovPf env executionFromCli restartOpenvswitch)
      (fun _ w => w.kernel = k) fun w => w.kernel = k :=
  (Triple.liftSys (R := (· = k)) fun _ h => h).bind fun _ =>
    Triple.bind (Triple.foldlM _ _ fun acc item hi =>
        configurePfItem_of_converged env executionFromCli _ acc item fun p hp =>
          hk p (List.mem_singleton.mp hp ▸ hi)) fun _ =>
      Triple.liftSys (R := (· = k)) fun _ h => h

end Rerun

/-- After a run of `configure_sriov_pf` that returns, a second run (os-net-config applied again,
from the CLI or not, with or without the restart of openvswitch) writes no `sriov_numvfs` and
changes no VF count, however it ends. -/
theorem configure_sriov_pf_rerun_writes_no_count (env : Env)
    (executionFromCli restartOpenvswitch executionFromCli' restartOpenvswitch' : Bool) (w : World) :
    ((configureSriovPf env executionFromCli restartOpenvswitch).run w).Holds
      (fun _ w' => ((configureSriovPf env executionFromCli' restartOpenvswitch').run w').state.kernel =
        w'.kernel)
      fun _ _ => True := by
  have h := configureSriovPf_converged env executionFromCli restartOpenvswitch w trivial
  revert h
  rcases (configureSriovPf env executionFromCli restartOpenvswitch).run w with ⟨_, w'⟩ | _
  · exact fun hc => (configureSriovPf_of_converged env executionFromCli' restartOpenvswitch' hc).state
      rfl (fun _ _ h => h) fun _ h => h
  · exact fun _ => trivial

/-! ### The variables `vdpa` and `vdpa_devices`

`vdpa` is bound once a PF gets past `pf_configure_status`, and `vdpa_devices` only when some entry
of the map asks for vDPA. The code reads each only where it is bound. -/

section Bound
variable (env : Env)

/-- `configure_sriov_pf` with `vdpa = False` and `vdpa_devices = []` bound before the loop. -/
def configureSriovPfBound (executionFromCli restartOpenvswitch : Bool) : M Unit := do
  let vdpaDevices ← liftSys (beforePfLoop env)
  let acc ← env.sriovMap.foldlM (configurePfItem env executionFromCli (some (vdpaDevices.getD [])))
    ⟨[], false, some false⟩
  liftSys (afterPfLoop env executionFromCli restartOpenvswitch acc)

/-- The loop variables with `vdpa` bound to `False` while no VF is kept for DPDK. -/
def PfLoop.bindVdpa (acc : PfLoop) : PfLoop :=
  if acc.dpdkVfsPcisList = [] then { acc with vdpa := some (acc.vdpa.getD false) } else acc

@[simp] theorem PfLoop.bindVdpa_dpdkVfsPcisList (acc : PfLoop) :
    acc.bindVdpa.dpdkVfsPcisList = acc.dpdkVfsPcisList := by
  unfold PfLoop.bindVdpa; split <;> rfl

@[simp] theorem PfLoop.bindVdpa_triggerUdevRule (acc : PfLoop) :
    acc.bindVdpa.triggerUdevRule = acc.triggerUdevRule := by
  unfold PfLoop.bindVdpa; split <;> rfl

theorem beforePfLoop_vdpaDevices (c : List Char → Int) (s : Sys) :
    (beforePfLoop env c s).Holds (fun vd _ => env.sriovMap.any SriovItem.vdpa → vd.isSome)
      fun _ _ => True := by
  have htriv : ∀ {α : Type} (r : EStateM.Result PyExc Sys α),
      r.Holds (fun _ _ => True) fun _ _ => True := fun r => by cases r <;> trivial
  by_cases h : env.sriovMap.any SriovItem.vdpa <;>
    simp [beforePfLoop, h, EStateM.Result.holds_andThen, htriv]

theorem finishPf_congr (executionFromCli : Bool) {vd vd' : Option (List (List Char))} (p : PfItem)
    (acc acc' : PfLoop) (hvd : p.vdpa → vd = vd')
    (hd : acc.dpdkVfsPcisList = acc'.dpdkVfsPcisList)
    (ht : acc.triggerUdevRule = acc'.triggerUdevRule) :
    finishPf env executionFromCli vd p acc = finishPf env executionFromCli vd' p acc' := by
  obtain ⟨d, t, v⟩ := acc
  obtain ⟨d', t', v'⟩ := acc'
  dsimp only at hd ht
  subst hd ht
  cases hp : p.vdpa
  · simp only [finishPf, hp, configureVfPcis, Bool.not_false, if_true]
  · rw [hvd hp]; simp only [finishPf]

theorem configurePfItem_bindVdpa (executionFromCli : Bool) {vd vd' : Option (List (List Char))}
    (item : SriovItem) (hvd : SriovItem.vdpa item → vd = vd') (acc acc' : PfLoop)
    (hn : acc.bindVdpa = acc'.bindVdpa) (w : World) :
    ((configurePfItem env executionFromCli vd acc item).run w).mapValue PfLoop.bindVdpa =
      ((configurePfItem env executionFromCli vd' acc' item).run w).mapValue PfLoop.bindVdpa := by
  cases item with
  | vf v => simp [configurePfItem, hn]
  | pf p =>
    have hf := finishPf_congr env executionFromCli p acc acc' hvd
      (by rw [← PfLoop.bindVdpa_dpdkVfsPcisList, hn, PfLoop.bindVdpa_dpdkVfsPcisList])
      (by rw [← PfLoop.bindVdpa_triggerUdevRule, hn, PfLoop.bindVdpa_triggerUdevRule])
    simp only [configurePfItem, hf, m_run_bind]
    rcases (liftSys (pfConfigureStatus env p)).run w with ⟨b, w₁⟩ | ⟨_, w₁⟩
    · cases b
      · rfl
      · simp [hn]
    · rfl

theorem afterPfLoop_bindVdpa (executionFromCli restartOpenvswitch : Bool) {acc acc' : PfLoop}
    (hn : acc.bindVdpa = acc'.bindVdpa) :
    afterPfLoop env executionFromCli restartOpenvswitch acc =
      afterPfLoop env executionFromCli restartOpenvswitch acc' := by
  have hd : acc.dpdkVfsPcisList = acc'.dpdkVfsPcisList := by
    rw [← PfLoop.bindVdpa_dpdkVfsPcisList, hn, PfLoop.bindVdpa_dpdkVfsPcisList]
  have ht : acc.triggerUdevRule = acc'.triggerUdevRule := by
    rw [← PfLoop.bindVdpa_triggerUdevRule, hn, PfLoop.bindVdpa_triggerUdevRule]
  by_cases h : acc.dpdkVfsPcisList = []
  · simp only [afterPfLoop, h, ← hd, ht, ne_eq, not_true_eq_false, ↓reduceIte]
  · have h' : acc'.dpdkVfsPcisList ≠ [] := hd ▸ h
    simp only [PfLoop.bindVdpa, h, h', ↓reduceIte] at hn
    rw [hn]

end Bound

/-- `configure_sriov_pf` reads `vdpa` and `vdpa_devices` only where they are bound: binding them
to `False` and `[]` before the loop changes no run, so neither of its two `NameError`s is ever
raised. -/
theorem configure_sriov_pf_reads_vdpa_only_when_bound (env : Env)
    (executionFromCli restartOpenvswitch : Bool) (w : World) :
    (configureSriovPf env executionFromCli restartOpenvswitch).run w =
      (configureSriovPfBound env executionFromCli restartOpenvswitch).run w := by
  have hb : ((liftSys (beforePfLoop env)).run w).Holds
      (fun vd _ => env.sriovMap.any SriovItem.vdpa → vd.isSome) fun _ _ => True := by
    have := beforePfLoop_vdpaDevices env w.kernel.numvfs w.sys
    rw [liftSys_run]
    revert this
    cases beforePfLoop env w.kernel.numvfs w.sys <;> exact id
  simp only [configureSriovPf, configureSriovPfBound, m_run_bind]
  revert hb
  rcases (liftSys (beforePfLoop env)).run w with ⟨vd, w₁⟩ | _ <;> intro hb
  · have hvd : ∀ item ∈ env.sriovMap, SriovItem.vdpa item → vd = some (vd.getD []) :=
      fun item hi hv => by
        obtain ⟨d, rfl⟩ := Option.isSome_iff_exists.mp (hb (List.any_eq_true.mpr ⟨item, hi, hv⟩))
        rfl
    have hfold := foldlM_run_congr PfLoop.bindVdpa env.sriovMap
      (fun a a' c w hc hn => configurePfItem_bindVdpa env executionFromCli c (hvd c hc) a a' hn w)
      ⟨[], false, none⟩ ⟨[], false, some false⟩ w₁ rfl
    simp only [EStateM.Result.andThen_ok]
    revert hfold
    rcases (env.sriovMap.foldlM (configurePfItem env executionFromCli vd) ⟨[], false, none⟩).run
        w₁ with ⟨a, w₂⟩ | ⟨e, w₂⟩ <;>
      rcases (env.sriovMap.foldlM (configurePfItem env executionFromCli (some (vd.getD [])))
        ⟨[], false, some false⟩).run w₁ with ⟨a', w₃⟩ | ⟨e', w₃⟩ <;>
      simp only [EStateM.Result.mapValue_eq, EStateM.Result.andThen_ok,
        EStateM.Result.andThen_error, EStateM.Result.ok.injEq, EStateM.Result.error.injEq,
        reduceCtorEq, false_implies, and_imp]
    · rintro hn rfl
      rw [afterPfLoop_bindVdpa env executionFromCli restartOpenvswitch hn]
    · exact And.intro
  · simp only [EStateM.Result.andThen_error]

/-! ### Two runs on fixed maps

`decide` runs them with smart unfolding off: it would otherwise walk the whole lazily built state
at every step of a loop. -/

/-- The calls into `sriov_bind_config`. -/
def isSriovBindCall : Effect → Bool
  | .updateSriovBindPcisMap _ _ | .configureSriovBindService | .bindVfs _ _ => true
  | _ => false

def dpdkPf : PfItem := ⟨"p1".toList, 1, none, some "switchdev".toList, false, none⟩

def vdpaPf : PfItem := ⟨"p2".toList, 1, none, none, true, none⟩

/-- `p1` is a Mellanox card with one VF, `0000:06:00.2`, bound to a driver. -/
def dpdkThenVdpaEnv : Env :=
  { quietEnv with
    sriovMap := [.pf dpdkPf, .pf vdpaPf]
    isMellanox := fun name => name = "p1".toList
    sysfsData := fun _ path =>
      if path = "/sys/class/net/p1/uevent".toList then "PCI_SLOT_NAME=0000:06:00.0\n".toList
      else if path = "/sys/class/net/p1/virtfn0/uevent".toList then
        "PCI_SLOT_NAME=0000:06:00.2\n".toList
      else "1\n".toList
    sysfsExists := fun _ path => path = "/sys/bus/pci/devices/0000:06:00.2/driver".toList
    listdir := fun _ _ => some ["virtfn0".toList] }

set_option maxRecDepth 10000 in
set_option smartUnfolding false in
/-- The DPDK VF of `p1` is unbound from its driver and both counts are written, but a vDPA PF
after it in the map leaves `vdpa` set, so the VF never reaches `sriov_bind_config`; with the
two PFs the other way round it does. -/
theorem configure_sriov_pf_drops_dpdk_vfs_before_vdpa_pf :
    ((configureSriovPf dpdkThenVdpaEnv false false).run World.initial).Holds
      (fun _ w => w.kernel.writes = [("p1".toList, 1), ("p2".toList, 1)] ∧
        Effect.writeFile mlnxUnbindFilePath "0000:06:00.2".toList ∈ w.sys.trace ∧
        ∀ e ∈ w.sys.trace, isSriovBindCall e = false)
      (fun _ _ => False) ∧
    ((configureSriovPf { dpdkThenVdpaEnv with sriovMap := [.pf vdpaPf, .pf dpdkPf] } false
        false).run World.initial).Holds
      (fun _ w => Effect.updateSriovBindPcisMap mlnxDriver ["0000:06:00.2".toList] ∈ w.sys.trace)
      (fun _ _ => False) := by
  decide

def legacyPf : PfItem := ⟨"p1".toList, 4, none, some "legacy".toList, false, none⟩

set_option smartUnfolding false in
/-- The legacy rule file is created, but `add_udev_rule_for_legacy_sriov_pf`'s result is dropped
and udev is not triggered. -/
theorem configure_sriov_pf_legacy_rule_without_trigger :
    ((configureSriovPf { quietEnv with sriovMap := [.pf legacyPf] } false false).run
        World.initial).Holds
      (fun _ w => World.initial.sys.files udevLegacyRuleFile = none ∧
        w.sys.files udevLegacyRuleFile = some (writeLines [UdevRule.autogenHeader, legacyRule "p1".toList 4]) ∧
        Effect.execute ["/usr/sbin/udevadm".toList, "trigger".toList, "--action=add".toList,
          "--attr-match=subsystem=net".toList] ∉ w.sys.trace)
      (fun _ _ => False) := by
  decide

end SriovConfig.ConfigurePf
