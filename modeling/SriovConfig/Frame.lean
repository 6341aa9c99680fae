import SriovConfig.VfCalls
import Mathlib.Tactic.LiftLets

/-! What a run of `os-net-config-sriov` may change: the regular files it writes, and the entries
it adds to `vf_to_pf`. A frame logic over the two monads says that a run leaves every file outside
a set as it was and extends `vf_to_pf` only by entries of a kind, with one rule per combinator and
one lemma per function. Over every map and every run of `main`, in either mode and however it
ends, the only files that change are the two udev rule files, the representor naming script, the
three files of the puppet cleanup, the files the helpers of `common` and `sriov_bind_config`
write, and the log file `main` opens on every run; the legacy rule file changes only for a legacy
PF no VF entry names, and `vf_to_pf` grows as a dict with entries of the PFs whose counts the run
writes. -/
set_option autoImplicit false

namespace SriovConfig.Frame
open PyText Rules System Commands UdevFiles Numvfs ConfigurePf Cli VfCalls

/-- How a run may change `vf_to_pf`: it appends entries that satisfy `R`, and keeps distinct keys
distinct. -/
def ExtendsVfToPf (R : List Char × VfLink → Prop) (old new : List (List Char × VfLink)) : Prop :=
  ∃ added, new = old ++ added ∧ (∀ e ∈ added, R e) ∧
    ((old.map Prod.fst).Nodup → (new.map Prod.fst).Nodup)

/-- The change from `s` to `s'` stays within a footprint: every file outside `S` is as it was,
and `vf_to_pf` is extended by entries that satisfy `R`. -/
structure Within (S : List Char → Prop) (R : List Char × VfLink → Prop) (s s' : Sys) : Prop where
  files : ∀ path, ¬ S path → s'.files path = s.files path
  vfToPf : ExtendsVfToPf R s.vfToPf s'.vfToPf

/-- Every run of `x`, however it ends, stays within the footprint of `S` and `R`. -/
def Footprint {α : Type} (S : List Char → Prop) (R : List Char × VfLink → Prop) (x : SysM α) :
    Prop :=
  ∀ c s, Within S R s (x c s).state

/-- `Footprint` for code that may write `sriov_numvfs`. -/
def FootprintM {α : Type} (S : List Char → Prop) (R : List Char × VfLink → Prop) (x : M α) :
    Prop :=
  ∀ w, Within S R w.sys (x.run w).state.sys

section Within
variable {S : List Char → Prop} {R : List Char × VfLink → Prop} {s₁ s₂ s₃ : Sys}

theorem ExtendsVfToPf.refl (l : List (List Char × VfLink)) : ExtendsVfToPf R l l :=
  ⟨[], (List.append_nil l).symm, fun _ h => absurd h (List.not_mem_nil _), id⟩

theorem ExtendsVfToPf.trans {l₁ l₂ l₃ : List (List Char × VfLink)} (h₁ : ExtendsVfToPf R l₁ l₂)
    (h₂ : ExtendsVfToPf R l₂ l₃) : ExtendsVfToPf R l₁ l₃ := by
  obtain ⟨a₁, rfl, hr₁, hn₁⟩ := h₁
  obtain ⟨a₂, rfl, hr₂, hn₂⟩ := h₂
  exact ⟨a₁ ++ a₂, List.append_assoc _ _ _,
    fun e he => (List.mem_append.mp he).elim (hr₁ e) (hr₂ e), hn₂ ∘ hn₁⟩

theorem ExtendsVfToPf.snoc {l : List (List Char × VfLink)} {e : List Char × VfLink} (hR : R e)
    (hnew : e.1 ∉ l.map Prod.fst) : ExtendsVfToPf R l (l ++ [e]) :=
  ⟨[e], rfl, fun _ h => List.mem_singleton.mp h ▸ hR, fun hn => by
    rw [List.map_append, List.map_singleton, List.nodup_append_comm]
    exact List.nodup_cons.mpr ⟨hnew, hn⟩⟩

theorem Within.refl (s : Sys) : Within S R s s := ⟨fun _ _ => rfl, .refl _⟩

theorem Within.trans (h₁ : Within S R s₁ s₂) (h₂ : Within S R s₂ s₃) : Within S R s₁ s₃ :=
  ⟨fun path hp => (h₂.files path hp).trans (h₁.files path hp), h₁.vfToPf.trans h₂.vfToPf⟩

theorem Within.setFile {p : List Char} (hp : S p) (c : Option (List Char)) :
    Within S R s₁ (s₁.setFile p c) :=
  ⟨fun path hpath => Function.update_noteq (fun h : path = p => hpath (h ▸ hp)) _ _, .refl _⟩

theorem Within.appendTo {p : List Char} (hp : S p) (text : List Char) :
    Within S R s₁ (s₁.appendTo p text) :=
  Within.setFile hp _

theorem Within.of_eq (hf : s₂.files = s₁.files) (hv : s₂.vfToPf = s₁.vfToPf) : Within S R s₁ s₂ :=
  ⟨fun _ _ => by rw [hf], hv ▸ .refl _⟩

end Within

section Rules
variable {α β γ : Type} {S : List Char → Prop} {R : List Char × VfLink → Prop} (env : Env)

theorem Footprint.of_state {x : SysM α}
    (h : ∀ c s, (x c s).state.files = s.files ∧ (x c s).state.vfToPf = s.vfToPf) :
    Footprint S R x :=
  fun c s => .of_eq (h c s).1 (h c s).2

theorem Footprint.bind {x : SysM α} {f : α → SysM β} (hx : Footprint S R x)
    (hf : ∀ a, Footprint S R (f a)) : Footprint S R (x >>= f) := fun c s => by
  have h₁ := hx c s
  rw [sysM_bind]
  revert h₁
  cases x c s with
  | ok a s₁ => exact fun h₁ => h₁.trans (hf a c s₁)
  | error e s₁ => exact id

theorem Footprint.ite {p : Prop} [Decidable p] {x y : SysM α} (hx : Footprint S R x)
    (hy : Footprint S R y) : Footprint S R (if p then x else y) := by
  split
  · exact hx
  · exact hy

theorem Footprint.pure (a : α) : Footprint S R (pure a : SysM α) := .of_state fun _ _ => ⟨rfl, rfl⟩

theorem Footprint.get : Footprint S R (get : SysM Sys) := .of_state fun _ _ => ⟨rfl, rfl⟩

theorem Footprint.throw (e : PyExc) : Footprint S R (throw e : SysM α) :=
  .of_state fun _ _ => ⟨rfl, rfl⟩

theorem Footprint.sysfsExists (path : List Char) : Footprint S R (sysfsExists env path) :=
  .of_state fun _ _ => ⟨rfl, rfl⟩

theorem Footprint.pathExists (path : List Char) : Footprint S R (pathExists path) :=
  .of_state fun _ _ => ⟨rfl, rfl⟩

theorem Footprint.getFileData (path : List Char) : Footprint S R (getFileData path) :=
  .of_state fun _ _ => ⟨rfl, rfl⟩

theorem Footprint.pause (e : Effect) : Footprint S R (pause env e) :=
  .of_state fun _ _ => ⟨rfl, rfl⟩

theorem Footprint.numvfsOf (ifname : List Char) : Footprint S R (numvfsOf ifname) :=
  .of_state fun _ _ => ⟨rfl, rfl⟩

theorem Footprint.modify_setFile {p : List Char} {f : Sys → Option (List Char)} (hp : S p) :
    Footprint S R (modify fun s => s.setFile p (f s)) := fun _ s => Within.setFile hp (f s)

theorem Footprint.modify {f : Sys → Sys} (h : ∀ s, (f s).files = s.files ∧ (f s).vfToPf = s.vfToPf) :
    Footprint S R (modify f) :=
  .of_state fun _ s => h s

theorem perform_state (e : Effect) (exc : PyExc) (c : List Char → Int) (s : Sys) :
    (System.perform env e exc c s).state.files = s.files ∧
      (System.perform env e exc c s).state.vfToPf = s.vfToPf := by
  rw [perform_run]
  split <;> exact ⟨rfl, rfl⟩

theorem Footprint.perform (e : Effect) (exc : PyExc) : Footprint S R (perform env e exc) :=
  .of_state (perform_state env e exc)

theorem Footprint.callHelper {e : Effect} {fn : List Char} (h : ∀ path ∈ env.helperFiles e, S path) :
    Footprint S R (callHelper env e fn) := fun c s => by
  rw [callHelper_run]
  refine Within.trans ⟨fun path hp => helperWrites_files_of_not_mem env (fun hm => hp (h path hm)) s,
    ?_⟩ (Footprint.perform env e _ c _)
  rw [helperWrites_vfToPf]
  exact .refl _

theorem Footprint.execute (argv : List (List Char)) : Footprint S R (execute env argv) :=
  .of_state fun c s => by
    have h := perform_state env (.execute argv) (.processExecution argv) c s
    rw [execute_run]
    revert h
    cases System.perform env (.execute argv) (.processExecution argv) c s <;> exact id

theorem Footprint.sysfsData (path : List Char) : Footprint S R (sysfsData env path) :=
  .of_state fun _ _ => ⟨rfl, rfl⟩

theorem Footprint.listdir (path : List Char) : Footprint S R (listdir env path) :=
  .of_state fun c s => by
    simp only [System.listdir]
    split <;> exact ⟨rfl, rfl⟩

theorem Footprint.writeFile {path content : List Char} (h : S path) :
    Footprint S R (writeFile env path content) :=
  (Footprint.perform env _ _).bind fun _ => .modify_setFile h

theorem Footprint.appendFile {path content : List Char} (h : S path) :
    Footprint S R (appendFile env path content) :=
  (Footprint.perform env _ _).bind fun _ => .modify_setFile h

theorem Footprint.removeFile {path : List Char} (h : S path) :
    Footprint S R (removeFile env path) :=
  (Footprint.perform env _ _).bind fun _ => .modify_setFile h

theorem Footprint.tryCatch {x : SysM α} {h : PyExc → SysM α} (hx : Footprint S R x)
    (hh : ∀ e, Footprint S R (h e)) : Footprint S R (tryCatch x h) := fun c s => by
  have h₁ := hx c s
  rw [sysM_tryCatch]
  revert h₁
  cases x c s with
  | ok a s₁ => exact id
  | error e s₁ => exact fun h₁ => h₁.trans (hh e c s₁)

theorem Footprint.map {f : α → β} {x : SysM α} (h : Footprint S R x) : Footprint S R (f <$> x) :=
  fun c s => by
    have h₁ := h c s
    rw [sysM_map]
    revert h₁
    cases x c s <;> exact id

theorem Footprint.forM {f : γ → SysM PUnit} :
    ∀ (l : List γ), (∀ a ∈ l, Footprint S R (f a)) → Footprint S R (l.forM f)
  | [], _ => .pure _
  | a :: l, h => by
    rw [List.forM_cons']
    exact (h a (List.mem_cons_self _ _)).bind fun _ =>
      Footprint.forM l fun b hb => h b (List.mem_cons_of_mem _ hb)

theorem Footprint.foldlM {f : β → γ → SysM β} :
    ∀ (l : List γ) (init : β), (∀ acc, ∀ a ∈ l, Footprint S R (f acc a)) →
      Footprint S R (l.foldlM f init)
  | [], _, _ => .pure _
  | a :: l, init, h => by
    rw [List.foldlM_cons]
    exact (h init a (List.mem_cons_self _ _)).bind fun b =>
      Footprint.foldlM l b fun acc c hc => h acc c (List.mem_cons_of_mem _ hc)

theorem FootprintM.liftSys {x : SysM α} (h : Footprint S R x) : FootprintM S R (liftSys x) :=
  fun w => by
    have h₁ := h w.kernel.numvfs w.sys
    rw [liftSys_run]
    revert h₁
    cases x w.kernel.numvfs w.sys <;> exact id

theorem FootprintM.bind {x : M α} {f : α → M β} (hx : FootprintM S R x)
    (hf : ∀ a, FootprintM S R (f a)) : FootprintM S R (x >>= f) := fun w => by
  have h₁ := hx w
  rw [m_run_bind]
  revert h₁
  cases x.run w with
  | ok a w₁ => exact fun h₁ => h₁.trans (hf a w₁)
  | error e w₁ => exact id

theorem FootprintM.ite {p : Prop} [Decidable p] {x y : M α} (hx : FootprintM S R x)
    (hy : FootprintM S R y) : FootprintM S R (if p then x else y) := by
  split
  · exact hx
  · exact hy

theorem FootprintM.pure (a : α) : FootprintM S R (pure a : M α) := fun _ => .refl _

theorem FootprintM.throw (e : PyExc) : FootprintM S R (throw e : M α) := fun _ => .refl _

theorem FootprintM.tryCatch {x : M α} {h : PyExc → M α} (hx : FootprintM S R x)
    (hh : ∀ e, FootprintM S R (h e)) : FootprintM S R (tryCatch x h) := fun w => by
  have h₁ := hx w
  rw [m_run_tryCatch]
  revert h₁
  cases x.run w with
  | ok a w₁ => exact id
  | error e w₁ => exact fun h₁ => h₁.trans (hh e w₁)

theorem FootprintM.writeNumvfs (ifname path : List Char) (numvfs : Int) :
    FootprintM S R (writeNumvfs env ifname path numvfs) := fun w => by
  rw [writeNumvfs_run]
  split <;> exact .of_eq rfl rfl

theorem FootprintM.foldlM {f : β → γ → M β} :
    ∀ (l : List γ) (init : β), (∀ acc, ∀ a ∈ l, FootprintM S R (f acc a)) →
      FootprintM S R (l.foldlM f init)
  | [], _, _ => .pure _
  | a :: l, init, h => by
    rw [List.foldlM_cons]
    exact (h init a (List.mem_cons_self _ _)).bind fun b =>
      FootprintM.foldlM l b fun acc c hc => h acc c (List.mem_cons_of_mem _ hc)

end Rules

/-! ### The functions that write no file -/

section Readers
variable (env : Env) {S : List Char → Prop} {R : List Char × VfLink → Prop}

theorem runIpConfigCmd_keeps (cmd : List (List Char)) : Footprint S R (runIpConfigCmd env cmd) :=
  (Footprint.execute env cmd).bind fun _ => .pure _

theorem runIpConfigCmdSafe_keeps (raiseError : Bool) (cmd : List (List Char)) :
    Footprint S R (runIpConfigCmdSafe env raiseError cmd) := by
  refine (runIpConfigCmd_keeps env cmd).tryCatch fun _ => ?_
  split
  · exact .ite (.throw _) (.pure _)
  · exact .throw _

theorem ifDownInterface_keeps (device : List Char) : Footprint S R (ifDownInterface env device) :=
  (Footprint.execute env _).bind fun _ => .pure _

theorem ifUpInterface_keeps (device : List Char) : Footprint S R (ifUpInterface env device) :=
  (Footprint.execute env _).bind fun _ => .pure _

theorem getPfPci_keeps (pfName : List Char) : Footprint S R (getPfPci env pfName) := by
  unfold getPfPci
  refine (Footprint.sysfsData env _).bind fun _ => ?_
  split
  · exact .pure _
  · exact .throw _

theorem getPfDeviceId_keeps (pfName : List Char) : Footprint S R (getPfDeviceId env pfName) :=
  (Footprint.sysfsData env _).bind fun _ => .pure _

theorem getVfPcisList_keeps (pfName : List Char) : Footprint S R (getVfPcisList env pfName) := by
  unfold getVfPcisList
  refine (Footprint.listdir env _).bind fun _ => .foldlM _ _ fun _ _ _ =>
    .ite ((Footprint.sysfsData env _).bind fun _ => ?_) (.pure _)
  split
  · exact .pure _
  · exact .throw _

theorem driverUnbind_keeps (dev : List Char) : Footprint S R (driverUnbind env dev) := by
  unfold driverUnbind
  exact (Footprint.sysfsExists env _).bind fun _ => .ite (.perform env _ _) (.pure _)

theorem uplinkRepReady_keeps (path : List Char) :
    ∀ retries, Footprint S R (uplinkRepReady env path retries)
  | 0 => .pure _
  | retries + 1 => by
    unfold uplinkRepReady
    exact (Footprint.sysfsData env _).bind fun _ => .ite (.pure _)
      ((Footprint.pause env _).bind fun _ => uplinkRepReady_keeps path retries)

theorem configureSwitchdev_keeps (pfName : List Char) :
    Footprint S R (configureSwitchdev env pfName) := by
  unfold configureSwitchdev waitForUplinkRepCreation
  refine (getPfPci_keeps env pfName).bind fun _ => (getPfDeviceId_keeps env pfName).bind fun _ => ?_
  lift_lets
  intro jp
  have hjp : ∀ y, Footprint S R (jp y) := fun _ =>
    (Footprint.execute env _).bind fun _ =>
      ((uplinkRepReady_keeps env _ _).bind fun _ => .ite (.pure _) (.throw _)).bind fun _ =>
        (Footprint.execute env _).bind fun _ => .pure _
  exact .ite ((Footprint.execute env _).bind fun _ => (Footprint.pure _).bind hjp)
    ((Footprint.pure _).bind hjp)

theorem getVdpaVhostDevices_keeps : Footprint S R (getVdpaVhostDevices env) := by
  unfold getVdpaVhostDevices
  refine (Footprint.execute env _).bind fun _ => ?_
  split
  · exact .pure _
  · exact .throw _

theorem configureVdpaVhostDevice_keeps (pci : List Char) :
    Footprint S R (configureVdpaVhostDevice env pci) :=
  (Footprint.execute env _).bind fun _ => .pure _

theorem configureFlowSteering_keeps (pfName steeringMode : List Char) :
    Footprint S R (configureFlowSteering env pfName steeringMode) := by
  unfold configureFlowSteering
  refine (getPfPci_keeps env pfName).bind fun _ =>
    Footprint.tryCatch ((Footprint.execute env _).bind fun _ => .pure _) fun _ => ?_
  split
  · exact .pure _
  · exact .throw _

theorem pfInterfaceUp_keeps (p : PfItem) : Footprint S R (pfInterfaceUp env p) := by
  unfold pfInterfaceUp
  lift_lets
  intro jp
  have hjp : ∀ y, Footprint S R (jp y) := fun _ => runIpConfigCmd_keeps env _
  split
  · exact (runIpConfigCmd_keeps env _).bind hjp
  · exact (Footprint.pure _).bind hjp

theorem getNumvfs_keeps (ifname : List Char) : Footprint S R (getNumvfs env ifname) :=
  (Footprint.perform env _ _).bind fun _ => .numvfsOf _

theorem pfConfigureStatus_keeps (p : PfItem) : Footprint S R (pfConfigureStatus env p) :=
  (getNumvfs_keeps env p.name).bind fun _ => .pure _

theorem udevMonitorStart_keeps : Footprint S R (udevMonitorStart env) :=
  (Footprint.perform env _ _).bind fun _ => .modify fun _ => ⟨rfl, rfl⟩

theorem udevMonitorStop_keeps : Footprint S R (udevMonitorStop env) :=
  (Footprint.perform env _ _).bind fun _ => .modify fun _ => ⟨rfl, rfl⟩

theorem restartOvsAndPfsNetdevs_keeps : Footprint S R (restartOvsAndPfsNetdevs env) := by
  unfold restartOvsAndPfsNetdevs
  refine (Footprint.execute env _).bind fun _ => .forM _ fun _ _ => ?_
  split
  · exact (ifDownInterface_keeps env _).bind fun _ => ifUpInterface_keeps env _
  · exact .pure _

theorem reloadUdevRules_keeps : Footprint S R (reloadUdevRules env) :=
  (Footprint.execute env _).bind fun _ => .pure _

theorem triggerUdevRules_keeps : Footprint S R (triggerUdevRules env) :=
  (Footprint.execute env _).bind fun _ => .pure _

theorem vfEvent_keeps (pfName device : List Char) (hR : R (basename device, ⟨device, pfName⟩)) :
    Footprint S R (vfEvent env pfName device) := fun c s => by
  rcases vfEvent_cases env pfName device c s with h | ⟨e, h⟩ | ⟨h, hnew, -⟩ <;> rw [h]
  · exact .refl _
  · exact .refl _
  · exact ⟨fun _ _ => rfl, .snoc hR hnew⟩

theorem waitLoop_keeps (pfName : List Char) (numvfs : Int) (hR : ∀ d, R (basename d, ⟨d, pfName⟩)) :
    ∀ vfCount queue, Footprint S R (waitLoop env pfName numvfs vfCount queue)
  | _, [] => by
    rw [waitLoop]
    exact Footprint.ite (Footprint.bind (Footprint.modify fun _ => ⟨rfl, rfl⟩) fun _ => .pure _)
      (.pure _)
  | _, d :: rest => by
    rw [waitLoop]
    exact Footprint.ite (Footprint.bind (Footprint.modify fun _ => ⟨rfl, rfl⟩) fun _ =>
      Footprint.bind (vfEvent_keeps env _ d (hR d)) fun _ => waitLoop_keeps pfName numvfs hR _ rest)
      (.pure _)

theorem setNumvfs_keeps (ifname : List Char) (numvfs : Int) (hR : ∀ d, R (basename d, ⟨d, ifname⟩)) :
    FootprintM S R (setNumvfs env ifname numvfs) := by
  unfold setNumvfs waitForVfCreation
  refine (FootprintM.liftSys (getNumvfs_keeps env ifname)).bind fun _ =>
    .ite (.ite (.pure _) ?_) (.pure _)
  exact (FootprintM.tryCatch (.writeNumvfs env _ _ _) fun _ => .throw _).bind fun _ =>
    (FootprintM.liftSys (Footprint.get.bind fun _ => waitLoop_keeps env _ _ hR _ _)).bind fun _ =>
      (FootprintM.liftSys (getNumvfs_keeps env ifname)).bind fun _ => .ite (.throw _) (.pure _)

theorem configureVfPcis_keeps (vdpa : Bool) (vdpaDevices : Option (List (List Char)))
    (vfPcisList : List (List Char)) :
    Footprint S R (configureVfPcis env vdpa vdpaDevices vfPcisList) := by
  unfold configureVfPcis
  refine .forM _ fun _ _ => .ite (driverUnbind_keeps env _) ?_
  split
  · exact .throw _
  · exact .ite (configureVdpaVhostDevice_keeps env _) (.pure _)

end Readers

/-! ### The files the program writes -/

/-- The regular files the program writes: its two udev rule files, the representor naming
script, and the three files of the puppet cleanup. -/
def ownFiles : List (List Char) :=
  [udevRuleFile, udevLegacyRuleFile, repLinkNameFile, resetSriovRulesFile, allocateVfsFile,
    ifupLocalFile]

/-- A set of files that holds every file the program and its helpers write but the legacy rule
file, which only the PFs of `WantsLegacyRule` write, and the log file, which only `main` opens. -/
structure HoldsWrites (env : Env) (S : List Char → Prop) : Prop where
  rule : S udevRuleFile
  script : S repLinkNameFile
  resetRules : S resetSriovRulesFile
  allocateVfs : S allocateVfsFile
  ifupLocal : S ifupLocalFile
  helpers : ∀ e, ∀ path ∈ env.helperFiles e, S path

/-- A PF that `configure_sriov_pf` gives a legacy rule: legacy, and named by no VF entry. -/
def WantsLegacyRule (env : Env) (p : PfItem) : Prop :=
  p.linkMode = some "legacy".toList ∧ isPartitionedPf env.sriovMap p.name = false

theorem ownFiles_holdsWrites (env : Env) :
    HoldsWrites env fun path => path ∈ ownFiles ∨ ∃ e, path ∈ env.helperFiles e :=
  ⟨.inl (.head _), .inl (.tail _ (.tail _ (.head _))), .inl (.tail _ (.tail _ (.tail _ (.head _)))),
    .inl (.tail _ (.tail _ (.tail _ (.tail _ (.head _))))),
    .inl (.tail _ (.tail _ (.tail _ (.tail _ (.tail _ (.head _)))))), fun e _ hp => .inr ⟨e, hp⟩⟩

theorem HoldsWrites.mono {env : Env} {S T : List Char → Prop} (h : HoldsWrites env S)
    (hST : ∀ path, S path → T path) : HoldsWrites env T :=
  ⟨hST _ h.rule, hST _ h.script, hST _ h.resetRules, hST _ h.allocateVfs, hST _ h.ifupLocal,
    fun e path hp => hST _ (h.helpers e path hp)⟩

section Writers
variable (env : Env) {S : List Char → Prop} {R : List Char × VfLink → Prop}

theorem addUdevRule_keeps {udevFile : List Char} (h : S udevFile) (udevData pattern : List Char) :
    Footprint S R (addUdevRule env udevData udevFile pattern) := by
  have hwrite : ∀ a : PUnit, Footprint S R (do reloadUdevRules env; pure true) :=
    fun _ => (reloadUdevRules_keeps env).bind fun _ => .pure _
  unfold addUdevRule
  refine (Footprint.pathExists _).bind fun _ => .ite ((Footprint.writeFile env h).bind hwrite)
    ((Footprint.getFileData _).bind fun _ => ?_)
  exact .ite (.ite (.pure _) ((Footprint.writeFile env h).bind hwrite))
    ((Footprint.appendFile env h).bind hwrite)

theorem addUdevRuleForSriovPf_keeps (hS : HoldsWrites env S) (pfName : List Char) :
    Footprint S R (addUdevRuleForSriovPf env pfName) :=
  (getPfPci_keeps env pfName).bind fun _ => addUdevRule_keeps env hS.rule _ _

theorem addUdevRuleForLegacySriovPf_keeps (h : S udevLegacyRuleFile) (pfName : List Char)
    (numvfs : Int) : Footprint S R (addUdevRuleForLegacySriovPf env pfName numvfs) :=
  addUdevRule_keeps env h _ _

theorem addUdevRuleForVfRepresentors_keeps (hS : HoldsWrites env S) (pfName : List Char) :
    Footprint S R (addUdevRuleForVfRepresentors env pfName) := by
  unfold addUdevRuleForVfRepresentors createRepLinkNameScript
  refine (Footprint.sysfsData env _).bind fun _ => (getPfPci_keeps env pfName).bind fun _ => ?_
  split
  · exact .pure _
  · exact ((Footprint.writeFile env hS.script).bind fun _ =>
      .perform env _ _).bind fun _ => addUdevRule_keeps env hS.rule _ _

theorem addUdevRuleForVdpaRepresentors_keeps (hS : HoldsWrites env S) :
    Footprint S R (addUdevRuleForVdpaRepresentors env) :=
  Footprint.get.bind fun _ => .ite (addUdevRule_keeps env hS.rule _ _) (.throw _)

theorem cleanupPuppetConfig_keeps (hS : HoldsWrites env S) :
    Footprint S R (cleanupPuppetConfig env) := by
  unfold cleanupPuppetConfig
  lift_lets
  intro jp₁ jp₂
  have h₁ : ∀ y, Footprint S R (jp₁ y) := fun _ =>
    (Footprint.pathExists _).bind fun _ => .ite ((Footprint.getFileData _).bind fun _ =>
      .ite (Footprint.removeFile env hS.ifupLocal) (Footprint.writeFile env hS.ifupLocal)) (.pure _)
  have h₂ : ∀ y, Footprint S R (jp₂ y) := fun _ =>
    (Footprint.pathExists _).bind fun _ => .ite ((Footprint.removeFile env hS.allocateVfs).bind h₁)
      ((Footprint.pure _).bind h₁)
  exact (Footprint.pathExists _).bind fun _ => .ite ((Footprint.removeFile env hS.resetRules).bind h₂)
    ((Footprint.pure _).bind h₂)

theorem preparePf_keeps (p : PfItem) (hleg : WantsLegacyRule env p → S udevLegacyRuleFile) :
    Footprint S R (preparePf env p) := by
  unfold preparePf
  refine (pfInterfaceUp_keeps env p).bind fun _ => ?_
  lift_lets
  intro jp
  have hjp : ∀ y, Footprint S R (jp y) := fun _ => .ite (configureSwitchdev_keeps env _) (.pure _)
  split
  · split
    · next hl hp =>
      exact (addUdevRuleForLegacySriovPf_keeps env (hleg ⟨hl, by simpa using hp⟩) _ _).bind fun _ =>
        (Footprint.pure _).bind hjp
    · exact (Footprint.pure _).bind hjp
  · exact (Footprint.pure _).bind hjp

theorem finishPf_keeps (hS : HoldsWrites env S) (executionFromCli : Bool)
    (vdpaDevices : Option (List (List Char))) (p : PfItem) (acc : PfLoop) :
    Footprint S R (finishPf env executionFromCli vdpaDevices p acc) := by
  unfold finishPf
  lift_lets
  intro vdpa jp₁
  have h₁ : ∀ a, Footprint S R (jp₁ a) := fun _ =>
    .ite ((ifUpInterface_keeps env _).bind fun _ => .pure _) ((Footprint.pure _).bind fun _ => .pure _)
  refine .ite ((getVfPcisList_keeps env _).bind fun _ => ?_) (.pure _)
  lift_lets
  intro jp₂
  have h₂ : ∀ y, Footprint S R (jp₂ y) := fun _ =>
    (addUdevRule_keeps env hS.rule _ _).bind fun _ =>
      (addUdevRuleForSriovPf_keeps env hS _).bind fun _ =>
        (addUdevRuleForVfRepresentors_keeps env hS _).bind fun _ =>
          .ite ((configureFlowSteering_keeps env _ _).bind fun _ =>
              (configureSwitchdev_keeps env _).bind fun _ => (Footprint.pure _).bind h₁)
            ((addUdevRuleForVdpaRepresentors_keeps env hS).bind fun _ => (Footprint.pure _).bind h₁)
  exact (configureVfPcis_keeps env _ _ _).bind fun _ =>
    .ite ((Footprint.callHelper env (hS.helpers _)).bind h₂) ((Footprint.pure _).bind h₂)

theorem VfCall.run_keeps (hS : HoldsWrites env S) (k : VfCall) : Footprint S R (k.run env) := by
  cases k with
  | cmd argv => exact runIpConfigCmd_keeps env argv
  | safe raiseError argv => exact runIpConfigCmdSafe_keeps env raiseError argv
  | driverctl pciAddress driver => exact .callHelper env (hS.helpers _)

theorem configureSriovVf_keeps (hS : HoldsWrites env S) : Footprint S R (configureSriovVf env) := by
  rw [configureSriovVf_eq]
  exact .forM _ fun k _ => VfCall.run_keeps env hS k

theorem beforePfLoop_keeps (hS : HoldsWrites env S) : Footprint S R (beforePfLoop env) :=
  (udevMonitorStart_keeps env).bind fun _ => (cleanupPuppetConfig_keeps env hS).bind fun _ =>
    .ite ((Footprint.callHelper env (hS.helpers _)).bind fun _ => (getVdpaVhostDevices_keeps env).map)
      (.pure _)

theorem afterPfLoop_keeps (hS : HoldsWrites env S) (executionFromCli restartOpenvswitch : Bool)
    (acc : PfLoop) :
    Footprint S R (afterPfLoop env executionFromCli restartOpenvswitch acc) := by
  unfold afterPfLoop
  lift_lets
  intro jp₁ jp₂
  have h₁ : ∀ y, Footprint S R (jp₁ y) := fun _ =>
    (udevMonitorStop_keeps env).bind fun _ => .ite (restartOvsAndPfsNetdevs_keeps env) (.pure _)
  have h₂ : ∀ y, Footprint S R (jp₂ y) := fun _ =>
    .ite ((triggerUdevRules_keeps env).bind h₁) ((Footprint.pure _).bind h₁)
  refine .ite ?_ ((Footprint.pure _).bind h₂)
  split
  · exact (Footprint.throw _).bind h₂
  · exact .ite (.ite ((Footprint.callHelper env (hS.helpers _)).bind h₂)
      ((Footprint.callHelper env (hS.helpers _)).bind fun _ =>
        (Footprint.callHelper env (hS.helpers _)).bind h₂))
      ((Footprint.pure _).bind h₂)

section Loop
variable (hS : HoldsWrites env S)
  (hleg : ∀ p, SriovItem.pf p ∈ env.sriovMap → WantsLegacyRule env p → S udevLegacyRuleFile)
include hS hleg

theorem configurePfItem_keeps
    (hR : ∀ pfName numvfs d, mapAllows env.sriovMap pfName numvfs → R (basename d, ⟨d, pfName⟩))
    (executionFromCli : Bool) (vdpaDevices : Option (List (List Char))) (acc : PfLoop)
    (item : SriovItem) (hi : item ∈ env.sriovMap) :
    FootprintM S R (configurePfItem env executionFromCli vdpaDevices acc item) := by
  cases item with
  | vf _ => exact .pure _
  | pf p =>
    exact (FootprintM.liftSys (pfConfigureStatus_keeps env p)).bind fun _ =>
      .ite (.pure _) ((FootprintM.liftSys (preparePf_keeps env p (hleg p hi))).bind fun _ =>
        (setNumvfs_keeps env _ _ fun d => hR _ _ d ⟨p, hi, rfl, rfl⟩).bind fun _ =>
          .liftSys (finishPf_keeps env hS _ _ _ _))

theorem configureSriovPf_keeps
    (hR : ∀ pfName numvfs d, mapAllows env.sriovMap pfName numvfs → R (basename d, ⟨d, pfName⟩))
    (executionFromCli restartOpenvswitch : Bool) :
    FootprintM S R (configureSriovPf env executionFromCli restartOpenvswitch) :=
  (FootprintM.liftSys (beforePfLoop_keeps env hS)).bind fun _ =>
    (FootprintM.foldlM _ _ fun acc item hi =>
      configurePfItem_keeps env hS hleg hR _ _ acc item hi).bind fun _ =>
      .liftSys (afterPfLoop_keeps env hS _ _ _)

theorem mainMode_keeps (opts : Opts)
    (hR : ∀ pfName numvfs d, mainAllows env opts pfName numvfs → R (basename d, ⟨d, pfName⟩)) :
    FootprintM S R (mainMode env opts) := by
  unfold mainMode
  split
  · next hn =>
    refine .ite ?_ (.pure _)
    split
    · next deviceName count h =>
      have ha : mainAllows env opts deviceName (PyRe.decimalValue env.uni (strip count)) := by
        rw [mainAllows, if_pos hn]
        exact ⟨count, h, rfl⟩
      exact (setNumvfs_keeps env _ _ fun d => hR _ _ d ha).bind fun _ => .pure _
    · exact .throw _
  · next hn =>
    have hm : ∀ pfName numvfs, mapAllows env.sriovMap pfName numvfs →
        mainAllows env opts pfName numvfs := fun _ _ h => by rwa [mainAllows, if_neg hn]
    exact (configureSriovPf_keeps env hS hleg (fun _ _ d h => hR _ _ d (hm _ _ h)) _ _).bind
      fun _ => (FootprintM.liftSys (configureSriovVf_keeps env hS)).bind fun _ => .pure _

/-- `main` also writes its log file. -/
theorem main_keeps (hlog : S env.logFile) (opts : Opts)
    (hR : ∀ pfName numvfs d, mainAllows env opts pfName numvfs → R (basename d, ⟨d, pfName⟩)) :
    FootprintM S R (main env opts) := fun w => by
  rw [main_run, EStateM.Result.state_mapState]
  exact ((Within.appendTo hlog []).trans
    (mainMode_keeps env hS hleg opts hR ⟨w.kernel, w.sys.appendTo env.logFile []⟩)).trans
    (Within.appendTo hlog _)

end Loop

end Writers

/-- Over every sriov map and every run, however it ends, of `configure_sriov_pf` with either flag
and of `main` in either mode, every regular file is left as it was but the two udev rule files,
the representor naming script, the three files of the puppet cleanup, the files the helpers of
`common` and `sriov_bind_config` write, and for `main` the log file it opens on every run. -/
theorem sriov_config_writes_only_own_files (env : Env) (path : List Char) (h : path ∉ ownFiles)
    (hh : ∀ e, path ∉ env.helperFiles e) :
    (∀ executionFromCli restartOpenvswitch w,
      ((configureSriovPf env executionFromCli restartOpenvswitch).run w).state.sys.files path =
        w.sys.files path) ∧
    (path ≠ env.logFile →
      ∀ opts w, ((main env opts).run w).state.sys.files path = w.sys.files path) :=
  have hleg : ∀ p, SriovItem.pf p ∈ env.sriovMap → WantsLegacyRule env p →
      udevLegacyRuleFile ∈ ownFiles ∨ ∃ e, udevLegacyRuleFile ∈ env.helperFiles e :=
    fun _ _ _ => .inl (.tail _ (.head _))
  have hout : ¬ (path ∈ ownFiles ∨ ∃ e, path ∈ env.helperFiles e) :=
    fun hp => hp.elim h fun ⟨e, he⟩ => hh e he
  ⟨fun _ _ w => (configureSriovPf_keeps env (ownFiles_holdsWrites env) hleg (R := fun _ => True)
      (fun _ _ _ _ => trivial) _ _ w).files path hout,
    fun hl opts w => (main_keeps env
      (S := fun p => (p ∈ ownFiles ∨ ∃ e, p ∈ env.helperFiles e) ∨ p = env.logFile)
      ((ownFiles_holdsWrites env).mono fun _ => Or.inl)
      (fun p hp hw => .inl (hleg p hp hw)) (.inr rfl) (R := fun _ => True) opts
      (fun _ _ _ _ => trivial) w).files path fun hp => hp.elim hout hl⟩

theorem sriov_config_keeps_fstab :
    "/etc/fstab".toList ∉ ownFiles ∧ (∀ e, "/etc/fstab".toList ∉ quietEnv.helperFiles e) ∧
    "/etc/fstab".toList ≠ quietEnv.logFile ∧
    (∀ executionFromCli restartOpenvswitch w,
      ((configureSriovPf quietEnv executionFromCli restartOpenvswitch).run w).state.sys.files
        "/etc/fstab".toList = w.sys.files "/etc/fstab".toList) ∧
    ∀ opts w, ((main quietEnv opts).run w).state.sys.files "/etc/fstab".toList =
      w.sys.files "/etc/fstab".toList :=
  have h : "/etc/fstab".toList ∉ ownFiles := by decide
  have hh : ∀ e, "/etc/fstab".toList ∉ quietEnv.helperFiles e := fun _ => List.not_mem_nil _
  have hl : "/etc/fstab".toList ≠ quietEnv.logFile := by decide
  ⟨h, hh, hl, (sriov_config_writes_only_own_files quietEnv _ h hh).1,
    (sriov_config_writes_only_own_files quietEnv _ h hh).2 hl⟩

/-- Over every sriov map in which each legacy PF has a VF entry naming it (`is_partitioned_pf`),
every run, however it ends, of `configure_sriov_pf` with either flag and of `main` in either mode
leaves the legacy udev rule file as it was. -/
theorem sriov_config_keeps_legacy_rules_of_partitioned_pfs (env : Env)
    (h : ∀ p, SriovItem.pf p ∈ env.sriovMap → p.linkMode = some "legacy".toList →
      isPartitionedPf env.sriovMap p.name = true) :
    (∀ executionFromCli restartOpenvswitch w,
      ((configureSriovPf env executionFromCli restartOpenvswitch).run w).state.sys.files
        udevLegacyRuleFile = w.sys.files udevLegacyRuleFile) ∧
    ∀ opts w, ((main env opts).run w).state.sys.files udevLegacyRuleFile =
      w.sys.files udevLegacyRuleFile :=
  -- the log and the helpers write outside `/etc/udev/`, where the legacy rule file is
  have hout : ∀ p, (p = env.logFile ∨ ∃ e, p ∈ env.helperFiles e) → p ≠ udevLegacyRuleFile :=
    fun p hp he => env.writes_outside_udev p hp (by rw [he]; decide)
  have hS : HoldsWrites env (· ≠ udevLegacyRuleFile) :=
    ⟨by decide, by decide, by decide, by decide, by decide, fun e p hp => hout p (.inr ⟨e, hp⟩)⟩
  have hleg : ∀ p, SriovItem.pf p ∈ env.sriovMap → WantsLegacyRule env p →
      udevLegacyRuleFile ≠ udevLegacyRuleFile :=
    fun p hp hw => absurd (h p hp hw.1) (by simp [hw.2])
  ⟨fun _ _ w => (configureSriovPf_keeps env hS hleg (R := fun _ => True) (fun _ _ _ _ => trivial)
      _ _ w).files _ fun hs => hs rfl,
    fun opts w => (main_keeps env hS hleg (hout _ (.inl rfl)) (R := fun _ => True) opts
      (fun _ _ _ _ => trivial) w).files _ fun hs => hs rfl⟩

/-- Over every sriov map and every run, however it ends, of `configure_sriov_pf` with either flag
and of `main` in either mode, `vf_to_pf` grows as a dict: the run only appends to it, keeps its
keys distinct, and keys each entry it adds by the basename of the entry's device path, with as PF
one whose count the run may write (a PF of the map, or the device of `--numvfs`). -/
theorem sriov_config_extends_vf_to_pf (env : Env) :
    (∀ executionFromCli restartOpenvswitch w,
      ExtendsVfToPf (fun e => e.1 = basename e.2.device ∧ ∃ numvfs, mapAllows env.sriovMap e.2.pf numvfs)
        w.sys.vfToPf ((configureSriovPf env executionFromCli restartOpenvswitch).run w).state.sys.vfToPf) ∧
    ∀ opts w,
      ExtendsVfToPf (fun e => e.1 = basename e.2.device ∧ ∃ numvfs, mainAllows env opts e.2.pf numvfs)
        w.sys.vfToPf ((main env opts).run w).state.sys.vfToPf :=
  have hS : HoldsWrites env fun _ => True :=
    ⟨trivial, trivial, trivial, trivial, trivial, fun _ _ _ => trivial⟩
  ⟨fun _ _ w => (configureSriovPf_keeps env hS (fun _ _ _ => trivial)
      (fun _ _ _ h => ⟨rfl, _, h⟩) _ _ w).vfToPf,
    fun opts w => (main_keeps env hS (fun _ _ _ => trivial) trivial opts (fun _ _ _ h => ⟨rfl, _, h⟩)
      w).vfToPf⟩

/-- A legacy PF `p1` whose VF `p1_0` the host uses. -/
def partitionedEnv : Env :=
  { quietEnv with sriovMap := [.pf ⟨"p1".toList, 4, none, some "legacy".toList, false, none⟩,
      .vf ⟨"p1_0".toList, "p1".toList, 0, none, none, none, none, none, none, none, none, none,
        none, "0000:06:00.2".toList⟩] }

theorem sriov_config_keeps_legacy_rules_of_p1_partitioned :
    (∀ p, SriovItem.pf p ∈ partitionedEnv.sriovMap → p.linkMode = some "legacy".toList →
      isPartitionedPf partitionedEnv.sriovMap p.name = true) ∧
    (∀ executionFromCli restartOpenvswitch w,
      ((configureSriovPf partitionedEnv executionFromCli restartOpenvswitch).run w).state.sys.files
        udevLegacyRuleFile = w.sys.files udevLegacyRuleFile) ∧
    ∀ opts w, ((main partitionedEnv opts).run w).state.sys.files udevLegacyRuleFile =
      w.sys.files udevLegacyRuleFile :=
  have h : ∀ p, SriovItem.pf p ∈ partitionedEnv.sriovMap → p.linkMode = some "legacy".toList →
      isPartitionedPf partitionedEnv.sriovMap p.name = true := fun p hp _ => by
    obtain he | hv := List.mem_cons.mp hp
    · rw [SriovItem.pf.inj he]
      rfl
    · simp at hv
  ⟨h, sriov_config_keeps_legacy_rules_of_partitioned_pfs partitionedEnv h⟩

end SriovConfig.Frame
