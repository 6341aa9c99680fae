import SriovConfig.Observer
import Mathlib.Tactic.LiftLets

/-! When udev is triggered. The PF loop of `configure_sriov_pf` carries `trigger_udev_rule`, or-ed
with what `add_udev_rule_for_sriov_pf`, `add_udev_rule_for_vf_representors` and
`add_udev_rule_for_vdpa_representors` return, and `add_udev_rule` returns `True` only after it
wrote its file. Over every map and every run, of `configure_sriov_pf` and of `main`, udev is
triggered only after the run wrote the primary rule file. The converse does not hold: the value of
`add_udev_rule_to_unmanage_vf_representors_by_nm()` is dropped, so a run whose only new rule is
that one reloads the rules without triggering them. -/
set_option autoImplicit false

namespace SriovConfig.UdevTrigger
open System Trace Commands UdevFiles ConfigurePf Cli Observer

/-- Some action of `l` writes or appends to the file `path`. -/
def WroteFile (path : List Char) (l : List Effect) : Prop :=
  ∃ content, .writeFile path content ∈ l ∨ .appendFile path content ∈ l

/-- The value `b` returned is `True` only after a write to `path`. -/
def Reports (path : List Char) (b : Bool) (l : List Effect) : Prop := b = true → WroteFile path l

/-- The flag `t` is set only if `t₀` was, or `l` wrote the primary rule file. -/
def Sound (t₀ t : Bool) (l : List Effect) : Prop := t = true → t₀ = true ∨ WroteFile udevRuleFile l

section Flag
variable {path : List Char} {l l₁ l₂ : List Effect} {t₀ t u b : Bool}

theorem WroteFile.append_left (h : WroteFile path l₂) : WroteFile path (l₁ ++ l₂) :=
  let ⟨c, h⟩ := h
  ⟨c, h.imp (List.mem_append_right _) (List.mem_append_right _)⟩

theorem WroteFile.append_right (h : WroteFile path l₁) : WroteFile path (l₁ ++ l₂) :=
  let ⟨c, h⟩ := h
  ⟨c, h.imp (List.mem_append_left _) (List.mem_append_left _)⟩

theorem Reports.append_left (h : Reports path b l₂) : Reports path b (l₁ ++ l₂) :=
  fun hb => (h hb).append_left

theorem Sound.refl : Sound t t l := .inl

theorem Sound.append_left (h : Sound t₀ t l₂) : Sound t₀ t (l₁ ++ l₂) :=
  fun ht => (h ht).imp_right WroteFile.append_left

theorem Sound.append_right (h : Sound t₀ t l₁) : Sound t₀ t (l₁ ++ l₂) :=
  fun ht => (h ht).imp_right WroteFile.append_right

theorem Sound.trans (h₁ : Sound t₀ u l₁) (h₂ : Sound u t l₂) : Sound t₀ t (l₁ ++ l₂) :=
  fun ht => (h₂ ht).elim (fun h => (h₁ h).imp_right WroteFile.append_right)
    fun h => .inr h.append_left

theorem Sound.or_left (hb : Reports udevRuleFile b l₁) (h : Sound (b || t₀) t l₂) :
    Sound t₀ t (l₁ ++ l₂) :=
  Sound.trans (u := b || t₀) (by cases b; exacts [.inl, fun _ => .inr (hb rfl)]) h

end Flag

/-! ### What the rule writers return -/

section Writers
variable (env : Env) {α β : Type}

theorem Returns.after {x : SysM α} {f : α → SysM β} {T : β → List Effect → Prop}
    (hx : Emits Still x) (hf : ∀ a, Returns T (f a)) (hT : ∀ b l₁ l₂, T b l₂ → T b (l₁ ++ l₂)) :
    Returns T (x >>= f) :=
  Returns.bind (Returns.of_appends hx) hf fun _ b l₁ l₂ _ h => hT b l₁ l₂ h

theorem Returns.flag_bind {x : SysM Bool} {f : Bool → SysM β} {F : β → Bool} {t₀ : Bool}
    (hx : Returns (Reports udevRuleFile) x)
    (hf : ∀ b, Returns (fun a l => Sound (b || t₀) (F a) l) (f b)) :
    Returns (fun a l => Sound t₀ (F a) l) (x >>= f) :=
  Returns.bind hx hf fun _ _ _ _ => Sound.or_left

theorem writeFile_appends (path content : List Char) :
    Appends (· = [.writeFile path content]) (writeFile env path content) :=
  Appends.bind_nil (Appends.perform env _ _) fun _ => Emits.modify fun _ => rfl

theorem appendFile_appends (path content : List Char) :
    Appends (· = [.appendFile path content]) (appendFile env path content) :=
  Appends.bind_nil (Appends.perform env _ _) fun _ => Emits.modify fun _ => rfl

theorem addUdevRule_returns (udevData udevFile pattern : List Char) :
    Returns (Reports udevFile) (addUdevRule env udevData udevFile pattern) := by
  have hwrote : ∀ {e : Effect} {x : SysM PUnit}, (∃ c, e = .writeFile udevFile c ∨
      e = .appendFile udevFile c) → Appends (· = [e]) x →
      Returns (Reports udevFile) (x >>= fun _ => do reloadUdevRules env; pure true) :=
    fun ⟨c, he⟩ hx => Returns.bind (Returns.of_appends hx)
      (fun _ => Returns.of_appends ((reloadUdevRules_emits env).bind fun _ => Emits.pure _))
      fun _ _ l₁ _ h₁ _ _ => ⟨c, by rw [h₁]; rcases he with rfl | rfl <;> simp⟩
  unfold addUdevRule
  refine Returns.after (Emits.of_state fun _ _ => rfl) (fun _ => Returns.ite
    (fun _ => hwrote ⟨_, .inl rfl⟩ (writeFile_appends env _ _)) fun _ =>
      Returns.after (Emits.of_state fun _ _ => rfl) (fun _ => ?_) fun _ _ _ => Reports.append_left)
    fun _ _ _ => Reports.append_left
  exact Returns.ite (fun _ => Returns.ite (fun _ => Returns.pure Bool.noConfusion)
      fun _ => hwrote ⟨_, .inl rfl⟩ (writeFile_appends env _ _))
    fun _ => hwrote ⟨_, .inr rfl⟩ (appendFile_appends env _ _)

theorem addUdevRuleForSriovPf_returns (pfName : List Char) :
    Returns (Reports udevRuleFile) (addUdevRuleForSriovPf env pfName) :=
  Returns.after (getPfPci_emits env pfName) (fun _ => addUdevRule_returns env _ _ _)
    fun _ _ _ => Reports.append_left

theorem addUdevRuleForVfRepresentors_returns (pfName : List Char) :
    Returns (Reports udevRuleFile) (addUdevRuleForVfRepresentors env pfName) := by
  unfold addUdevRuleForVfRepresentors createRepLinkNameScript
  refine Returns.after (Emits.of_state fun _ _ => rfl) (fun _ => Returns.after
    (getPfPci_emits env pfName) (fun _ => ?_) fun _ _ _ => Reports.append_left)
    fun _ _ _ => Reports.append_left
  split
  · exact Returns.pure Bool.noConfusion
  · exact Returns.after (Emits.bind (Emits.writeFile env ⟨rfl, rfl⟩) fun _ =>
      Emits.perform env ⟨rfl, rfl⟩) (fun _ => addUdevRule_returns env _ _ _)
      fun _ _ _ => Reports.append_left

theorem addUdevRuleForVdpaRepresentors_returns :
    Returns (Reports udevRuleFile) (addUdevRuleForVdpaRepresentors env) :=
  Returns.after Emits.get (fun _ => Returns.ite (fun _ => addUdevRule_returns env _ _ _)
    fun _ => Returns.throw _) fun _ _ _ => Reports.append_left

theorem finishPf_returns (executionFromCli : Bool) (vdpaDevices : Option (List (List Char)))
    (p : PfItem) (acc : PfLoop) :
    Returns (fun acc' l => Sound acc.triggerUdevRule acc'.triggerUdevRule l)
      (finishPf env executionFromCli vdpaDevices p acc) := by
  unfold finishPf
  lift_lets
  intro vdpa jp₁
  have h₁ : ∀ a, Returns (fun b _ => b = a) (jp₁ a) := fun _ =>
    Returns.ite (fun _ => Returns.after (ifUpInterface_emits env _) (fun _ => Returns.pure rfl)
      fun _ _ _ h => h) fun _ => Returns.after (Emits.pure _) (fun _ => Returns.pure rfl) fun _ _ _ h => h
  have hjp : ∀ {t : Bool} (a : PfLoop), Sound t a.triggerUdevRule [] →
      Returns (fun b l => Sound t b.triggerUdevRule l) (pure a >>= jp₁) := fun _ ha =>
    Returns.bind (U := fun b l => Sound _ b.triggerUdevRule l) (Returns.pure ha) h₁
      fun _ _ _ _ h hb => hb ▸ h.append_right
  refine Returns.ite (fun _ => Returns.after (getVfPcisList_emits env _) (fun _ => ?_)
    fun _ _ _ => Sound.append_left) fun _ => Returns.pure Sound.refl
  lift_lets
  intro jp₂
  have h₂ : ∀ y, Returns (fun b l => Sound acc.triggerUdevRule b.triggerUdevRule l) (jp₂ y) :=
    fun _ => Returns.after (addUdevRule_emits env _ _ _) (fun _ =>
      Returns.flag_bind (addUdevRuleForSriovPf_returns env _) fun _ =>
        Returns.flag_bind (addUdevRuleForVfRepresentors_returns env _) fun _ => Returns.ite
          (fun _ => Returns.after (configureFlowSteering_emits env _ _) (fun _ =>
            Returns.after (configureSwitchdev_emits env _) (fun _ => hjp _ Sound.refl)
              fun _ _ _ => Sound.append_left) fun _ _ _ => Sound.append_left)
          fun _ => Returns.flag_bind (addUdevRuleForVdpaRepresentors_returns env) fun _ =>
            hjp _ Sound.refl) fun _ _ _ => Sound.append_left
  exact Returns.after (configureVfPcis_emits env _ _ _) (fun _ => Returns.ite
    (fun _ => Returns.after (Emits.callHelper env ⟨rfl, rfl⟩) h₂ fun _ _ _ => Sound.append_left)
    fun _ => Returns.after (Emits.pure _) h₂ fun _ _ _ => Sound.append_left)
    fun _ _ _ => Sound.append_left

theorem afterPfLoop_triggers (executionFromCli restartOpenvswitch : Bool) (acc : PfLoop) :
    Emits (fun e => isTrigger e = true → acc.triggerUdevRule = true)
      (afterPfLoop env executionFromCli restartOpenvswitch acc) := by
  cases ht : acc.triggerUdevRule
  · refine Emits.mono (Q := fun e => isTrigger e = false) ?_ fun _ h h' => h ▸ h'
    unfold afterPfLoop udevMonitorStop
    lift_lets
    intro jp₁ jp₂
    have h₁ : ∀ y, Emits (fun e => isTrigger e = false) (jp₁ y) := fun _ =>
      Emits.bind (Emits.bind (Emits.perform env rfl) fun _ => Emits.modify fun _ => rfl) fun _ =>
        Emits.ite ((restartOvsAndPfsNetdevs_emits env).mono fun _ h => h.2) (Emits.pure _)
    have h₂ : ∀ y, Emits (fun e => isTrigger e = false) (jp₂ y) := fun _ => by
      show Emits _ (if acc.triggerUdevRule = true then _ else _)
      rw [ht, if_neg Bool.false_ne_true]
      exact (Emits.pure _).bind h₁
    refine Emits.ite ?_ ((Emits.pure _).bind h₂)
    split
    · exact (Emits.throw _).bind h₂
    · exact Emits.ite (Emits.ite (Emits.bind (Emits.callHelper env rfl) h₂)
        (Emits.bind (Emits.callHelper env rfl) fun _ => Emits.bind (Emits.callHelper env rfl) h₂))
        ((Emits.pure _).bind h₂)
  · exact (afterPfLoop_appends env _ _ acc).mono fun _ _ _ _ _ => rfl

end Writers

/-! ### Every run -/

/-- Every trigger of udev in `l` comes after a write of the primary rule file. -/
def TriggersAfterRules (l : List Effect) : Prop :=
  Preceded (fun e pre => isTrigger e = true → WroteFile udevRuleFile pre) l

theorem isTrigger_eq_false_of_quiet {e : Effect} (h : Quiet e) : isTrigger e = false := by
  cases e <;> first | rfl | exact h

section Run
variable {l l' : List Effect}

theorem TriggersAfterRules.append (h : TriggersAfterRules l)
    (h' : ∀ e ∈ l', isTrigger e = true → WroteFile udevRuleFile l) :
    TriggersAfterRules (l ++ l') :=
  Preceded.append h h' fun _ _ _ h hw => (h hw).append_right

theorem TriggersAfterRules.append_quiet (h : TriggersAfterRules l)
    (h' : ∀ e ∈ l', isTrigger e = false) : TriggersAfterRules (l ++ l') :=
  h.append fun e he ht => Bool.noConfusion ((h' e he).symm.trans ht)

/-- The actions so far: no trigger before a rule write, and the flag `t` set only after one. -/
def FlagInv (t : Bool) (l : List Effect) : Prop := TriggersAfterRules l ∧ Sound false t l

theorem FlagInv.append_quiet {t : Bool} (h : FlagInv t l) (h' : ∀ e ∈ l', isTrigger e = false) :
    FlagInv t (l ++ l') :=
  ⟨h.1.append_quiet h', h.2.append_right⟩

variable (env : Env) (t₀ : List Effect)

/-- The PF loop so far, with the accumulator `acc`. -/
def LoopInv (acc : PfLoop) : World → Prop := Since t₀ (FlagInv acc.triggerUdevRule)

theorem since_flagInv {t : Bool} {w : World} (h : Since t₀ (FlagInv t) w) :
    Since t₀ TriggersAfterRules w :=
  let ⟨l, hl, hp⟩ := h
  ⟨l, hl, hp.1⟩

theorem Triple.untriggered {α : Type} {acc : PfLoop} {x : M α}
    (h : EmitsM (fun e => isTrigger e = false) x) :
    Triple (LoopInv t₀ acc) x (fun _ => LoopInv t₀ acc) (Since t₀ TriggersAfterRules) :=
  (Triple.since_emitsM (P := FlagInv acc.triggerUdevRule) (S := FlagInv acc.triggerUdevRule) h
    fun _ _ hp hq => hp.append_quiet hq).mono (fun _ h => h) (fun _ _ h => h)
    fun _ => since_flagInv t₀

theorem Triple.quiet {α : Type} {acc : PfLoop} {x : SysM α} (h : Emits Still x) :
    Triple (LoopInv t₀ acc) (liftSys x) (fun _ => LoopInv t₀ acc) (Since t₀ TriggersAfterRules) :=
  Triple.untriggered t₀ (EmitsM.liftSys (h.mono fun _ he => isTrigger_eq_false_of_quiet he.1))

theorem setNumvfs_untriggered (ifname : List Char) (numvfs : Int) :
    EmitsM (fun e => isTrigger e = false) (Numvfs.setNumvfs env ifname numvfs) :=
  (setNumvfs_emits env ifname numvfs).mono fun _ he =>
    he.elim (isTrigger_eq_false_of_quiet ·.1) fun h => h ▸ rfl

theorem finishPf_loopInv (executionFromCli : Bool) (vdpaDevices : Option (List (List Char)))
    (p : PfItem) (acc : PfLoop) :
    Triple (LoopInv t₀ acc) (liftSys (finishPf env executionFromCli vdpaDevices p acc))
      (LoopInv t₀) (Since t₀ TriggersAfterRules) :=
  have hq : ∀ l' : List Effect, (∀ e ∈ l', Still e) → ∀ e ∈ l', isTrigger e = false :=
    fun _ hq e he => isTrigger_eq_false_of_quiet (hq e he).1
  (Triple.since_returns (P := FlagInv acc.triggerUdevRule)
    (V := fun acc' => FlagInv acc'.triggerUdevRule) (finishPf_emits env _ _ _ _)
    (finishPf_returns env _ _ _ _) (fun _ l' hp hs => hp.append_quiet (hq l' hs))
    fun _ _ l' hp hs hr => ⟨hp.1.append_quiet (hq l' hs), hp.2.trans hr⟩).mono
    (fun _ h => h) (fun _ _ => id) fun _ => since_flagInv t₀

theorem configurePfItem_loopInv (executionFromCli : Bool) (vdpaDevices : Option (List (List Char)))
    (acc : PfLoop) (item : SriovItem) :
    Triple (LoopInv t₀ acc) (configurePfItem env executionFromCli vdpaDevices acc item) (LoopInv t₀)
      (Since t₀ TriggersAfterRules) := by
  cases item with
  | vf _ => exact Triple.pure fun _ h => h
  | pf p =>
    simp only [configurePfItem]
    refine (Triple.quiet t₀ (pfConfigureStatus_emits env p)).bind fun _ => ?_
    split
    · exact Triple.pure fun _ h => h
    · exact (Triple.quiet t₀ (preparePf_emits env p)).bind fun _ =>
        (Triple.untriggered t₀ (setNumvfs_untriggered env p.name p.numvfs)).bind fun _ =>
        finishPf_loopInv env t₀ _ _ p acc

theorem beforePfLoop_loopInv :
    Triple (Since t₀ TriggersAfterRules) (liftSys (beforePfLoop env))
      (fun _ => LoopInv t₀ ⟨[], false, none⟩) (Since t₀ TriggersAfterRules) :=
  (Triple.since_emitsM (P := TriggersAfterRules) (S := FlagInv false)
    (AppendsM.liftSys ((beforePfLoop_appends env).mono fun _ ⟨_, hl, hs⟩ e he => by
      rw [hl] at he
      rcases List.mem_cons.mp he with rfl | he
      exacts [rfl, isTrigger_eq_false_of_quiet (hs e he).1]))
    fun _ _ ht hq => ⟨ht.append_quiet hq, Bool.noConfusion⟩).mono (fun _ h => h) (fun _ _ h => h)
    fun _ => since_flagInv t₀

theorem afterPfLoop_loopInv (executionFromCli restartOpenvswitch : Bool) (acc : PfLoop) :
    Triple (LoopInv t₀ acc) (liftSys (afterPfLoop env executionFromCli restartOpenvswitch acc))
      (fun _ => Since t₀ TriggersAfterRules) (Since t₀ TriggersAfterRules) :=
  Triple.since_emitsM (P := FlagInv acc.triggerUdevRule) (S := TriggersAfterRules)
    (EmitsM.liftSys (afterPfLoop_triggers env _ _ acc)) fun _ _ ⟨ht, hs⟩ hq =>
      ht.append fun e he htr => (hs (hq e he htr)).resolve_left Bool.false_ne_true

/-- A run of `configure_sriov_pf` keeps every trigger since `t₀` after a rule write. -/
theorem configureSriovPf_triggersAfterRules (executionFromCli restartOpenvswitch : Bool) :
    Triple (Since t₀ TriggersAfterRules)
      (configureSriovPf env executionFromCli restartOpenvswitch)
      (fun _ => Since t₀ TriggersAfterRules) (Since t₀ TriggersAfterRules) :=
  (beforePfLoop_loopInv env t₀).bind fun _ =>
    (Triple.foldlM_acc (I := LoopInv t₀) _ _ fun acc item _ =>
      configurePfItem_loopInv env t₀ executionFromCli _ acc item).bind fun acc =>
    afterPfLoop_loopInv env t₀ _ _ acc

/-- A run of `main` keeps every trigger since `t₀` after a rule write. -/
theorem main_triggersAfterRules (opts : Opts) :
    Triple (Since t₀ TriggersAfterRules) (main env opts) (fun _ => Since t₀ TriggersAfterRules)
      (Since t₀ TriggersAfterRules) := by
  have hkeep : ∀ {α : Type} {x : M α}, EmitsM (fun e => isTrigger e = false) x →
      Triple (Since t₀ TriggersAfterRules) x (fun _ => Since t₀ TriggersAfterRules)
        (Since t₀ TriggersAfterRules) :=
    fun h => Triple.since_emitsM h fun _ _ ht hq => ht.append_quiet hq
  refine main_triple env opts (fun _ h => h) (fun _ _ _ h => h) (fun _ _ h => h) ?_
  unfold mainMode
  split
  · split
    · split
      · exact (hkeep (setNumvfs_untriggered env _ _)).bind fun _ => Triple.pure fun _ h => h
      · exact Triple.throw fun _ h => h
    · exact Triple.pure fun _ h => h
  · exact (configureSriovPf_triggersAfterRules env t₀ false false).bind fun _ =>
      (hkeep (EmitsM.liftSys ((configureSriovVf_emits env).mono fun _ h => h.2))).bind fun _ =>
      Triple.pure fun _ h => h

end Run

/-- Over every sriov map and every run, however it ends, of `configure_sriov_pf` with either flag
and of `main` in either mode: each time udev is triggered, the run has already written or
appended to the primary rule file `80-persistent-os-net-config.rules`. -/
theorem sriov_config_triggers_udev_after_rule_write (env : Env) :
    (∀ executionFromCli restartOpenvswitch w, ∃ l,
      ((configureSriovPf env executionFromCli restartOpenvswitch).run w).state.sys.trace =
        w.sys.trace ++ l ∧
      ∀ pre post, l = pre ++ .execute triggerArgv :: post →
        ∃ c, .writeFile udevRuleFile c ∈ pre ∨ .appendFile udevRuleFile c ∈ pre) ∧
    ∀ opts w, ∃ l, ((main env opts).run w).state.sys.trace = w.sys.trace ++ l ∧
      ∀ pre post, l = pre ++ .execute triggerArgv :: post →
        ∃ c, .writeFile udevRuleFile c ∈ pre ∨ .appendFile udevRuleFile c ∈ pre :=
  have hstart : ∀ w : World, Since w.sys.trace TriggersAfterRules w :=
    fun _ => ⟨[], (List.append_nil _).symm, preceded_nil⟩
  have hend : ∀ {t : List Effect} {w' : World}, Since t TriggersAfterRules w' → ∃ l,
      w'.sys.trace = t ++ l ∧ ∀ pre post, l = pre ++ .execute triggerArgv :: post →
        ∃ c, .writeFile udevRuleFile c ∈ pre ∨ .appendFile udevRuleFile c ∈ pre :=
    fun ⟨l, hl, hp⟩ => ⟨l, hl, fun pre post he => hp pre _ post he (beq_self_eq_true _)⟩
  ⟨fun _ _ w => hend ((configureSriovPf_triggersAfterRules env w.sys.trace _ _).state (hstart w)
      (fun _ _ h => h) fun _ h => h),
    fun opts w => hend ((main_triggersAfterRules env w.sys.trace opts).state (hstart w)
      (fun _ _ h => h) fun _ h => h)⟩

end SriovConfig.UdevTrigger
