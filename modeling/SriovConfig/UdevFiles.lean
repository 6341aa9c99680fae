import SriovConfig.Commands
import Mathlib.Tactic.LiftLets

/-! `add_udev_rule` on the rule files, the emitters that call it, and the other files the run
writes: the script that names VF representors, and the cleanup of what puppet left behind. -/
set_option autoImplicit false

namespace SriovConfig.UdevFiles
open PyText PyRe Rules System Commands
open UdevRule (autogenHeader replaceLines rulePattern ruleFileAfter EndsAtBoundary Upserted)

/-- `_UDEV_RULE_FILE`. -/
def udevRuleFile : List Char := "/etc/udev/rules.d/80-persistent-os-net-config.rules".toList

/-- `_UDEV_LEGACY_RULE_FILE`. -/
def udevLegacyRuleFile : List Char := "/etc/udev/rules.d/70-os-net-config-sriov.rules".toList

/-- `_IFUP_LOCAL_FILE`. -/
def ifupLocalFile : List Char := "/sbin/ifup-local".toList

/-- `_RESET_SRIOV_RULES_FILE`. -/
def resetSriovRulesFile : List Char := "/etc/udev/rules.d/70-tripleo-reset-sriov.rules".toList

/-- `_ALLOCATE_VFS_FILE`. -/
def allocateVfsFile : List Char := "/etc/sysconfig/allocate_vfs".toList

/-- `_REP_LINK_NAME_DATA`. -/
def repLinkNameData : List Char :=
  ("#!/bin/bash\n# This file is autogenerated by os-net-config\nset -x\nPORT=\"$1\"\n" ++
    "echo \"NUMBER=$\x7bPORT##pf*vf\x7d\"\n").toList

/-- The text of a regular file as `open(path).read()` returns it. -/
def readFile (s : Sys) (path : List Char) : Option (List Char) := (s.files path).map universalNewlines

@[simp] theorem readFile_record (s : Sys) (e : Effect) (path : List Char) :
    readFile (s.record e) path = readFile s path := rfl

@[simp] theorem readFile_deliver (s : Sys) (events : List (List Char)) (path : List Char) :
    readFile (s.deliver events) path = readFile s path := rfl

@[simp] theorem readFile_setFile_self (s : Sys) (path content : List Char) :
    readFile (s.setFile path (some content)) path = some (universalNewlines content) := by
  simp [readFile]

section Defs
variable (env : Env)

def reloadUdevRules : SysM Unit := do
  let _ ← execute env ["/usr/sbin/udevadm".toList, "control".toList, "--reload-rules".toList]

def triggerUdevRules : SysM Unit := do
  let _ ← execute env ["/usr/sbin/udevadm".toList, "trigger".toList, "--action=add".toList,
    "--attr-match=subsystem=net".toList]

/-- `add_udev_rule(udev_data, udev_file, pattern)`; a `pattern` of `None` is `[]`. -/
def addUdevRule (udevData udevFile pattern : List Char) : SysM Bool := do
  let udevData := strip udevData
  let pattern := if pattern = [] then udevData else pattern
  if !(← pathExists udevFile) then do
    writeFile env udevFile (autogenHeader ++ '\n' :: udevData ++ ['\n'])
    reloadUdevRules env
    pure true
  else do
    let fileData ← getFileData udevFile
    let udevLines := splitlines fileData
    if pattern <:+: fileData then
      if udevData ∈ udevLines then pure false
      else do
        writeFile env udevFile (writeLines (replaceLines pattern udevData udevLines))
        reloadUdevRules env
        pure true
    else do
      appendFile env udevFile (udevData ++ ['\n'])
      reloadUdevRules env
      pure true

def createRepLinkNameScript : SysM Unit := do
  writeFile env repLinkNameFile repLinkNameData
  perform env (.chmod repLinkNameFile 0o755) (.os repLinkNameFile)

def addUdevRuleForSriovPf (pfName : List Char) : SysM Bool := do
  addUdevRule env (sriovPfRule (← getPfPci env pfName) pfName) udevRuleFile []

def addUdevRuleForLegacySriovPf (pfName : List Char) (numvfs : Int) : SysM Bool :=
  addUdevRule env (legacyRule pfName numvfs) udevLegacyRuleFile (legacyPattern pfName)

/-- `add_udev_rule_for_vf_representors(pf_name)`; its `return None` without a function number is
`false`, which the caller's `or` treats alike. -/
def addUdevRuleForVfRepresentors (pfName : List Char) : SysM Bool := do
  let physSwitchId := strip (← sysfsData env (env.devPath pfName "_phys_switch_id".toList))
  let pfPci ← getPfPci env pfName
  match pfFuncSearch env.uni pfPci with
  | none => pure false
  | some pfFunNum => do
    createRepLinkNameScript env
    addUdevRule env (vfRepresentorsRule physSwitchId pfFunNum pfName) udevRuleFile []

/-- `add_udev_rule_for_vdpa_representors(pf_name)`: a rule for every VF in `vf_to_pf`, of
whichever PF. The loop reads `common.interface_mac` of every VF before matching its path and
writes nothing until it ends, so an address that cannot be read raises before any rule. -/
def addUdevRuleForVdpaRepresentors : SysM Bool := do
  let vfToPf := (← get).vfToPf
  if vfToPf.all fun (vf, _) => (env.interfaceMac vf).isSome then
    addUdevRule env (vdpaRepresentorLines env.uni (fun vf => (env.interfaceMac vf).getD []) vfToPf)
      udevRuleFile []
  else throw (.helper "interface_mac".toList)

def addUdevRuleToUnmanageVfRepresentorsByNm : SysM Bool :=
  addUdevRule env unmanageRule udevRuleFile []

/-- `cleanup_puppet_config()`. -/
def cleanupPuppetConfig : SysM Unit := do
  if ← pathExists resetSriovRulesFile then removeFile env resetSriovRulesFile
  if ← pathExists allocateVfsFile then removeFile env allocateVfsFile
  if ← pathExists ifupLocalFile then do
    let fileContents := ((linesKeepEnds [] (← getFileData ifupLocalFile)).filter fun line =>
      !decide ("/etc/sysconfig/allocate_vfs".toList <:+: line)).flatten
    if strip fileContents = "#!/bin/bash".toList then removeFile env ifupLocalFile
    else writeFile env ifupLocalFile fileContents

end Defs

/-! ### `add_udev_rule` on the text it reads

The call writes what `UdevRule.addUdevRule` computes from the text `common.get_file_data`
reads, reloads udev exactly when it writes, and a failed write or reload leaves the file either
as it was or as written. -/

section Spec
variable (env : Env)

theorem reloadUdevRules_run (c : List Char → Int) (s : Sys) :
    reloadUdevRules env c s = perform env
      (.execute ["/usr/sbin/udevadm".toList, "control".toList, "--reload-rules".toList])
      (.processExecution ["/usr/sbin/udevadm".toList, "control".toList, "--reload-rules".toList])
      c s := by
  simp only [reloadUdevRules, sysM_bind, execute_run]
  cases perform env _ _ c s <;> rfl

theorem writeFile_holds (path content : List Char) (c : List Char → Int) (s : Sys) :
    (writeFile env path content c s).Holds
      (fun _ s1 => readFile s1 path = some (universalNewlines content) ∧
        ∃ e, s1.trace = s.trace ++ [e])
      (fun _ s1 => readFile s1 path = readFile s path) := by
  simp only [writeFile, sysM_bind, perform_run, sysM_modify]
  split <;> simp

theorem appendFile_holds (path content : List Char) (c : List Char → Int) (s : Sys) :
    (appendFile env path content c s).Holds
      (fun _ s1 => readFile s1 path = some (universalNewlines ((s.files path).getD [] ++ content)) ∧
        ∃ e, s1.trace = s.trace ++ [e])
      (fun _ s1 => readFile s1 path = readFile s path) := by
  simp only [appendFile, sysM_bind, perform_run, sysM_modify]
  split <;> simp

/-- A run of `add_udev_rule` from `s` that returned `b` in `s'`: `b` and the text read after it
are what `UdevRule.addUdevRule` gives on the text read before, and udev was reloaded, right
after the one write, exactly when `b`. -/
def Reconciled (udevData udevFile pattern : List Char) (s : Sys) (b : Bool) (s' : Sys) : Prop :=
  b = (UdevRule.addUdevRule udevData (readFile s udevFile) pattern).isSome ∧
    readFile s' udevFile = ruleFileAfter udevData (readFile s udevFile) pattern ∧
    if b then ∃ e, s'.trace = s.trace ++
      [e, .execute ["/usr/sbin/udevadm".toList, "control".toList, "--reload-rules".toList]]
    else s' = s

theorem write_reload_reconciled {udevData udevFile pattern t' : List Char} {w : SysM Unit}
    {c : List Char → Int} {s : Sys}
    (ht' : UdevRule.addUdevRule udevData (readFile s udevFile) pattern = some t')
    (hw : (w c s).Holds
      (fun _ s1 => readFile s1 udevFile = some t' ∧ ∃ e, s1.trace = s.trace ++ [e])
      (fun _ s1 => readFile s1 udevFile = readFile s udevFile)) :
    ((w >>= fun _ => reloadUdevRules env >>= fun _ => pure true) c s).Holds
      (Reconciled udevData udevFile pattern s)
      (fun _ s' => readFile s' udevFile = readFile s udevFile ∨
        readFile s' udevFile = ruleFileAfter udevData (readFile s udevFile) pattern) := by
  have hafter : ruleFileAfter udevData (readFile s udevFile) pattern = some t' := by
    simp [ruleFileAfter, ht']
  simp only [sysM_bind]
  rcases hr : w c s with ⟨_, s1⟩ | ⟨e, s1⟩ <;> rw [hr] at hw
  · obtain ⟨hf, e, he⟩ := hw
    simp only [EStateM.Result.andThen_ok, reloadUdevRules_run, perform_run]
    split <;> simp [Reconciled, hf, he, hafter, ht']
  · exact .inl hw

/-- `add_udev_rule` writes the text `UdevRule.addUdevRule` computes from what it reads, and
reloads udev exactly when it writes. -/
theorem addUdevRule_run (udevData udevFile pattern : List Char) (c : List Char → Int) (s : Sys)
    (hd : IsLine (strip udevData)) (hne : strip udevData ≠ []) :
    (addUdevRule env udevData udevFile pattern c s).Holds (Reconciled udevData udevFile pattern s)
      (fun _ s' => readFile s' udevFile = readFile s udevFile ∨
        readFile s' udevFile = ruleFileAfter udevData (readFile s udevFile) pattern) := by
  have hcr := cr_not_mem_of_isLine hd
  rcases hf : s.files udevFile with _ | raw
  · have hr : readFile s udevFile = none := by simp [readFile, hf]
    simp only [addUdevRule, sysM_bind, pathExists, hf, EStateM.Result.andThen_ok,
      Option.isSome_none, Bool.not_false, ↓reduceIte]
    have hx : '\r' ∉ autogenHeader ++ '\n' :: strip udevData ++ ['\n'] := by
      simp [hcr, show '\r' ∉ autogenHeader by decide]
    exact write_reload_reconciled env (by rw [hr, UdevRule.addUdevRule_absent])
      ((writeFile_holds env _ _ c s).mono
        (fun _ _ h => ⟨by rw [h.1, universalNewlines_of_cr_not_mem hx], h.2⟩) fun _ _ h => h)
  · have hr : readFile s udevFile = some (universalNewlines raw) := by simp [readFile, hf]
    simp only [addUdevRule, sysM_bind, pathExists, getFileData, hf, EStateM.Result.andThen_ok,
      Option.isSome_some, Bool.not_true, Bool.false_eq_true, ↓reduceIte, Option.map_some',
      Option.getD_some]
    by_cases hp : rulePattern udevData pattern <:+: universalNewlines raw
    · have hp' : (if pattern = [] then strip udevData else pattern) <:+: universalNewlines raw := hp
      by_cases hdl : strip udevData ∈ splitlines (universalNewlines raw)
      · simp [Reconciled, hp', hdl, hr, ruleFileAfter, UdevRule.addUdevRule_present hp hdl]
      · simp only [hp', hdl, if_true, if_false]
        have hx : '\r' ∉ writeLines (replaceLines (rulePattern udevData pattern) (strip udevData)
            (splitlines (universalNewlines raw))) :=
          cr_not_mem_writeLines fun _ hl => UdevRule.isLine_of_mem_replaceLines hd hl
        exact write_reload_reconciled env (by rw [hr, UdevRule.addUdevRule_rewrite hp hdl]; rfl)
          ((writeFile_holds env _ _ c s).mono
            (fun _ _ h => ⟨h.1.trans (congrArg some (universalNewlines_of_cr_not_mem hx)), h.2⟩)
            fun _ _ h => h)
    · have hp' : ¬ (if pattern = [] then strip udevData else pattern) <:+: universalNewlines raw := hp
      simp only [hp', if_false]
      have hx : '\r' ∉ strip udevData ++ ['\n'] := by simpa using hcr
      have hh : (strip udevData ++ ['\n']).head? ≠ some '\n' := by
        obtain ⟨d, ds, hds⟩ := List.exists_cons_of_ne_nil hne
        have hd' := hd d (by simp [hds])
        rw [hds, List.cons_append, List.head?_cons, Ne, Option.some.injEq]
        rintro rfl
        exact absurd hd' (by decide)
      exact write_reload_reconciled env (by rw [hr, UdevRule.addUdevRule_append hp])
        ((appendFile_holds env _ _ c s).mono
          (fun _ _ h => ⟨by rw [h.1, hf, Option.getD_some, universalNewlines_append hx hh,
            List.append_assoc], h.2⟩) fun _ _ h => h)

theorem addUdevRule_of_mem (udevData udevFile pattern : List Char) (c : List Char → Int)
    {s : Sys} {t : List Char} (ht : readFile s udevFile = some t)
    (hpd : rulePattern udevData pattern <:+: strip udevData) (hdl : strip udevData ∈ splitlines t) :
    addUdevRule env udevData udevFile pattern c s = .ok false s := by
  obtain ⟨raw, hf, rfl⟩ : ∃ raw, s.files udevFile = some raw ∧ universalNewlines raw = t := by
    simpa [readFile] using ht
  have hp : (if pattern = [] then strip udevData else pattern) <:+: universalNewlines raw :=
    hpd.trans (UdevRule.infix_of_mem_splitlines hdl)
  simp [addUdevRule, pathExists, getFileData, hf, hp, hdl]

end Spec

/-- On data that is one line after `strip` and holds its pattern, and a file that ends at a line
boundary, `add_udev_rule` leaves the file `Upserted`, reloads udev exactly when it returns True,
and a second identical call returns False and changes nothing. -/
theorem add_udev_rule_upserts_line (env : Env) (udevData udevFile pattern : List Char)
    (c : List Char → Int) (s : Sys) (hd : IsLine (strip udevData)) (hne : strip udevData ≠ [])
    (hpd : rulePattern udevData pattern <:+: strip udevData)
    (hend : ∀ t, readFile s udevFile = some t → EndsAtBoundary t) :
    (addUdevRule env udevData udevFile pattern c s).Holds
      (fun b s' => ∃ t', readFile s' udevFile = some t' ∧
        Upserted udevData pattern (readFile s udevFile) t' b ∧
        (if b then ∃ e, s'.trace = s.trace ++
          [e, .execute ["/usr/sbin/udevadm".toList, "control".toList, "--reload-rules".toList]]
        else s' = s) ∧
        addUdevRule env udevData udevFile pattern c s' = .ok false s')
      (fun _ _ => True) := by
  obtain ⟨t', ht', hup⟩ := UdevRule.ruleFileAfter_upserted hd hne hpd hend
  refine (addUdevRule_run env udevData udevFile pattern c s hd hne).mono
    (fun b s' ⟨hb, hr, htr⟩ => ⟨t', hr.trans ht', hb ▸ hup, htr, ?_⟩) fun _ _ _ => trivial
  exact addUdevRule_of_mem env _ _ _ c (hr.trans ht') hpd hup.present

/-- A file with two lines holding the pattern `a=`. -/
def twoMatchesSys : Sys :=
  ⟨fun path => if path = udevRuleFile then some "# h\na=0\na=1\n".toList else none, [], [], false,
    []⟩

theorem add_udev_rule_upserts_over_two_matches :
    IsLine (strip "a=2".toList) ∧ strip "a=2".toList ≠ [] ∧
    rulePattern "a=2".toList "a=".toList <:+: strip "a=2".toList ∧
    (∀ t, readFile twoMatchesSys udevRuleFile = some t → EndsAtBoundary t) ∧
    (addUdevRule quietEnv "a=2".toList udevRuleFile "a=".toList (fun _ => 0) twoMatchesSys).Holds
      (fun b s' => ∃ t', readFile s' udevRuleFile = some t' ∧
        Upserted "a=2".toList "a=".toList (readFile twoMatchesSys udevRuleFile) t' b ∧
        (if b then ∃ e, s'.trace = twoMatchesSys.trace ++
          [e, .execute ["/usr/sbin/udevadm".toList, "control".toList, "--reload-rules".toList]]
        else s' = twoMatchesSys) ∧
        addUdevRule quietEnv "a=2".toList udevRuleFile "a=".toList (fun _ => 0) s' = .ok false s')
      (fun _ _ => True) :=
  have hd : IsLine (strip "a=2".toList) := .of_printable (by decide)
  have hne : strip "a=2".toList ≠ [] := by decide
  have hpd : rulePattern "a=2".toList "a=".toList <:+: strip "a=2".toList := by decide
  have hend : ∀ t, readFile twoMatchesSys udevRuleFile = some t → EndsAtBoundary t := fun _ h => by
    cases h
    exact .inr ⟨"# h\na=0\na=1".toList, '\n', by decide, rfl⟩
  ⟨hd, hne, hpd, hend, add_udev_rule_upserts_line quietEnv "a=2".toList udevRuleFile "a=".toList
    (fun _ => 0) twoMatchesSys hd hne hpd hend⟩

/-- Both lines holding the pattern are rewritten to the data, which then occurs twice. -/
theorem add_udev_rule_duplicates_rewritten_data :
    (addUdevRule quietEnv "a=2".toList udevRuleFile "a=".toList (fun _ => 0) twoMatchesSys).Holds
      (fun b s' => b = true ∧ readFile s' udevRuleFile = some "# h\na=2\na=2\n".toList)
      (fun _ _ => False) := by
  decide

/-! ### `cleanup_puppet_config`

The cleanup removes the reset rules and the allocate_vfs script puppet left, and drops every
line naming the script from `/sbin/ifup-local`, removing that file too when only its shebang is
left. After it returns, a second cleanup changes no file, however it ends. -/

/-- The lines of `/sbin/ifup-local` the cleanup keeps: those that do not name allocate_vfs. -/
def keptIfupLines (t : List Char) : List (List Char) :=
  (linesKeepEnds [] t).filter fun line => !decide ("/etc/sysconfig/allocate_vfs".toList <:+: line)

/-- `/sbin/ifup-local` after the cleanup, from the text read before it. -/
def cleanedIfupLocal (t : List Char) : Option (List Char) :=
  if strip (keptIfupLines t).flatten = "#!/bin/bash".toList then none
  else some (keptIfupLines t).flatten

/-- The files after `cleanup_puppet_config` returns. -/
def cleanedFiles (files : List Char → Option (List Char)) : List Char → Option (List Char) :=
  Function.update (Function.update (Function.update files resetSriovRulesFile none)
    allocateVfsFile none) ifupLocalFile
    ((files ifupLocalFile).bind fun raw => cleanedIfupLocal (universalNewlines raw))

section CleanedFiles
variable (files : List Char → Option (List Char))

@[simp] theorem cleanedFiles_resetSriovRulesFile : cleanedFiles files resetSriovRulesFile = none := by
  simp [cleanedFiles, Function.update_noteq (show resetSriovRulesFile ≠ ifupLocalFile by decide),
    Function.update_noteq (show resetSriovRulesFile ≠ allocateVfsFile by decide)]

@[simp] theorem cleanedFiles_allocateVfsFile : cleanedFiles files allocateVfsFile = none := by
  simp [cleanedFiles, Function.update_noteq (show allocateVfsFile ≠ ifupLocalFile by decide)]

@[simp] theorem cleanedFiles_ifupLocalFile : cleanedFiles files ifupLocalFile =
    (files ifupLocalFile).bind fun raw => cleanedIfupLocal (universalNewlines raw) := by
  simp [cleanedFiles]

theorem cleanedFiles_of_ne {path : List Char} (h1 : path ≠ resetSriovRulesFile)
    (h2 : path ≠ allocateVfsFile) (h3 : path ≠ ifupLocalFile) : cleanedFiles files path = files path := by
  simp [cleanedFiles, Function.update_noteq, h1, h2, h3]

end CleanedFiles

theorem keptIfupLines_flatten (t : List Char) : keptIfupLines (keptIfupLines t).flatten = keptIfupLines t := by
  simp only [keptIfupLines, linesKeepEnds_flatten_filter, List.filter_filter, Bool.and_self]

theorem universalNewlines_keptIfupLines (raw : List Char) :
    universalNewlines (keptIfupLines (universalNewlines raw)).flatten =
      (keptIfupLines (universalNewlines raw)).flatten :=
  universalNewlines_of_cr_not_mem fun hr => cr_not_mem_universalNewlines raw <| by
    obtain ⟨l, hl, hrl⟩ := List.mem_flatten.mp hr
    rw [← List.nil_append (universalNewlines raw), ← flatten_linesKeepEnds]
    exact List.mem_flatten.mpr ⟨l, List.mem_of_mem_filter hl, hrl⟩

theorem not_infix_keptIfupLines (t : List Char) :
    ¬ allocateVfsFile <:+: (keptIfupLines t).flatten := fun hi => by
  obtain ⟨l, hl, hpl⟩ := ((keepEnds_linesKeepEnds (List.not_mem_nil _) t).filter _).exists_chunk
    (by decide) (by decide) hi
  have hkept := (List.mem_filter.mp hl).2
  simp only [Bool.not_eq_true', decide_eq_false_iff_not] at hkept
  exact hkept hpl

theorem cleanedIfupLocal_universalNewlines {raw t : List Char}
    (h : cleanedIfupLocal (universalNewlines raw) = some t) :
    cleanedIfupLocal (universalNewlines t) = some t := by
  have ht : (keptIfupLines (universalNewlines raw)).flatten = t := by
    unfold cleanedIfupLocal at h; split_ifs at h; exact Option.some.inj h
  rw [← h, ← ht, universalNewlines_keptIfupLines]
  simp only [cleanedIfupLocal, keptIfupLines_flatten]

theorem cleanedFiles_cleanedFiles (files : List Char → Option (List Char)) :
    cleanedFiles (cleanedFiles files) = cleanedFiles files := by
  have hifup : ((cleanedFiles files ifupLocalFile).bind fun raw =>
      cleanedIfupLocal (universalNewlines raw)) = cleanedFiles files ifupLocalFile := by
    rw [cleanedFiles_ifupLocalFile]
    rcases h : (files ifupLocalFile).bind fun raw => cleanedIfupLocal (universalNewlines raw)
      with _ | t
    · rfl
    · exact cleanedIfupLocal_universalNewlines (Option.bind_eq_some.mp h).choose_spec.2
  nth_rewrite 1 [cleanedFiles]
  rw [hifup, Function.update_eq_self_iff (f := cleanedFiles files).mpr
    (cleanedFiles_resetSriovRulesFile files).symm, Function.update_eq_self_iff (f := cleanedFiles files).mpr
    (cleanedFiles_allocateVfsFile files).symm, Function.update_eq_self]

section Cleanup
variable (env : Env)

theorem removeFile_holds (path : List Char) (c : List Char → Int) (s : Sys) :
    (removeFile env path c s).Holds (fun _ s' => s'.files = Function.update s.files path none)
      (fun _ s' => s'.files = s.files) := by
  simp only [removeFile, sysM_bind, perform_run, sysM_modify]
  split <;> simp

theorem writeFile_holds_files (path content : List Char) (c : List Char → Int) (s : Sys) :
    (writeFile env path content c s).Holds
      (fun _ s' => s'.files = Function.update s.files path (some content))
      (fun _ s' => s'.files = s.files) := by
  simp only [writeFile, sysM_bind, perform_run, sysM_modify]
  split <;> simp

theorem removeIfExists_holds {α : Type} (path : List Char) (k : Unit → SysM α) (c : List Char → Int)
    (s : Sys) {Q : α → Sys → Prop} {E : PyExc → Sys → Prop}
    (hk : ∀ s1, s1.files = Function.update s.files path none → (k () c s1).Holds Q E)
    (he : ∀ e s1, s1.files = s.files → E e s1) :
    ((if (s.files path).isSome = true then removeFile env path >>= k else pure () >>= k) c s).Holds
      Q E := by
  split
  · rw [sysM_bind, EStateM.Result.holds_andThen]
    exact (removeFile_holds env path c s).mono (fun _ s1 h => hk s1 h) he
  · exact hk s (by simp_all [eq_comm (a := s.files)])

/-- Each file is as it was in `files` or as the cleanup leaves it. -/
def PartlyCleaned (files files' : List Char → Option (List Char)) : Prop :=
  ∀ path, files' path = files path ∨ files' path = cleanedFiles files path

theorem PartlyCleaned.update_none {files files' : List Char → Option (List Char)} {p : List Char}
    (h : PartlyCleaned files files') (hp : cleanedFiles files p = none) :
    PartlyCleaned files (Function.update files' p none) := fun path => by
  by_cases hpath : path = p
  · subst hpath; exact .inr (by rw [Function.update_same, hp])
  · rw [Function.update_noteq hpath]; exact h path

/-- A cleanup that returns leaves `cleanedFiles`; one that raises leaves every file as it was or
as cleaned. -/
theorem cleanupPuppetConfig_holds (c : List Char → Int) (s : Sys) :
    (cleanupPuppetConfig env c s).Holds (fun _ s' => s'.files = cleanedFiles s.files)
      (fun _ s' => PartlyCleaned s.files s'.files) := by
  have h0 : PartlyCleaned s.files s.files := fun _ => .inl rfl
  have h1 := h0.update_none (cleanedFiles_resetSriovRulesFile s.files)
  have h2 := h1.update_none (cleanedFiles_allocateVfsFile s.files)
  unfold cleanupPuppetConfig
  lift_lets
  intro jp₁ jp₂
  have hjp₁ : ∀ y s2, s2.files = Function.update (Function.update s.files resetSriovRulesFile none)
      allocateVfsFile none → (jp₁ y c s2).Holds (fun _ s' => s'.files = cleanedFiles s.files)
        (fun _ s' => PartlyCleaned s.files s'.files) := by
    intro y s2 hs2
    have hifup : s2.files ifupLocalFile = s.files ifupLocalFile := by
      rw [hs2, Function.update_noteq (by decide), Function.update_noteq (by decide)]
    simp only [jp₁, sysM_bind, pathExists, getFileData, EStateM.Result.andThen_ok, hifup]
    rcases hf : s.files ifupLocalFile with _ | raw
    · simp only [Option.isSome_none, Bool.false_eq_true, if_false, sysM_pure,
        EStateM.Result.holds_ok]
      rw [cleanedFiles, hf, Option.none_bind, ← hs2, ← hf, ← hifup, Function.update_eq_self]
    simp only [Option.isSome_some, if_true, sysM_bind, getFileData, hifup, hf, Option.map_some',
      Option.getD_some, EStateM.Result.andThen_ok]
    split
    · rename_i hstrip
      have hc : cleanedIfupLocal (universalNewlines raw) = none := if_pos hstrip
      exact (removeFile_holds env _ c s2).mono
        (fun _ s3 h => by rw [h, hs2, cleanedFiles, hf, Option.some_bind, hc])
        fun _ s3 h => by rw [h, hs2]; exact h2
    · rename_i hstrip
      have hc : cleanedIfupLocal (universalNewlines raw) =
          some (keptIfupLines (universalNewlines raw)).flatten := if_neg hstrip
      exact (writeFile_holds_files env _ _ c s2).mono
        (fun _ s3 h => by rw [h, hs2, cleanedFiles, hf, Option.some_bind, hc]; rfl)
        fun _ s3 h => by rw [h, hs2]; exact h2
  have hjp₂ : ∀ y s1, s1.files = Function.update s.files resetSriovRulesFile none →
      (jp₂ y c s1).Holds (fun _ s' => s'.files = cleanedFiles s.files)
        (fun _ s' => PartlyCleaned s.files s'.files) := by
    intro y s1 hs1
    simp only [jp₂]
    rw [sysM_bind]
    simp only [pathExists, EStateM.Result.andThen_ok]
    exact removeIfExists_holds env _ jp₁ c s1 (fun s2 h => hjp₁ () s2 (by rw [h, hs1]))
      fun _ s2 h => by rw [h, hs1]; exact h1
  rw [sysM_bind]
  simp only [pathExists, EStateM.Result.andThen_ok]
  exact removeIfExists_holds env _ jp₂ c s (fun s1 h => hjp₂ () s1 h) fun _ s1 h => by rw [h]; exact h0

end Cleanup

/-- After `cleanup_puppet_config` returns, puppet's reset rules and allocate_vfs script are gone.
`/sbin/ifup-local` is removed exactly when it held nothing but its shebang besides the lines
naming allocate_vfs; otherwise it reads back as its old lines less those, and names allocate_vfs
nowhere. No other file has changed. -/
theorem cleanup_puppet_config_drops_allocate_vfs (env : Env) (c : List Char → Int) (s : Sys) :
    (cleanupPuppetConfig env c s).Holds
      (fun _ s' => s'.files resetSriovRulesFile = none ∧ s'.files allocateVfsFile = none ∧
        (readFile s ifupLocalFile = none → readFile s' ifupLocalFile = none) ∧
        (∀ t0, readFile s ifupLocalFile = some t0 →
          if strip (keptIfupLines t0).flatten = "#!/bin/bash".toList then
            readFile s' ifupLocalFile = none
          else ∃ t, readFile s' ifupLocalFile = some t ∧ linesKeepEnds [] t = keptIfupLines t0 ∧
            ¬ allocateVfsFile <:+: t) ∧
        ∀ path, path ≠ resetSriovRulesFile → path ≠ allocateVfsFile → path ≠ ifupLocalFile →
          s'.files path = s.files path)
      (fun _ _ => True) := by
  refine (cleanupPuppetConfig_holds env c s).mono (fun _ s' h => ?_) fun _ _ _ => trivial
  have hread : readFile s' ifupLocalFile =
      (readFile s ifupLocalFile).bind fun t0 => (cleanedIfupLocal t0).map universalNewlines := by
    simp only [readFile, h, cleanedFiles_ifupLocalFile]
    cases s.files ifupLocalFile <;> rfl
  refine ⟨by simp [h], by simp [h], fun h0 => by simp [hread, h0], fun t0 ht0 => ?_,
    fun path h1 h2 h3 => by rw [h, cleanedFiles_of_ne _ h1 h2 h3]⟩
  obtain ⟨raw, -, rfl⟩ : ∃ raw, s.files ifupLocalFile = some raw ∧ universalNewlines raw = t0 := by
    simpa [readFile] using ht0
  rw [hread, ht0, Option.some_bind, cleanedIfupLocal]
  split_ifs
  · rfl
  · refine ⟨_, rfl, ?_, ?_⟩ <;> rw [universalNewlines_keptIfupLines]
    · exact linesKeepEnds_flatten_filter _ _
    · exact not_infix_keptIfupLines _

/-- After `cleanup_puppet_config` returns, running it again changes no file, whether the second
run returns or raises. -/
theorem cleanup_puppet_config_idempotent (env : Env) (c : List Char → Int) (s : Sys) :
    (cleanupPuppetConfig env c s).Holds
      (fun _ s' => ∀ c', (cleanupPuppetConfig env c' s').state.files = s'.files)
      (fun _ _ => True) := by
  refine (cleanupPuppetConfig_holds env c s).mono (fun _ s' h c' => ?_) fun _ _ _ => trivial
  have hfix : cleanedFiles s'.files = s'.files := by rw [h, cleanedFiles_cleanedFiles]
  have h2 := cleanupPuppetConfig_holds env c' s'
  revert h2
  rcases cleanupPuppetConfig env c' s' with ⟨_, s''⟩ | ⟨_, s''⟩ <;> intro h2
  · exact h2.trans hfix
  · exact funext fun path => (h2 path).elim id fun h' => h'.trans (congrFun hfix path)

end SriovConfig.UdevFiles
