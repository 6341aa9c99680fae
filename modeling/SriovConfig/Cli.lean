import SriovConfig.ConfigurePf

/-! The entry point `os-net-config-sriov`: `configure_sriov_vf`, and `main` in its two modes,
`--numvfs <device>:<count>` as the legacy udev rule runs it, and the whole sriov map. -/
set_option autoImplicit false

namespace SriovConfig.Cli
open PyText PyRe Rules System Commands UdevFiles Numvfs ConfigurePf

/-- The options of `parse_opts`; a missing `--numvfs` is `[]`, which `if opts.numvfs` treats
alike. -/
structure Opts where
  debug : Bool
  verbose : Bool
  numvfs : List Char

section Defs
variable (env : Env)

/-- The commands `configure_sriov_vf` runs for one VF entry. -/
def configureVf (v : VfItem) : SysM Unit := do
  let baseCmd : List (List Char) :=
    ["ip".toList, "link".toList, "set".toList, "dev".toList, v.device, "vf".toList, pyStr v.vfid]
  let mut raiseError := true
  if let some macaddr := v.macaddr then
    runIpConfigCmd env (baseCmd ++ ["mac".toList, macaddr])
  if let some vlanId := v.vlanId then
    let qosCmd : List (List Char) := match v.qos with
      | some qos => ["qos".toList, pyStr qos]
      | none => []
    runIpConfigCmd env (baseCmd ++ ["vlan".toList, pyStr vlanId] ++ qosCmd)
  if let some maxTxRate := v.maxTxRate then
    if maxTxRate = 0 then raiseError := false
    runIpConfigCmdSafe env raiseError (baseCmd ++ ["max_tx_rate".toList, pyStr maxTxRate])
  if let some minTxRate := v.minTxRate then
    if minTxRate = 0 then raiseError := false
    runIpConfigCmdSafe env raiseError (baseCmd ++ ["min_tx_rate".toList, pyStr minTxRate])
  if let some spoofcheck := v.spoofcheck then
    runIpConfigCmd env (baseCmd ++ ["spoofchk".toList, spoofcheck])
  if let some state := v.state then
    runIpConfigCmd env (baseCmd ++ ["state".toList, state])
  if let some trust := v.trust then
    runIpConfigCmd env (baseCmd ++ ["trust".toList, trust])
  if let some promisc := v.promisc then
    runIpConfigCmd env
      ["ip".toList, "link".toList, "set".toList, "dev".toList, v.name, "promisc".toList, promisc]
  if let some driver := v.driver then
    callHelper env (.setDriverctlOverride v.pciAddress driver) "set_driverctl_override".toList

def configureSriovVf : SysM Unit :=
  env.sriovMap.forM fun item =>
    match item with
    | .vf v => configureVf env v
    | .pf _ => pure ()

/-- The `if opts.numvfs:` of `main(argv)`, once the logger is set up: `some 1` is its `return 1`,
`none` its `None`. -/
def mainMode (opts : Opts) : M (Option Nat) :=
  if opts.numvfs ≠ [] then
    if numvfsArgMatch env.uni opts.numvfs then
      match opts.numvfs.splitOn ':' with
      | [deviceName, numvfs] => do
        let _ ← setNumvfs env deviceName (decimalValue env.uni (strip numvfs))
        pure none
      | _ => throw .value
    else pure (some 1)
  else do
    configureSriovPf env false false
    liftSys (configureSriovVf env)
    pure none

/-- `main(argv)` on the parsed options, as the entry point calls it, without a `main_logger`:
`configure_logger(log_file=True)` and `logger_level(verbose, debug)` set up the log file, where
the run's records land however it ends. -/
def main (opts : Opts) : M (Option Nat) := do
  let start ← liftSys (configureLogger env)
  tryFinally (mainMode env opts) (liftSys (writeLog env opts.verbose opts.debug start))

end Defs

section Logger
variable (env : Env) (opts : Opts)

/-- A run of `main` is one of `mainMode` with the log file opened before it and the run's records
appended after it. -/
theorem main_run (w : World) :
    (main env opts).run w =
      ((mainMode env opts).run ⟨w.kernel, w.sys.appendTo env.logFile []⟩).mapState fun w' =>
        ⟨w'.kernel, w'.sys.appendTo env.logFile
          (env.logText opts.verbose opts.debug (w'.sys.trace.drop w.sys.trace.length))⟩ := by
  rw [main, m_run_bind]
  exact m_run_tryFinally_modify _ _ _

theorem main_triple {P : World → Prop} {Q : Option Nat → World → Prop} {E : World → Prop}
    (hP : ∀ w, P w → P ⟨w.kernel, w.sys.appendTo env.logFile []⟩)
    (hQ : ∀ a w t, Q a w → Q a ⟨w.kernel, w.sys.appendTo env.logFile t⟩)
    (hE : ∀ w t, E w → E ⟨w.kernel, w.sys.appendTo env.logFile t⟩)
    (h : Triple P (mainMode env opts) Q E) : Triple P (main env opts) Q E := fun w hw => by
  rw [main_run, EStateM.Result.holds_mapState]
  exact (h _ (hP w hw)).mono (fun a w' => hQ a w' _) fun _ w' => hE w' _

end Logger

/-! ### The writes to `sriov_numvfs` -/

/-- The counts `main` may write: that of its `--numvfs` argument, or those of the map. -/
def mainAllows (env : Env) (opts : Opts) (pfName : List Char) (numvfs : Int) : Prop :=
  if opts.numvfs ≠ [] then
    ∃ count, opts.numvfs.splitOn ':' = [pfName, count] ∧ numvfs = decimalValue env.uni (strip count)
  else mapAllows env.sriovMap pfName numvfs

theorem mainMode_runWrites (env : Env) (opts : Opts) (k0 : Kernel) :
    Triple (fun w => RunWrites (mainAllows env opts) k0 true w.kernel) (mainMode env opts)
      (fun _ w => RunWrites (mainAllows env opts) k0 true w.kernel)
      (fun w => RunWrites (mainAllows env opts) k0 false w.kernel) := by
  unfold mainMode
  by_cases hn : opts.numvfs ≠ []
  · rw [if_pos hn]
    split
    · split
      · next deviceName count h =>
        have ha : mainAllows env opts deviceName (decimalValue env.uni (strip count)) := by
          rw [mainAllows, if_pos hn]
          exact ⟨count, h, rfl⟩
        exact (setNumvfs_runWrites env ha).bind fun _ => Triple.pure fun _ hw => hw
      · exact Triple.throw fun _ hw => hw.unsettle
    · exact Triple.pure fun _ hw => hw
  · have ha : mainAllows env opts = mapAllows env.sriovMap := by
      funext pfName numvfs
      rw [mainAllows, if_neg hn]
    rw [if_neg hn, ha]
    exact (configureSriovPf_runWrites env k0 false false).bind fun _ =>
      (Triple.liftSys fun _ h => h.unsettle).bind fun _ => Triple.pure fun _ hw => hw

theorem main_runWrites (env : Env) (opts : Opts) (k0 : Kernel) :
    Triple (fun w => RunWrites (mainAllows env opts) k0 true w.kernel) (main env opts)
      (fun _ w => RunWrites (mainAllows env opts) k0 true w.kernel)
      (fun w => RunWrites (mainAllows env opts) k0 false w.kernel) :=
  main_triple env opts (fun _ h => h) (fun _ _ _ h => h) (fun _ _ h => h) (mainMode_runWrites env opts k0)

/-- In every run of `main`, whichever way it ends, `sriov_numvfs` is written at most once per PF,
only while the PF is at 0, and only with a count that the map or `--numvfs` gives it; and
`set_numvfs` returns the PF's count, the one asked for unless the PF had VFs already. -/
theorem numvfs_written_once_from_zero (env : Env) (opts : Opts) (w : World) :
    (∃ ws, NumvfsWrites (mainAllows env opts) w.kernel ((main env opts).run w).state.kernel ws) ∧
    ∀ ifname numvfs r w', (setNumvfs env ifname numvfs).run w = .ok r w' →
      r = w'.kernel.numvfs ifname ∧ (w.kernel.numvfs ifname = 0 → r = numvfs) :=
  ⟨(main_runWrites env opts w.kernel).state
      (R := fun w' => ∃ ws, NumvfsWrites (mainAllows env opts) w.kernel w'.kernel ws)
      (RunWrites.start _ _ true) (fun _ _ ⟨ws, h, _⟩ => ⟨ws, h⟩) (fun _ ⟨ws, h, _⟩ => ⟨ws, h⟩),
    fun _ _ _ _ h => setNumvfs_ok env h⟩

/-! ### The udev observer -/

/-- A PF that does not come up: `ip link set dev p1 up` fails. -/
def upFailsEnv : Env :=
  { quietEnv with
    sriovMap := [.pf ⟨"p1".toList, 4, none, none, false, none⟩]
    fails := fun _ e => e = .execute ["ip".toList, "link".toList, "set".toList, "dev".toList,
      "p1".toList, "up".toList] }

set_option smartUnfolding false in
/-- `--numvfs` writes the count and waits on `vf_queue` with no observer started; and when a step
of the PF loop raises, `configure_sriov_pf` leaves its observer running. -/
theorem monitor_missing_or_left_running :
    ((main quietEnv ⟨false, false, "p1p1:4".toList⟩).run World.initial).Holds
      (fun r w => r = none ∧ w.sys.trace = [.readNumvfs "p1p1".toList,
        .writeNumvfs "p1p1".toList 4, .queueGet, .readNumvfs "p1p1".toList])
      (fun _ _ => False) ∧
    ((configureSriovPf upFailsEnv false false).run World.initial).Holds (fun _ _ => False)
      (fun _ w => w.sys.observing = true ∧ Effect.monitorStart ∈ w.sys.trace ∧
        Effect.monitorStop ∉ w.sys.trace) := by
  decide

theorem numvfsArg_split {uni : UnicodeDb} {arg : List Char} (h : numvfsArgMatch uni arg = true) :
    ∃ name digits count, name ≠ [] ∧ (∀ c ∈ name, isWordChar uni c = true) ∧
      digits ≠ [] ∧ (∀ c ∈ digits, isDecimal uni c = true) ∧
      (count = digits ∨ count = digits ++ ['\n']) ∧ arg = name ++ ':' :: count ∧
      arg.splitOn ':' = [name, count] := by
  obtain ⟨name, digits, hne, hw, hdne, hd, hs⟩ := numvfsArgMatch_eq_true h
  obtain ⟨count, hc, hs⟩ : ∃ count, (count = digits ∨ count = digits ++ ['\n']) ∧
      arg = name ++ ':' :: count :=
    hs.elim (fun hs => ⟨_, .inl rfl, hs⟩) fun hs => ⟨_, .inr rfl, hs⟩
  have hname : ':' ∉ name := fun hm => by simpa [isWordChar_colon] using hw ':' hm
  have hcount : ':' ∉ count := by
    have hdc : ':' ∉ digits := fun hm => by simpa [isDecimal_colon] using hd ':' hm
    rcases hc with rfl | rfl <;> simpa using hdc
  have hsplit : arg.splitOn ':' = [name, count] := by
    have := List.splitOn_intercalate [name, count] ':' (by simpa using ⟨hname, hcount⟩) (by simp)
    simpa [hs, List.intercalate] using this
  exact ⟨name, digits, count, hne, hw, hdne, hd, hc, hs, hsplit⟩

theorem mainMode_numvfs_unobserved (env : Env) (opts : Opts) (w : World) (hn : opts.numvfs ≠ [])
    (hobs : w.sys.observing = false) (hq : w.sys.vfQueue = []) :
    ∃ l, ((mainMode env opts).run w).state.sys = { w.sys with trace := w.sys.trace ++ l } ∧
      (numvfsArgMatch env.uni opts.numvfs = true → ∃ deviceName count,
        opts.numvfs.splitOn ':' = [deviceName, count] ∧
        l <+: [.readNumvfs deviceName, .writeNumvfs deviceName (decimalValue env.uni (strip count)),
          .queueGet, .readNumvfs deviceName]) ∧
      (numvfsArgMatch env.uni opts.numvfs = false → l = []) := by
  unfold mainMode
  rw [if_pos hn]
  split
  · next hm =>
    split
    · next deviceName count hsplit =>
      obtain ⟨l, hs, hl⟩ := setNumvfs_unobserved env deviceName
        (decimalValue env.uni (strip count)) (Int.natCast_nonneg _) w hobs hq
      refine ⟨l, ?_, fun _ => ⟨deviceName, count, hsplit, hl⟩, fun h => absurd hm (by simp [h])⟩
      rw [m_run_bind]
      revert hs
      cases (setNumvfs env deviceName _).run w <;> exact id
    · next hsplit =>
      obtain ⟨name, -, count, -, -, -, -, -, -, h⟩ := numvfsArg_split hm
      exact absurd h (hsplit name count)
  · next hm => exact ⟨[], by simp, fun h => absurd h (by simpa using hm), fun _ => rfl⟩

/-- `main` with `--numvfs`, in a process that has started no udev observer and queued nothing,
never starts one, so nothing can fill `vf_queue`. When `^\w+:\d+$` accepts the argument it
reads the count of the argument's PF, writes the argument's count, waits once on the queue, which
can only end on the timeout, and reads the count again, or stops earlier; otherwise it takes no
action. Nothing else of the process changes: no `vf_to_pf` entry, no observer, and no file but
the log. -/
theorem main_numvfs_waits_without_observer (env : Env) (opts : Opts) (w : World)
    (hn : opts.numvfs ≠ []) (hobs : w.sys.observing = false) (hq : w.sys.vfQueue = []) :
    ∃ l, ((main env opts).run w).state.sys.trace = w.sys.trace ++ l ∧
      ((main env opts).run w).state.sys.vfToPf = w.sys.vfToPf ∧
      ((main env opts).run w).state.sys.vfQueue = [] ∧
      ((main env opts).run w).state.sys.observing = false ∧
      (∀ path, path ≠ env.logFile → ((main env opts).run w).state.sys.files path = w.sys.files path) ∧
      (numvfsArgMatch env.uni opts.numvfs = true → ∃ deviceName count,
        opts.numvfs.splitOn ':' = [deviceName, count] ∧
        l <+: [.readNumvfs deviceName, .writeNumvfs deviceName (decimalValue env.uni (strip count)),
          .queueGet, .readNumvfs deviceName]) ∧
      (numvfsArgMatch env.uni opts.numvfs = false → l = []) := by
  obtain ⟨l, hs, hmatch, hrefused⟩ :=
    mainMode_numvfs_unobserved env opts ⟨w.kernel, w.sys.appendTo env.logFile []⟩ hn hobs hq
  rw [main_run, EStateM.Result.state_mapState]
  dsimp only
  rw [hs]
  refine ⟨l, rfl, rfl, hq, hobs, fun path hp => ?_, hmatch, hrefused⟩
  simp [Sys.appendTo, Function.update_noteq hp]

theorem main_numvfs_p1p1_waits_without_observer :
    (⟨false, false, "p1p1:4".toList⟩ : Opts).numvfs ≠ [] ∧ World.initial.sys.observing = false ∧
      World.initial.sys.vfQueue = [] ∧
    ∃ l, ((main quietEnv ⟨false, false, "p1p1:4".toList⟩).run World.initial).state.sys.trace =
        World.initial.sys.trace ++ l ∧
      ((main quietEnv ⟨false, false, "p1p1:4".toList⟩).run World.initial).state.sys.vfToPf =
        World.initial.sys.vfToPf ∧
      ((main quietEnv ⟨false, false, "p1p1:4".toList⟩).run World.initial).state.sys.vfQueue = [] ∧
      ((main quietEnv ⟨false, false, "p1p1:4".toList⟩).run World.initial).state.sys.observing = false ∧
      (∀ path, path ≠ quietEnv.logFile →
        ((main quietEnv ⟨false, false, "p1p1:4".toList⟩).run World.initial).state.sys.files path =
          World.initial.sys.files path) ∧
      (numvfsArgMatch quietEnv.uni "p1p1:4".toList = true → ∃ deviceName count,
        "p1p1:4".toList.splitOn ':' = [deviceName, count] ∧
        l <+: [.readNumvfs deviceName, .writeNumvfs deviceName (decimalValue quietEnv.uni (strip count)),
          .queueGet, .readNumvfs deviceName]) ∧
      (numvfsArgMatch quietEnv.uni "p1p1:4".toList = false → l = []) :=
  ⟨by decide, rfl, rfl,
    main_numvfs_waits_without_observer quietEnv ⟨false, false, "p1p1:4".toList⟩ World.initial
      (by decide) rfl rfl⟩

/-! ### The `--numvfs` argument of the legacy rule -/

/-- What `--numvfs` receives from the legacy rule: its `%k:{numvfs}` with the PF's name for
`%k`. -/
def legacyNumvfsArg (pfName : List Char) (numvfs : Int) : List Char := pfName ++ ':' :: pyStr numvfs

theorem splitOn_legacyNumvfsArg {uni : UnicodeDb} {pfName : List Char}
    (hw : ∀ c ∈ pfName, isWordChar uni c = true) {numvfs : Int} (hn : 0 ≤ numvfs) :
    (legacyNumvfsArg pfName numvfs).splitOn ':' = [pfName, pyStr numvfs] := by
  have hc : ':' ∉ pfName := fun h => by simpa [isWordChar_colon] using hw ':' h
  have h : ([':'].intercalate [pfName, pyStr numvfs]).splitOn ':' = [pfName, pyStr numvfs] :=
    List.splitOn_intercalate _ ':' (by simpa using ⟨hc, colon_not_mem_pyStr hn⟩) (by simp)
  simpa [List.intercalate] using h

/-- For a PF name of word characters and a count `≥ 0`, `main` takes the legacy rule's argument
apart into that name and that count, and calls `set_numvfs` with them. -/
theorem main_calls_set_numvfs_on_legacy_arg (env : Env) (opts : Opts) (pfName : List Char)
    (numvfs : Int) (hne : pfName ≠ []) (hw : ∀ c ∈ pfName, isWordChar env.uni c = true)
    (hn : 0 ≤ numvfs) (harg : opts.numvfs = legacyNumvfsArg pfName numvfs) :
    mainMode env opts = (setNumvfs env pfName numvfs >>= fun _ => pure none) := by
  have hm : numvfsArgMatch env.uni opts.numvfs = true := by
    rw [harg]
    exact numvfsArgMatch_pyStr hne hw hn
  have hne' : opts.numvfs ≠ [] := by simp [harg, legacyNumvfsArg]
  rw [mainMode, if_pos hne', if_pos hm, harg, splitOn_legacyNumvfsArg hw hn]
  simp only [decimalValue_strip_pyStr env.uni hn]

theorem main_calls_set_numvfs_p1p1 :
    "p1p1".toList ≠ [] ∧ (∀ c ∈ "p1p1".toList, isWordChar quietEnv.uni c = true) ∧ (0 : Int) ≤ 4 ∧
      mainMode quietEnv ⟨false, false, legacyNumvfsArg "p1p1".toList 4⟩ =
        (setNumvfs quietEnv "p1p1".toList 4 >>= fun _ => pure none) :=
  ⟨by decide, by decide, by decide, main_calls_set_numvfs_on_legacy_arg quietEnv
    ⟨false, false, legacyNumvfsArg "p1p1".toList 4⟩ "p1p1".toList 4 (by decide) (by decide)
    (by decide) rfl⟩

/-- A name the kernel takes for an interface, as `dev_valid_name` checks it: 1 to 15 bytes, none
of them '/', ':' or blank. -/
def ValidIfname (name : List Char) : Prop :=
  0 < (name.map Char.utf8Size).sum ∧ (name.map Char.utf8Size).sum ≤ 15 ∧
    ∀ c ∈ name, c ≠ '/' ∧ c ≠ ':' ∧ isSpace c = false

instance (name : List Char) : Decidable (ValidIfname name) :=
  inferInstanceAs (Decidable (_ ∧ _ ∧ _))

theorem numvfsArgMatch_legacyNumvfsArg_eq_false {uni : UnicodeDb} {pfName : List Char}
    (hcolon : ':' ∉ pfName) {c : Char} (hc : c ∈ pfName) (hcw : isWordChar uni c = false)
    (numvfs : Int) : numvfsArgMatch uni (legacyNumvfsArg pfName numvfs) = false := by
  by_contra hm
  obtain ⟨name, digits, -, hw, -, -, hs⟩ := numvfsArgMatch_eq_true (Bool.not_eq_false _ ▸ hm)
  have hname : ':' ∉ name := fun h => by simpa [isWordChar_colon] using hw ':' h
  have heq : pfName = name := by
    rcases hs with hs | hs <;> exact (append_cons_cancel_of_not_mem hcolon hname hs).1
  exact absurd (hw c (heq ▸ hc)) (by simp [hcw])

/-- `add_udev_rule_for_legacy_sriov_pf` writes `-n %k:<numvfs>` for every PF name, but `main`
takes only names of `\w` characters: for every name with another character and no colon, such as
the valid interface name `nic-1`, the rule's `main` returns 1 having taken no action, and changes
no file but the log. -/
theorem main_refuses_legacy_arg_of_non_word_ifname :
    (∀ (env : Env) (opts : Opts) (pfName : List Char) (numvfs : Int), ':' ∉ pfName →
      (∃ c ∈ pfName, isWordChar env.uni c = false) → opts.numvfs = legacyNumvfsArg pfName numvfs →
      ∀ w, ∃ w', (main env opts).run w = .ok (some 1) w' ∧ w'.kernel = w.kernel ∧
        w'.sys.trace = w.sys.trace ∧ w'.sys.vfToPf = w.sys.vfToPf ∧
        ∀ path, path ≠ env.logFile → w'.sys.files path = w.sys.files path) ∧
    ValidIfname "nic-1".toList ∧ '-' ∈ "nic-1".toList ∧ ∀ uni, isWordChar uni '-' = false := by
  refine ⟨fun env opts pfName numvfs hcolon ⟨c, hc, hcw⟩ harg w => ?_, by decide, by decide,
    fun _ => rfl⟩
  have hm := numvfsArgMatch_legacyNumvfsArg_eq_false hcolon hc hcw numvfs
  have hne : opts.numvfs ≠ [] := by simp [harg, legacyNumvfsArg]
  have hmode : ∀ w₁, (mainMode env opts).run w₁ = .ok (some 1) w₁ := fun _ => by
    rw [mainMode, if_pos hne, harg, if_neg (by simp [hm])]
    rfl
  rw [main_run, hmode]
  exact ⟨_, rfl, rfl, rfl, rfl, fun path hp => by simp [Sys.appendTo, Function.update_noteq hp]⟩

/-! ### Every argument `main` accepts -/

/-- Every `--numvfs` argument that `^\w+:\d+$` accepts is a name of word characters, one colon,
and nonempty digits with at most a final line break: `main` splits it at its colon, never
reaching the `ValueError` of the unpacking, and calls `set_numvfs` with the name and `int()` of
the count. -/
theorem main_splits_numvfs_arg_at_its_colon (env : Env) (opts : Opts)
    (h : numvfsArgMatch env.uni opts.numvfs = true) :
    ∃ deviceName digits count, deviceName ≠ [] ∧ (∀ c ∈ deviceName, isWordChar env.uni c = true) ∧
      digits ≠ [] ∧ (∀ c ∈ digits, isDecimal env.uni c = true) ∧
      (count = digits ∨ count = digits ++ ['\n']) ∧ opts.numvfs = deviceName ++ ':' :: count ∧
      opts.numvfs.splitOn ':' = [deviceName, count] ∧
      mainMode env opts =
        (setNumvfs env deviceName (decimalValue env.uni (strip count)) >>= fun _ => pure none) := by
  obtain ⟨name, digits, count, hne, hw, hdne, hd, hc, hs, hsplit⟩ := numvfsArg_split h
  refine ⟨name, digits, count, hne, hw, hdne, hd, hc, hs, hsplit, ?_⟩
  rw [mainMode, if_pos (by simp [hs]), if_pos h, hsplit]

theorem main_splits_p1p1_arg :
    numvfsArgMatch quietEnv.uni "p1p1:4".toList = true ∧
    ∃ deviceName digits count, deviceName ≠ [] ∧
      (∀ c ∈ deviceName, isWordChar quietEnv.uni c = true) ∧
      digits ≠ [] ∧ (∀ c ∈ digits, isDecimal quietEnv.uni c = true) ∧
      (count = digits ∨ count = digits ++ ['\n']) ∧ "p1p1:4".toList = deviceName ++ ':' :: count ∧
      "p1p1:4".toList.splitOn ':' = [deviceName, count] ∧
      mainMode quietEnv ⟨false, false, "p1p1:4".toList⟩ =
        (setNumvfs quietEnv deviceName (decimalValue quietEnv.uni (strip count)) >>= fun _ =>
          pure none) :=
  have h : numvfsArgMatch quietEnv.uni "p1p1:4".toList = true := by decide
  ⟨h, main_splits_numvfs_arg_at_its_colon quietEnv ⟨false, false, "p1p1:4".toList⟩ h⟩

end SriovConfig.Cli
