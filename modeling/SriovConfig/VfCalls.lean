import SriovConfig.Cli
import Mathlib.Tactic.LiftLets

/-! `configure_sriov_vf` as the calls it makes: for each VF entry, in order, its
`run_ip_config_cmd`, `run_ip_config_cmd_safe` and `set_driverctl_override` calls, with the
`raise_error` flag each safe call gets. The run raises exactly when a call whose failure is not
swallowed fails. -/
set_option autoImplicit false

namespace SriovConfig.VfCalls
open PyRe System Commands Cli

/-- One call `configure_sriov_vf` makes for a VF. -/
inductive VfCall where
  | cmd (argv : List (List Char))
  | safe (raiseError : Bool) (argv : List (List Char))
  | driverctl (pciAddress driver : List Char)
deriving DecidableEq, Repr

namespace VfCall

/-- `run_ip_config_cmd(*argv)`, `run_ip_config_cmd_safe(raise_error, *argv)`, or
`common.set_driverctl_override(pci_address, driver)`. -/
def run (env : Env) : VfCall → SysM Unit
  | cmd argv => runIpConfigCmd env argv
  | safe raiseError argv => runIpConfigCmdSafe env raiseError argv
  | driverctl pciAddress driver =>
    callHelper env (.setDriverctlOverride pciAddress driver) "set_driverctl_override".toList

def effect : VfCall → Effect
  | cmd argv | safe _ argv => .execute argv
  | driverctl pciAddress driver => .setDriverctlOverride pciAddress driver

def fatal : VfCall → Bool
  | safe raiseError _ => raiseError
  | _ => true

end VfCall

/-- The calls `configure_sriov_vf` makes for one VF entry, in order. -/
def vfCalls (v : VfItem) : List VfCall :=
  let baseCmd : List (List Char) :=
    ["ip".toList, "link".toList, "set".toList, "dev".toList, v.device, "vf".toList, pyStr v.vfid]
  let qosCmd : List (List Char) := match v.qos with
    | some qos => ["qos".toList, pyStr qos]
    | none => []
  -- `raise_error` after the `max_tx_rate` block
  let raiseError : Bool := match v.maxTxRate with
    | some maxTxRate => maxTxRate ≠ 0
    | none => true
  (v.macaddr.map fun macaddr => VfCall.cmd (baseCmd ++ ["mac".toList, macaddr])).toList ++
  (v.vlanId.map fun vlanId => VfCall.cmd (baseCmd ++ ["vlan".toList, pyStr vlanId] ++ qosCmd)).toList ++
  (v.maxTxRate.map fun maxTxRate =>
    VfCall.safe (maxTxRate ≠ 0) (baseCmd ++ ["max_tx_rate".toList, pyStr maxTxRate])).toList ++
  (v.minTxRate.map fun minTxRate =>
    VfCall.safe (minTxRate ≠ 0 && raiseError) (baseCmd ++ ["min_tx_rate".toList, pyStr minTxRate])).toList ++
  (v.spoofcheck.map fun spoofcheck => VfCall.cmd (baseCmd ++ ["spoofchk".toList, spoofcheck])).toList ++
  (v.state.map fun state => VfCall.cmd (baseCmd ++ ["state".toList, state])).toList ++
  (v.trust.map fun trust => VfCall.cmd (baseCmd ++ ["trust".toList, trust])).toList ++
  (v.promisc.map fun promisc => VfCall.cmd
    ["ip".toList, "link".toList, "set".toList, "dev".toList, v.name, "promisc".toList, promisc]).toList ++
  (v.driver.map fun driver => VfCall.driverctl v.pciAddress driver).toList

/-- The calls of `configure_sriov_vf` over the whole map. -/
def sriovCalls (sriovMap : List SriovItem) : List VfCall :=
  sriovMap.flatMap fun item =>
    match item with
    | .vf v => vfCalls v
    | .pf _ => []

section Run
variable (env : Env)

/-- A call records its action, and raises exactly when it fails and its failure is not
swallowed. -/
theorem VfCall.run_spec (k : VfCall) (c : List Char → Int) (s : Sys) :
    (k.run env c s).state.trace = s.trace ++ [k.effect] ∧
      (k.run env c s).raised = (k.fatal && env.fails s.trace k.effect) := by
  cases k with
  | cmd argv =>
    simp only [VfCall.run, runIpConfigCmd, sysM_bind, execute_run, perform_run, VfCall.effect,
      VfCall.fatal]
    cases env.fails s.trace (.execute argv) <;> simp
  | safe raiseError argv =>
    simp only [VfCall.run, runIpConfigCmdSafe, runIpConfigCmd, sysM_tryCatch, sysM_bind, execute_run,
      perform_run, VfCall.effect, VfCall.fatal]
    cases env.fails s.trace (.execute argv) <;> cases raiseError <;> simp
  | driverctl pciAddress driver =>
    simp only [VfCall.run, callHelper_run, perform_run, helperWrites_trace, VfCall.effect, VfCall.fatal]
    cases env.fails s.trace (.setDriverctlOverride pciAddress driver) <;> simp

/-- A run of calls that returns made every call, and none of those that raise failed; a run
that raises made the calls up to the first call that raises and failed, and no other. -/
theorem forM_run_holds (calls : List VfCall) (c : List Char → Int) (s : Sys) :
    ((calls.forM (VfCall.run env)) c s).Holds
      (fun _ s' => s'.trace = s.trace ++ calls.map VfCall.effect ∧
        ∀ pre k post, calls = pre ++ k :: post → k.fatal = true →
          env.fails (s.trace ++ pre.map VfCall.effect) k.effect = false)
      (fun _ s' => ∃ pre k post, calls = pre ++ k :: post ∧ k.fatal = true ∧
        env.fails (s.trace ++ pre.map VfCall.effect) k.effect = true ∧
        s'.trace = s.trace ++ (pre ++ [k]).map VfCall.effect) := by
  induction calls generalizing s with
  | nil => exact ⟨(List.append_nil _).symm, fun _ _ _ h => absurd h.symm (by simp)⟩
  | cons k calls ih =>
    obtain ⟨htr, hr⟩ := k.run_spec env c s
    rw [List.forM_cons', sysM_bind]
    cases h : k.run env c s with
    | ok _ s₁ =>
      rw [h] at htr hr
      simp only [EStateM.Result.state_ok, EStateM.Result.raised_ok] at htr hr
      refine (ih s₁).mono (fun _ s' ⟨hs', hno⟩ => ⟨?_, fun pre k' post hc hf => ?_⟩)
        fun _ s' ⟨pre, k', post, hc, hf, hfail, hs'⟩ => ⟨k :: pre, k', post, ?_⟩
      · simp [hs', htr]
      · rcases List.cons_eq_append_iff.mp hc with ⟨rfl, hc'⟩ | ⟨pre', rfl, hc'⟩
        · obtain ⟨rfl, -⟩ := List.cons.inj hc'
          simpa [hf] using hr.symm
        · simpa [htr] using hno pre' k' post hc' hf
      · rw [htr] at hfail hs'
        exact ⟨by simp [hc], hf, by simpa using hfail, by simpa using hs'⟩
    | error e s₁ =>
      rw [h] at htr hr
      simp only [EStateM.Result.state_error, EStateM.Result.raised_error] at htr hr
      have ⟨hf, hfail⟩ := Bool.and_eq_true_iff.mp hr.symm
      exact ⟨[], k, calls, rfl, hf, by simpa using hfail, by simpa using htr⟩

end Run

theorem configureVf_eq (env : Env) (v : VfItem) :
    configureVf env v = (vfCalls v).forM (VfCall.run env) := by
  unfold configureVf
  lift_lets
  intro base raiseError jpDriver jpPromisc jpTrust jpState jpSpoof noRaise jpMin jpMax qos jpVlan
  have hDriver : jpDriver = fun _ =>
      (v.driver.map fun driver => VfCall.driverctl v.pciAddress driver).toList.forM
        (VfCall.run env) := by
    funext _
    unfold jpDriver
    cases v.driver <;> simp [VfCall.run]
  have hPromisc : jpPromisc = fun _ => (v.promisc.map fun promisc => VfCall.cmd ["ip".toList,
      "link".toList, "set".toList, "dev".toList, v.name, "promisc".toList, promisc]).toList.forM
      (VfCall.run env) >>= jpDriver := by
    funext _
    unfold jpPromisc
    cases v.promisc <;> simp [VfCall.run]
  have hTrust : jpTrust = fun _ => (v.trust.map fun trust => VfCall.cmd (base ++
      ["trust".toList, trust])).toList.forM (VfCall.run env) >>= jpPromisc := by
    funext _
    unfold jpTrust
    cases v.trust <;> simp [VfCall.run]
  have hState : jpState = fun _ => (v.state.map fun state => VfCall.cmd (base ++
      ["state".toList, state])).toList.forM (VfCall.run env) >>= jpTrust := by
    funext _
    unfold jpState
    cases v.state <;> simp [VfCall.run]
  have hSpoof : ∀ r, jpSpoof r = fun _ => (v.spoofcheck.map fun spoofcheck => VfCall.cmd (base ++
      ["spoofchk".toList, spoofcheck])).toList.forM (VfCall.run env) >>= jpState := by
    intro r
    funext _
    unfold jpSpoof
    cases v.spoofcheck <;> simp [VfCall.run]
  clear_value jpSpoof
  have hMin : ∀ r, jpMin r = fun _ => (v.minTxRate.map fun minTxRate =>
      VfCall.safe (if minTxRate = 0 then false else r) (base ++ ["min_tx_rate".toList,
        pyStr minTxRate])).toList.forM (VfCall.run env) >>= fun y => jpSpoof r y := by
    intro r
    funext _
    unfold jpMin
    cases v.minTxRate with
    | none => simp
    | some minTxRate => by_cases h0 : minTxRate = 0 <;> simp [h0, hSpoof, VfCall.run]
  have hMax : ∀ r, jpMax r = fun _ => (v.maxTxRate.map fun maxTxRate =>
      VfCall.safe (if maxTxRate = 0 then false else r) (base ++ ["max_tx_rate".toList,
        pyStr maxTxRate])).toList.forM (VfCall.run env) >>=
      jpMin (match v.maxTxRate with
        | some maxTxRate => if maxTxRate = 0 then false else r
        | none => r) := by
    intro r
    funext _
    unfold jpMax
    cases v.maxTxRate with
    | none => simp
    | some maxTxRate => by_cases h0 : maxTxRate = 0 <;> simp [h0, VfCall.run]
  have hVlan : ∀ r, jpVlan r = fun _ => (v.vlanId.map fun vlanId => VfCall.cmd (base ++
      ["vlan".toList, pyStr vlanId] ++ qos)).toList.forM (VfCall.run env) >>= jpMax r := by
    intro r
    funext _
    unfold jpVlan
    cases v.vlanId <;> simp [VfCall.run]
  unfold vfCalls
  simp only [List.forM_append, bind_assoc, hVlan, hMax, hMin, hSpoof, hState, hTrust, hPromisc,
    hDriver, base, qos, raiseError]
  cases v.macaddr <;> cases v.maxTxRate <;> cases v.qos <;>
    simp only [Option.map_some', Option.map_none', Option.toList_some, Option.toList_none,
      List.forM_cons', List.forM_nil', VfCall.run, bind_assoc, pure_bind, Bool.if_false_left, decide_not,
      Bool.and_true]

theorem configureSriovVf_eq (env : Env) :
    configureSriovVf env = (sriovCalls env.sriovMap).forM (VfCall.run env) := by
  unfold configureSriovVf sriovCalls
  induction env.sriovMap with
  | nil => rfl
  | cons item items ih =>
    rw [List.forM_cons', ih, List.flatMap_cons, List.forM_append]
    cases item <;> simp only [configureVf_eq, List.forM_nil']

/-- Over every sriov map and every pattern of failures: `configure_sriov_vf` returns having made
every call of the map, none of those whose failure is raised having failed; or it raises having
made the calls up to one whose failure is raised, which failed. -/
theorem configureSriovVf_holds (env : Env) (c : List Char → Int) (s : Sys) :
    (configureSriovVf env c s).Holds
      (fun _ s' => s'.trace = s.trace ++ (sriovCalls env.sriovMap).map VfCall.effect ∧
        ∀ pre k post, sriovCalls env.sriovMap = pre ++ k :: post → k.fatal = true →
          env.fails (s.trace ++ pre.map VfCall.effect) k.effect = false)
      (fun _ s' => ∃ pre k post, sriovCalls env.sriovMap = pre ++ k :: post ∧ k.fatal = true ∧
        env.fails (s.trace ++ pre.map VfCall.effect) k.effect = true ∧
        s'.trace = s.trace ++ (pre ++ [k]).map VfCall.effect) := by
  rw [configureSriovVf_eq]
  exact forM_run_holds env _ c s

/-! ### `restart_ovs_and_pfs_netdevs` -/

/-! ### A failing `min_tx_rate` after a `max_tx_rate` of 0 -/

def zeroMaxVf : VfItem :=
  ⟨"p1_0".toList, "p1".toList, 0, none, none, none, some 0, some 5, none, none, none, none, none,
    "0000:06:00.2".toList⟩

def maxRateArgv : List (List Char) :=
  ["ip".toList, "link".toList, "set".toList, "dev".toList, "p1".toList, "vf".toList, "0".toList,
    "max_tx_rate".toList, "0".toList]

def minRateArgv : List (List Char) :=
  ["ip".toList, "link".toList, "set".toList, "dev".toList, "p1".toList, "vf".toList, "0".toList,
    "min_tx_rate".toList, "5".toList]

/-- The map holds one VF entry, and only its `min_tx_rate` command fails. -/
def minRateFailsEnv (v : VfItem) : Env :=
  { quietEnv with
    sriovMap := [.vf v]
    fails := fun _ e => e == .execute minRateArgv }

set_option smartUnfolding false in
theorem configure_sriov_vf_ignores_min_rate_failure_after_zero_max :
    (minRateFailsEnv zeroMaxVf).fails [.execute maxRateArgv] (.execute minRateArgv) = true ∧
    (configureSriovVf (minRateFailsEnv zeroMaxVf) (fun _ => 0) World.initial.sys).Holds
      (fun _ s => s.trace = [.execute maxRateArgv, .execute minRateArgv]) (fun _ _ => False) ∧
    (configureSriovVf (minRateFailsEnv { zeroMaxVf with maxTxRate := none }) (fun _ => 0)
      World.initial.sys).Holds (fun _ _ => False) (fun _ s => s.trace = [.execute minRateArgv]) := by
  decide

end SriovConfig.VfCalls
