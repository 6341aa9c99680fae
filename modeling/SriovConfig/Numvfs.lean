import SriovConfig.System
import Mathlib.Data.List.Nodup

/-! `get_numvfs`, `set_numvfs`, and `_wait_for_vf_creation`, which drains the udev events the
kernel queues while it creates the VFs and records each new VF in `vf_to_pf`. -/
set_option autoImplicit false

namespace SriovConfig.Numvfs
open PyText PyRe Rules System

section Defs
variable (env : Env)

/-- `get_numvfs(ifname)`; an `IOError` on the read is raised as `SRIOVNumvfsException`. -/
def getNumvfs (ifname : List Char) : SysM Int := do
  let path := env.devPath ifname "sriov_numvfs".toList
  perform env (.readNumvfs ifname)
    (.sriovNumvfs (ifname ++ ": Unable to read numvfs: ".toList) (some path))
  numvfsOf ifname

/-- `_norm_path(dev, suffix)`. -/
def normPath (dev suffix : List Char) : List Char := normpath (pathJoin dev suffix)

/-- `_get_pf_path(device)` on sysfs as it is after the actions `trace`: the `physfn/net`
directory of the netdev of an event. -/
def getPfPath (trace : List Effect) (device : List Char) : Option (List Char) :=
  if env.sysfsIsDir trace (normPath device "../../physfn/net".toList) then
    some (normPath device "../../physfn/net".toList)
  else if env.sysfsIsDir trace (normPath device "physfn/net".toList) then
    some (normPath device "physfn/net".toList)
  else none

/-- How `_wait_for_vf_creation` returns: through "Required VFs are created", or on the
`queue.Empty` of a 5-second wait. -/
inductive WaitExit where
  | created
  | timeout
deriving DecidableEq, Repr

/-- One event of `_wait_for_vf_creation`: whether it records a new VF of `pfName`. -/
def vfEvent (pfName device : List Char) : SysM Bool := do
  let vfName := basename device
  let s ← get
  match getPfPath env s.trace device with
  | none => pure false
  | some pfPath => do
    let pfNic ← listdir env pfPath
    if vfName ∉ s.vfToPf.map Prod.fst ∧ pfName ∈ pfNic then do
      modify fun s => { s with vfToPf := s.vfToPf ++ [(vfName, VfLink.mk device pfName)] }
      pure true
    else pure false

/-- The loop of `_wait_for_vf_creation` over the events left on `vf_queue`. Nothing in it
delivers events, so the queue it pops is the list it recurses on. -/
def waitLoop (pfName : List Char) (numvfs : Int) : Int → List (List Char) → SysM WaitExit
  | vfCount, queue =>
    if vfCount < numvfs then
      match queue with
      | [] => do
        modify (·.record .queueGet)
        pure .timeout
      | device :: rest => do
        modify fun s => { s.record .queueGet with vfQueue := rest }
        let added ← vfEvent env pfName device
        waitLoop pfName numvfs (if added then vfCount + 1 else vfCount) rest
    else pure .created

/-- `_wait_for_vf_creation(pf_name, numvfs)`. -/
def waitForVfCreation (pfName : List Char) (numvfs : Int) : SysM WaitExit := do
  waitLoop env pfName numvfs 0 (← get).vfQueue

/-- `set_numvfs(ifname, numvfs)`: the count it finds, or the count it sets. -/
def setNumvfs (ifname : List Char) (numvfs : Int) : M Int := do
  let currNumvfs ← liftSys (getNumvfs env ifname)
  if numvfs ≠ currNumvfs then
    if currNumvfs ≠ 0 then pure currNumvfs
    else do
      let path := env.devPath ifname "sriov_numvfs".toList
      tryCatch (writeNumvfs env ifname path numvfs) fun _ =>
        throw (.sriovNumvfs (ifname ++ " Unable to configure pf  with numvfs: ".toList ++
          pyStr numvfs ++ ['\n']) (some path))
      let _ ← liftSys (waitForVfCreation env ifname numvfs)
      let currNumvfs ← liftSys (getNumvfs env ifname)
      if currNumvfs ≠ numvfs then
        throw (.sriovNumvfs (ifname ++ ": Unable to configure pf with numvfs: ".toList ++
          pyStr numvfs ++ "\nsriov_numvfs file is not set to the targeted number of vfs".toList)
          none)
      else pure currNumvfs
  else pure currNumvfs

end Defs

/-! ### The wait for the VFs -/

section Wait
variable (env : Env)

theorem getNumvfs_ok {ifname : List Char} {counts : List Char → Int} {s s' : Sys} {a : Int}
    (h : getNumvfs env ifname counts s = .ok a s') : a = counts ifname := by
  simp only [getNumvfs, perform, numvfsOf, sysM_bind] at h
  split_ifs at h <;> simp_all

/-- What `_wait_for_vf_creation` may add to `vf_to_pf`: VF names not yet in it, each once, each
with the path of a queued event whose `physfn/net` directory lists `pfName`. -/
structure Added (pfName : List Char) (events : List (List Char))
    (old added : List (List Char × VfLink)) : Prop where
  fresh : ∀ e ∈ added, e.1 ∉ old.map Prod.fst
  nodup : (added.map Prod.fst).Nodup
  entry : ∀ e ∈ added, e.1 = basename e.2.device ∧ e.2.pf = pfName ∧ e.2.device ∈ events ∧
    ∃ tr pfPath pfNic, getPfPath env tr e.2.device = some pfPath ∧
      env.listdir tr pfPath = some pfNic ∧ pfName ∈ pfNic

theorem Added.nil {pfName : List Char} {events : List (List Char)} {old : List (List Char × VfLink)} :
    Added env pfName events old [] := ⟨by simp, by simp, by simp⟩

theorem Added.cons_event {pfName d : List Char} {events : List (List Char)}
    {old added : List (List Char × VfLink)} (h : Added env pfName events old added) :
    Added env pfName (d :: events) old added :=
  ⟨h.fresh, h.nodup, fun e he => by
    obtain ⟨h1, h2, h3, h4⟩ := h.entry e he
    exact ⟨h1, h2, List.mem_cons_of_mem _ h3, h4⟩⟩

theorem Added.cons_vf {pfName d : List Char} {events : List (List Char)} {tr : List Effect}
    {old added : List (List Char × VfLink)} {pfPath : List Char} {pfNic : List (List Char)}
    (hp : getPfPath env tr d = some pfPath) (hl : env.listdir tr pfPath = some pfNic)
    (hn : pfName ∈ pfNic) (hnew : basename d ∉ old.map Prod.fst)
    (h : Added env pfName events (old ++ [(basename d, ⟨d, pfName⟩)]) added) :
    Added env pfName (d :: events) old ((basename d, ⟨d, pfName⟩) :: added) := by
  refine ⟨fun e he => ?_, ?_, fun e he => ?_⟩
  · rcases List.mem_cons.mp he with rfl | he
    · exact hnew
    · exact fun h' => h.fresh e he (by simp [h'])
  · exact List.nodup_cons.mpr ⟨fun h' => by
      obtain ⟨e, he, hk⟩ := List.mem_map.mp h'
      exact h.fresh e he (by simp [hk]), h.nodup⟩
  · rcases List.mem_cons.mp he with rfl | he
    · exact ⟨rfl, rfl, List.mem_cons_self _ _, tr, pfPath, pfNic, hp, hl, hn⟩
    · obtain ⟨h1, h2, h3, h4⟩ := h.entry e he
      exact ⟨h1, h2, List.mem_cons_of_mem _ h3, h4⟩

theorem waitLoop_nil (pfName : List Char) (numvfs vfCount : Int) (counts : List Char → Int)
    (s : Sys) : waitLoop env pfName numvfs vfCount [] counts s =
      if vfCount < numvfs then .ok .timeout (s.record .queueGet) else .ok .created s := by
  rw [waitLoop]; split_ifs <;> rfl

theorem waitLoop_cons (pfName : List Char) (numvfs vfCount : Int) (d : List Char)
    (rest : List (List Char)) (counts : List Char → Int) (s : Sys) :
    waitLoop env pfName numvfs vfCount (d :: rest) counts s =
      if vfCount < numvfs then
        (vfEvent env pfName d counts { s.record .queueGet with vfQueue := rest }).andThen
          fun added s' => waitLoop env pfName numvfs (if added then vfCount + 1 else vfCount) rest counts s'
      else .ok .created s := by
  rw [waitLoop]; split_ifs <;> simp only [sysM_bind, sysM_modify, sysM_pure, EStateM.Result.andThen_ok]

theorem vfEvent_cases (pfName d : List Char) (counts : List Char → Int) (s : Sys) :
    vfEvent env pfName d counts s = .ok false s ∨ (∃ e, vfEvent env pfName d counts s = .error e s) ∨
    (vfEvent env pfName d counts s =
        .ok true { s with vfToPf := s.vfToPf ++ [(basename d, ⟨d, pfName⟩)] } ∧
      basename d ∉ s.vfToPf.map Prod.fst ∧ ∃ pfPath pfNic, getPfPath env s.trace d = some pfPath ∧
        env.listdir s.trace pfPath = some pfNic ∧ pfName ∈ pfNic) := by
  simp only [vfEvent, sysM_bind, sysM_get, EStateM.Result.andThen_ok]
  rcases hp : getPfPath env s.trace d with _ | pfPath
  · exact .inl rfl
  simp only [listdir, sysM_bind]
  rcases hl : env.listdir s.trace pfPath with _ | pfNic
  · exact .inr (.inl ⟨.os pfPath, rfl⟩)
  by_cases hc : basename d ∉ s.vfToPf.map Prod.fst ∧ pfName ∈ pfNic
  · exact .inr (.inr ⟨by simp only [EStateM.Result.andThen_ok, if_pos hc, sysM_bind, sysM_modify,
      sysM_pure], hc.1, pfPath, pfNic, rfl, hl, hc.2⟩)
  · exact .inl (by simp only [EStateM.Result.andThen_ok, if_neg hc, sysM_pure])

/-- The loop over the queued events: the entries it adds, and what each exit says of them. -/
theorem waitLoop_spec (pfName : List Char) (numvfs : Int) (counts : List Char → Int) :
    ∀ (queue : List (List Char)) (vfCount : Int) (s : Sys), s.vfQueue = queue →
      ∃ added, (waitLoop env pfName numvfs vfCount queue counts s).state.vfToPf = s.vfToPf ++ added ∧
        Added env pfName queue s.vfToPf added ∧
        (∀ s', waitLoop env pfName numvfs vfCount queue counts s = .ok .created s' →
          vfCount + added.length = max numvfs vfCount) ∧
        (∀ s', waitLoop env pfName numvfs vfCount queue counts s = .ok .timeout s' →
          vfCount + added.length < numvfs ∧ s'.vfQueue = [])
  | [], vfCount, s, hq => by
    rw [waitLoop_nil]
    split_ifs with h
    · refine ⟨[], by simp [Sys.record], Added.nil env, by simp, ?_⟩
      intro s' hs'
      simp only [EStateM.Result.ok.injEq, true_and] at hs'
      subst hs'
      exact ⟨by simpa using h, by simp [Sys.record, hq]⟩
    · exact ⟨[], by simp, Added.nil env, fun _ _ => by simp; omega, by simp⟩
  | d :: rest, vfCount, s, hq => by
    rw [waitLoop_cons]
    split_ifs with h
    · rcases vfEvent_cases env pfName d counts { s.record .queueGet with vfQueue := rest } with
        h1 | ⟨e, h1⟩ | ⟨h1, hnew, pfPath, pfNic, hp, hl, hn⟩ <;> rw [h1] <;>
        simp only [EStateM.Result.andThen_ok, EStateM.Result.andThen_error, if_true, if_false,
          Bool.false_eq_true]
      · obtain ⟨added, h1, h2, h3, h4⟩ := waitLoop_spec pfName numvfs counts rest vfCount
          { s.record .queueGet with vfQueue := rest } rfl
        exact ⟨added, h1, h2.cons_event env, h3, h4⟩
      · exact ⟨[], by simp [Sys.record], Added.nil env, by simp, by simp⟩
      · obtain ⟨added, h1, h2, h3, h4⟩ := waitLoop_spec pfName numvfs counts rest (vfCount + 1)
          { s.record .queueGet with vfQueue := rest, vfToPf := s.vfToPf ++ [(basename d, ⟨d, pfName⟩)] } rfl
        refine ⟨(basename d, ⟨d, pfName⟩) :: added, by simpa [Sys.record] using h1,
          Added.cons_vf env hp hl hn hnew (by simpa [Sys.record] using h2), fun s' hs' => ?_,
          fun s' hs' => ?_⟩
        · have := h3 s' hs'; simp only [List.length_cons, Nat.cast_succ]; omega
        · obtain ⟨h5, h6⟩ := h4 s' hs'
          exact ⟨by simp only [List.length_cons, Nat.cast_succ]; omega, h6⟩
    · exact ⟨[], by simp, Added.nil env, fun _ _ => by simp; omega, by simp⟩

/-- `_wait_for_vf_creation` only appends to `vf_to_pf`: new VF names, each once, each with the
path of a queued event whose `physfn/net` lists the PF. It counts names: it reports the VFs
created once it has added `numvfs` of them, and times out at the first empty wait having added
fewer. -/
theorem wait_for_vf_creation_appends_new_vf_names (pfName : List Char) (numvfs : Int)
    (counts : List Char → Int) (s : Sys) :
    ∃ added, (waitForVfCreation env pfName numvfs counts s).state.vfToPf = s.vfToPf ++ added ∧
      Added env pfName s.vfQueue s.vfToPf added ∧
      (∀ s', waitForVfCreation env pfName numvfs counts s = .ok .created s' →
        (added.length : Int) = max numvfs 0) ∧
      (∀ s', waitForVfCreation env pfName numvfs counts s = .ok .timeout s' →
        (added.length : Int) < numvfs ∧ s'.vfQueue = []) := by
  have h : waitForVfCreation env pfName numvfs counts s = waitLoop env pfName numvfs 0 s.vfQueue counts s := by
    simp [waitForVfCreation]
  obtain ⟨added, h1, h2, h3, h4⟩ := waitLoop_spec env pfName numvfs counts s.vfQueue 0 s rfl
  rw [h]
  exact ⟨added, h1, h2, fun s' hs' => by simpa using h3 s' hs', fun s' hs' => by simpa using h4 s' hs'⟩

/-- Udev renames a VF netdev: the events for `eth0` and then `enp6s0f0v0` are of one VF,
`0000:06:00.2`. -/
def renamedVfEvents : List (List Char) :=
  ["/sys/devices/pci0000:00/0000:00:02.2/0000:06:00.2/net/eth0".toList,
    "/sys/devices/pci0000:00/0000:00:02.2/0000:06:00.2/net/enp6s0f0v0".toList]

/-- Every `physfn/net` directory lists `enp6s0f0np0`. -/
def renameEnv : Env :=
  { quietEnv with sysfsIsDir := fun _ _ => true, listdir := fun _ _ => some ["enp6s0f0np0".toList] }

/-- The wait counts the renamed VF twice and reports two VFs created; both entries it adds sit
under one PCI device. -/
theorem wait_for_vf_creation_counts_renamed_vf_twice :
    ∃ s', waitForVfCreation renameEnv "enp6s0f0np0".toList 2 (fun _ => 0)
        ⟨fun _ => none, [], renamedVfEvents, true, []⟩ = .ok .created s' ∧
      s'.vfToPf = [("eth0".toList, ⟨renamedVfEvents[0], "enp6s0f0np0".toList⟩),
        ("enp6s0f0v0".toList, ⟨renamedVfEvents[1], "enp6s0f0np0".toList⟩)] ∧
      normPath renamedVfEvents[0] "../..".toList = normPath renamedVfEvents[1] "../..".toList :=
  ⟨_, rfl, by decide, by decide⟩

/-! ### Events of the netdev of one VF -/

/-- The sysfs path `…/<pci>/net/<ifname>` of the netdev `ifname` of the PCI device `pci`. -/
def netdevPath (pre : List (List Char)) (pci ifname : List Char) : List Char :=
  absPath (pre ++ [pci, "net".toList, ifname])

theorem getPfPath_netdevPath (trace : List Effect) (pre : List (List Char))
    (pci ifname : List Char) (h : ∀ c ∈ pre ++ [pci, "net".toList, ifname], PlainComp c) :
    getPfPath env trace (netdevPath pre pci ifname) =
      if env.sysfsIsDir trace (absPath (pre ++ [pci, "physfn".toList, "net".toList])) then
        some (absPath (pre ++ [pci, "physfn".toList, "net".toList]))
      else if env.sysfsIsDir trace
          (absPath (pre ++ [pci, "net".toList, ifname, "physfn".toList, "net".toList])) then
        some (absPath (pre ++ [pci, "net".toList, ifname, "physfn".toList, "net".toList]))
      else none := by
  have hi : PlainComp ifname := h _ (by simp)
  have hup : normPath (netdevPath pre pci ifname) "../../physfn/net".toList =
      absPath (pre ++ [pci, "physfn".toList, "net".toList]) := by
    rw [netdevPath, normPath, normpath_pathJoin_absPath (by simp) h (by decide)
      (show '/' :: "../../physfn/net".toList =
        absPath [['.', '.'], ['.', '.'], "physfn".toList, "net".toList] from rfl) (by decide)]
    simp [normpathComp, hi.2.2.1, List.getLast?_append, cons_intercalate_slash]
  have hdown : normPath (netdevPath pre pci ifname) "physfn/net".toList =
      absPath (pre ++ [pci, "net".toList, ifname, "physfn".toList, "net".toList]) := by
    rw [netdevPath, normPath, normpath_pathJoin_absPath (by simp) h (by decide)
      (show '/' :: "physfn/net".toList = absPath ["physfn".toList, "net".toList] from rfl)
      (by decide), foldl_normpathComp_plain true (by decide), cons_intercalate_slash (by simp)]
    simp
  rw [getPfPath, hup, hdown]

theorem vfEvent_records {pfName d pfPath : List Char} {pfNic : List (List Char)}
    {counts : List Char → Int} {s : Sys} (hp : getPfPath env s.trace d = some pfPath)
    (hl : env.listdir s.trace pfPath = some pfNic) (hn : pfName ∈ pfNic)
    (hnew : basename d ∉ s.vfToPf.map Prod.fst) :
    vfEvent env pfName d counts s =
      .ok true { s with vfToPf := s.vfToPf ++ [(basename d, ⟨d, pfName⟩)] } := by
  simp only [vfEvent, sysM_bind, sysM_get, EStateM.Result.andThen_ok, hp, listdir, hl,
    if_pos (And.intro hnew hn), sysM_modify, sysM_pure]

section OneVf
variable {pfName pci : List Char} {pfNic : List (List Char)} {pre : List (List Char)}
  (h : ∀ c ∈ pre ++ [pci, "net".toList], PlainComp c)
  (hdir : ∀ tr, env.sysfsIsDir tr (absPath (pre ++ [pci, "physfn".toList, "net".toList])) = true)
  (hl : ∀ tr, env.listdir tr (absPath (pre ++ [pci, "physfn".toList, "net".toList])) = some pfNic)
  (hpf : pfName ∈ pfNic)
include h hdir hl hpf

theorem vfEvent_netdevPath {ifname : List Char} (hi : PlainComp ifname) (counts : List Char → Int)
    (s : Sys) (hnew : ifname ∉ s.vfToPf.map Prod.fst) :
    vfEvent env pfName (netdevPath pre pci ifname) counts s =
      .ok true { s with vfToPf := s.vfToPf ++ [(ifname, ⟨netdevPath pre pci ifname, pfName⟩)] } := by
  have hpath : pre ++ [pci, "net".toList, ifname] = (pre ++ [pci, "net".toList]) ++ [ifname] := by
    simp
  have hb : basename (netdevPath pre pci ifname) = ifname := by
    rw [netdevPath, hpath, basename_absPath_append _ hi.2.2.2]
  have hp : getPfPath env s.trace (netdevPath pre pci ifname) =
      some (absPath (pre ++ [pci, "physfn".toList, "net".toList])) := by
    rw [getPfPath_netdevPath env _ _ _ _ (hpath ▸ List.forall_mem_append.mpr
      ⟨h, List.forall_mem_singleton.mpr hi⟩), if_pos (hdir _)]
  rw [vfEvent_records env hp (hl _) hpf (by rwa [hb]), hb]

theorem waitLoop_netdevPaths (numvfs : Int) (counts : List Char → Int) :
    ∀ (names : List (List Char)) (vfCount : Int) (s : Sys), (∀ n ∈ names, PlainComp n) →
      names.Nodup → (∀ n ∈ names, n ∉ s.vfToPf.map Prod.fst) → vfCount + names.length = numvfs →
      ∃ s', waitLoop env pfName numvfs vfCount (names.map (netdevPath pre pci)) counts s =
          .ok .created s' ∧
        s'.vfToPf = s.vfToPf ++ names.map fun n => (n, ⟨netdevPath pre pci n, pfName⟩)
  | [], vfCount, s, _, _, _, hc => ⟨s, by rw [List.map_nil, waitLoop_nil, if_neg (by simp at hc; omega)],
      by simp⟩
  | n :: rest, vfCount, s, hn, hnd, hfresh, hc => by
    rw [List.map_cons, waitLoop_cons, if_pos (by simp at hc; omega),
      vfEvent_netdevPath env h hdir hl hpf (hn n (List.mem_cons_self _ _)) counts
        { s.record .queueGet with vfQueue := rest.map (netdevPath pre pci) }
        (hfresh n (List.mem_cons_self _ _)), EStateM.Result.andThen_ok, if_pos rfl]
    refine (waitLoop_netdevPaths numvfs counts rest (vfCount + 1) _
      (fun m hm => hn m (List.mem_cons_of_mem _ hm)) (List.nodup_cons.mp hnd).2 (fun m hm => ?_)
      (by simp at hc; omega)).imp fun s' ⟨h1, h2⟩ => ⟨h1, by simp [h2, Sys.record]⟩
    have hne : m ≠ n := fun e => (List.nodup_cons.mp hnd).1 (e ▸ hm)
    simpa [Sys.record, hne] using hfresh m (List.mem_cons_of_mem _ hm)

/-- `_wait_for_vf_creation` counts netdev names, not PCI devices: when the `physfn/net` of one
VF's PCI device lists the PF, events for `n` distinct new names of that VF's netdev make
`_wait_for_vf_creation(pf, n)` report the VFs created, each name recorded as a VF of the PF. -/
theorem wait_for_vf_creation_counts_every_netdev_name (names : List (List Char))
    (hn : ∀ n ∈ names, PlainComp n) (hnd : names.Nodup) (counts : List Char → Int) (s : Sys)
    (hq : s.vfQueue = names.map (netdevPath pre pci))
    (hfresh : ∀ n ∈ names, n ∉ s.vfToPf.map Prod.fst) :
    ∃ s', waitForVfCreation env pfName names.length counts s = .ok .created s' ∧
      s'.vfToPf = s.vfToPf ++ names.map fun n => (n, ⟨netdevPath pre pci n, pfName⟩) := by
  simpa [waitForVfCreation, hq] using
    waitLoop_netdevPaths env h hdir hl hpf names.length counts names 0 s hn hnd hfresh (by simp)

end OneVf

def renamedVfPre : List (List Char) :=
  ["sys".toList, "devices".toList, "pci0000:00".toList, "0000:00:02.2".toList]

theorem wait_for_vf_creation_counts_eth0_and_its_rename :
    (∀ c ∈ renamedVfPre ++ ["0000:06:00.2".toList, "net".toList], PlainComp c) ∧
    (∀ n ∈ ["eth0".toList, "enp6s0f0v0".toList], PlainComp n) ∧
    renamedVfEvents = ["eth0".toList, "enp6s0f0v0".toList].map
      (netdevPath renamedVfPre "0000:06:00.2".toList) ∧
    ∃ s', waitForVfCreation renameEnv "enp6s0f0np0".toList 2 (fun _ => 0)
        ⟨fun _ => none, [], renamedVfEvents, true, []⟩ = .ok .created s' ∧
      s'.vfToPf = ["eth0".toList, "enp6s0f0v0".toList].map fun n =>
        (n, ⟨netdevPath renamedVfPre "0000:06:00.2".toList n, "enp6s0f0np0".toList⟩) :=
  have h : ∀ c ∈ renamedVfPre ++ ["0000:06:00.2".toList, "net".toList], PlainComp c := by decide
  have hn : ∀ n ∈ ["eth0".toList, "enp6s0f0v0".toList], PlainComp n := by decide
  have hq : renamedVfEvents = ["eth0".toList, "enp6s0f0v0".toList].map
      (netdevPath renamedVfPre "0000:06:00.2".toList) := by decide
  ⟨h, hn, hq, wait_for_vf_creation_counts_every_netdev_name renameEnv h (fun _ => rfl)
    (fun _ => rfl) (List.mem_singleton_self _) _ hn (by decide) _ _ hq (by simp)⟩

end Wait

/-! ### `set_numvfs` -/

section Set
variable (env : Env)

/-- What `set_numvfs` can do to the kernel: nothing, or one write of `numvfs` to a PF at 0;
and after a write it returns normally only with the count it asked for. -/
theorem setNumvfs_cases (ifname : List Char) (numvfs : Int) (w : World) :
    (∃ w', (setNumvfs env ifname numvfs).run w = .ok (w.kernel.numvfs ifname) w' ∧
      w'.kernel = w.kernel ∧ (numvfs = w.kernel.numvfs ifname ∨ w.kernel.numvfs ifname ≠ 0)) ∨
    (∃ e w', (setNumvfs env ifname numvfs).run w = .error e w' ∧ w'.kernel = w.kernel) ∨
    (w.kernel.numvfs ifname = 0 ∧ numvfs ≠ 0 ∧
      ((∃ e w' c, (setNumvfs env ifname numvfs).run w = .error e w' ∧
          w'.kernel = w.kernel.written ifname numvfs c) ∨
        ∃ w', (setNumvfs env ifname numvfs).run w = .ok numvfs w' ∧
          w'.kernel = w.kernel.written ifname numvfs numvfs)) := by
  simp only [setNumvfs, m_run_bind, liftSys_run]
  rcases h1 : getNumvfs env ifname w.kernel.numvfs w.sys with ⟨cur, s1⟩ | ⟨e, s1⟩
  · have hcur := getNumvfs_ok env h1
    subst hcur
    simp only [EStateM.Result.andThen_ok]
    by_cases hne : numvfs ≠ w.kernel.numvfs ifname
    · by_cases hz : w.kernel.numvfs ifname ≠ 0
      · exact .inl ⟨⟨w.kernel, s1⟩, by simp [hne, hz], rfl, .inr hz⟩
      · have hz' : w.kernel.numvfs ifname = 0 := not_not.mp hz
        refine .inr (.inr ⟨hz', by rwa [hz'] at hne, ?_⟩)
        rw [if_pos hne, if_neg hz]
        simp only [m_run_bind, m_run_tryCatch, writeNumvfs_run, hz', ne_eq, not_true_eq_false,
          or_false]
        by_cases hf : env.fails s1.trace (.writeNumvfs ifname numvfs)
        · simp only [hf, if_true, EStateM.Result.handle_error, m_run_throw,
            EStateM.Result.andThen_error]
          exact .inl ⟨_, _, 0, rfl, rfl⟩
        · simp only [hf, Bool.false_eq_true, ↓reduceIte, EStateM.Result.handle_ok,
            EStateM.Result.andThen_ok, liftSys_run]
          set k := w.kernel.written ifname numvfs (env.created ifname numvfs)
          rcases waitForVfCreation env ifname numvfs k.numvfs _ with ⟨_, s2⟩ | ⟨e, s2⟩
          · simp only [EStateM.Result.andThen_ok]
            rcases h3 : getNumvfs env ifname k.numvfs s2 with ⟨cur, s3⟩ | ⟨e, s3⟩
            · have hcur : cur = env.created ifname numvfs := by
                rw [getNumvfs_ok env h3]; simp [k, Kernel.written]
              subst hcur
              simp only [EStateM.Result.andThen_ok]
              by_cases hc : env.created ifname numvfs = numvfs
              · exact .inr ⟨⟨k, s3⟩, by simp [hc], by simp [k, hc]⟩
              · exact .inl ⟨_, ⟨k, s3⟩, _, by rw [if_pos hc, m_run_throw], rfl⟩
            · exact .inl ⟨_, _, _, rfl, rfl⟩
          · exact .inl ⟨_, _, _, rfl, rfl⟩
    · exact .inl ⟨⟨w.kernel, s1⟩, by simp [hne], rfl, .inl (not_not.mp hne)⟩
  · exact .inr (.inl ⟨e, _, rfl, rfl⟩)

theorem setNumvfs_ok {ifname : List Char} {numvfs r : Int} {w w' : World}
    (h : (setNumvfs env ifname numvfs).run w = .ok r w') :
    r = w'.kernel.numvfs ifname ∧ (w.kernel.numvfs ifname = 0 → r = numvfs) := by
  rcases setNumvfs_cases env ifname numvfs w with
    ⟨w'', h', hk, hc⟩ | ⟨e, w'', h', -⟩ | ⟨-, -, ⟨e, w'', c, h', -⟩ | ⟨w'', h', hk⟩⟩ <;>
    rw [h'] at h <;> simp only [EStateM.Result.ok.injEq, reduceCtorEq] at h <;>
    obtain ⟨rfl, rfl⟩ := h
  · exact ⟨by rw [hk], fun hz => hc.elim Eq.symm (absurd hz)⟩
  · exact ⟨by simp [hk, Kernel.written], fun _ => rfl⟩

theorem setNumvfs_ok_zero {ifname : List Char} {numvfs r : Int} {w w' : World}
    (h : (setNumvfs env ifname numvfs).run w = .ok r w') (hz : w'.kernel.numvfs ifname = 0) :
    numvfs = 0 := by
  rcases setNumvfs_cases env ifname numvfs w with
    ⟨w'', h', hk, hc⟩ | ⟨e, w'', h', -⟩ | ⟨-, -, ⟨e, w'', c, h', -⟩ | ⟨w'', h', hk⟩⟩ <;>
    rw [h'] at h <;> simp only [EStateM.Result.ok.injEq, reduceCtorEq] at h <;>
    obtain ⟨rfl, rfl⟩ := h
  · rw [hk] at hz
    exact (hc.resolve_right (not_not.mpr hz)).trans hz
  · simpa [hk, Kernel.written] using hz

/-- The writes to `sriov_numvfs` since the kernel was `k0`, listed in `ws`: one at most per PF,
each to a PF at 0 in `k0` and with a count `allowed` for it; the PFs not written keep their
counts. Since only a write changes a count, each write finds its PF at 0. -/
structure NumvfsWrites (allowed : List Char → Int → Prop) (k0 k : Kernel)
    (ws : List (List Char × Int)) : Prop where
  log : k.writes = k0.writes ++ ws
  once : (ws.map Prod.fst).Nodup
  fromZero : ∀ p ∈ ws, k0.numvfs p.1 = 0
  allowed : ∀ p ∈ ws, allowed p.1 p.2
  frame : ∀ q, q ∉ ws.map Prod.fst → k.numvfs q = k0.numvfs q

/-- Between two calls of `set_numvfs`, every PF written holds a count other than 0. -/
def Settled (k : Kernel) (ws : List (List Char × Int)) : Prop := ∀ p ∈ ws, k.numvfs p.1 ≠ 0

/-- The kernel properties kept by a run: `settled` says the run is between two calls of
`set_numvfs`. -/
def RunWrites (allowed : List Char → Int → Prop) (k0 : Kernel) (settled : Bool) (k : Kernel) :
    Prop :=
  ∃ ws, NumvfsWrites allowed k0 k ws ∧ (settled → Settled k ws)

theorem RunWrites.start (allowed : List Char → Int → Prop) (k0 : Kernel) (settled : Bool) :
    RunWrites allowed k0 settled k0 :=
  ⟨[], ⟨by simp, by simp, by simp, by simp, fun _ _ => rfl⟩, fun _ => by simp [Settled]⟩

theorem RunWrites.unsettle {allowed : List Char → Int → Prop} {k0 k : Kernel} {b : Bool}
    (h : RunWrites allowed k0 b k) : RunWrites allowed k0 false k :=
  let ⟨ws, hw, _⟩ := h
  ⟨ws, hw, fun h => absurd h Bool.false_ne_true⟩

section Step
variable {allowed : List Char → Int → Prop} {k0 k : Kernel} {ws : List (List Char × Int)}
  {ifname : List Char} {numvfs : Int}

theorem NumvfsWrites.written (hw : NumvfsWrites allowed k0 k ws) (hs : Settled k ws)
    (hz : k.numvfs ifname = 0) (ha : allowed ifname numvfs) (c : Int) :
    NumvfsWrites allowed k0 (k.written ifname numvfs c) (ws ++ [(ifname, numvfs)]) := by
  have hnew : ifname ∉ ws.map Prod.fst := fun h => by
    obtain ⟨p, hp, rfl⟩ := List.mem_map.mp h
    exact hs p hp hz
  refine ⟨by simp [Kernel.written, hw.log], ?_, ?_, ?_, fun q hq => ?_⟩
  · rw [List.map_append, List.nodup_append]
    exact ⟨hw.once, List.nodup_singleton _, by simpa using hnew⟩
  · simp only [List.mem_append, List.mem_singleton]
    rintro p (hp | rfl)
    · exact hw.fromZero p hp
    · rw [← hw.frame ifname hnew, hz]
  · simp only [List.mem_append, List.mem_singleton]
    rintro p (hp | rfl)
    · exact hw.allowed p hp
    · exact ha
  · simp only [List.map_append, List.mem_append, List.map_cons, List.map_nil, List.mem_singleton,
      not_or] at hq
    simp [Kernel.written, Function.update_noteq hq.2, hw.frame q hq.1]

theorem Settled.written (hs : Settled k ws)
    (hz : k.numvfs ifname = 0) (hn : numvfs ≠ 0) :
    Settled (k.written ifname numvfs numvfs) (ws ++ [(ifname, numvfs)]) := by
  simp only [Settled, List.mem_append, List.mem_singleton]
  rintro p (hp | rfl)
  · have hne : p.1 ≠ ifname := fun h => hs p hp (h ▸ hz)
    simpa [Kernel.written, Function.update_noteq hne] using hs p hp
  · simpa [Kernel.written] using hn

end Step

/-- `set_numvfs` called with an allowed count keeps the writes of a run as `NumvfsWrites` says,
and when it returns the run is settled again. -/
theorem setNumvfs_runWrites (env : Env) {allowed : List Char → Int → Prop} {k0 : Kernel}
    {ifname : List Char} {numvfs : Int} (ha : allowed ifname numvfs) :
    Triple (fun w => RunWrites allowed k0 true w.kernel) (setNumvfs env ifname numvfs)
      (fun _ w => RunWrites allowed k0 true w.kernel)
      (fun w => RunWrites allowed k0 false w.kernel) := by
  rintro w ⟨ws, hw, hs⟩
  have hs := hs rfl
  rcases setNumvfs_cases env ifname numvfs w with
    ⟨w', h, hk, -⟩ | ⟨e, w', h, hk⟩ | ⟨hz, hn, ⟨e, w', c, h, hk⟩ | ⟨w', h, hk⟩⟩ <;>
    rw [h] <;> simp only [EStateM.Result.holds_ok, EStateM.Result.holds_error]
  · exact ⟨ws, hk ▸ hw, fun _ => hk ▸ hs⟩
  · exact ⟨ws, hk ▸ hw, fun h => absurd h Bool.false_ne_true⟩
  · exact ⟨_, hk ▸ hw.written hs hz ha c, fun h => absurd h Bool.false_ne_true⟩
  · exact ⟨_, hk ▸ hw.written hs hz ha numvfs, fun _ => hk ▸ hs.written hz hn⟩

end Set

/-- Once `set_numvfs` has returned, a second call with the same count writes nothing: it returns
the same count or raises, and the kernel stays as the first call left it. The legacy udev rule
runs `os-net-config-sriov -n` again on every add event of the PF. -/
theorem set_numvfs_again_writes_nothing (env : Env) (ifname : List Char) (numvfs : Int)
    (w : World) :
    ((setNumvfs env ifname numvfs).run w).Holds
      (fun r w' => ((setNumvfs env ifname numvfs).run w').Holds
        (fun r' w'' => r' = r ∧ w''.kernel = w'.kernel) (fun _ w'' => w''.kernel = w'.kernel))
      (fun _ _ => True) := by
  rcases hr : (setNumvfs env ifname numvfs).run w with ⟨r, w'⟩ | ⟨e, w'⟩
  · have hcount := (setNumvfs_ok env hr).1
    rcases setNumvfs_cases env ifname numvfs w' with
      ⟨w'', h', hk, -⟩ | ⟨e, w'', h', hk⟩ | ⟨hz, hn, -⟩
    · simp only [EStateM.Result.holds_ok, h']
      exact ⟨hcount.symm, hk⟩
    · simpa only [EStateM.Result.holds_ok, h'] using hk
    · exact absurd (setNumvfs_ok_zero env hr hz) hn
  · trivial

/-! ### What `set_numvfs` raises -/

section Raises
variable (env : Env)

theorem vfEvent_raises (pfName d : List Char) (c : List Char → Int) (s : Sys) :
    (vfEvent env pfName d c s).Holds (fun _ _ => True)
      fun e _ => ∃ tr path, getPfPath env tr d = some path ∧ e = .os path := by
  simp only [vfEvent, sysM_bind, sysM_get, EStateM.Result.andThen_ok]
  rcases hp : getPfPath env s.trace d with _ | pfPath
  · trivial
  simp only [listdir, sysM_bind]
  rcases env.listdir s.trace pfPath with _ | pfNic
  · exact ⟨s.trace, pfPath, hp, rfl⟩
  · simp only [EStateM.Result.andThen_ok]
    split <;> simp

theorem waitLoop_raises (pfName : List Char) (numvfs : Int) (c : List Char → Int) :
    ∀ (queue : List (List Char)) (vfCount : Int) (s : Sys),
      (waitLoop env pfName numvfs vfCount queue c s).Holds (fun _ _ => True)
        fun e _ => ∃ d tr path, getPfPath env tr d = some path ∧ e = .os path
  | [], vfCount, s => by rw [waitLoop_nil]; split_ifs <;> trivial
  | d :: rest, vfCount, s => by
    rw [waitLoop_cons]
    split_ifs
    · rw [EStateM.Result.holds_andThen]
      exact (vfEvent_raises env pfName d c _).mono
        (fun _ _ _ => waitLoop_raises pfName numvfs c rest _ _) fun _ _ ⟨tr, path, hp, he⟩ =>
          ⟨d, tr, path, hp, he⟩
    · trivial

theorem waitForVfCreation_raises (pfName : List Char) (numvfs : Int) (c : List Char → Int)
    (s : Sys) :
    (waitForVfCreation env pfName numvfs c s).Holds (fun _ _ => True)
      fun e _ => ∃ d tr path, getPfPath env tr d = some path ∧ e = .os path := by
  simp only [waitForVfCreation, sysM_bind, sysM_get, EStateM.Result.andThen_ok]
  exact waitLoop_raises env pfName numvfs c _ _ _

theorem getNumvfs_raises (ifname : List Char) (c : List Char → Int) (s : Sys) :
    (getNumvfs env ifname c s).Holds (fun _ _ => True) fun e _ =>
      e = .sriovNumvfs (ifname ++ ": Unable to read numvfs: ".toList)
        (some (env.devPath ifname "sriov_numvfs".toList)) := by
  simp only [getNumvfs, perform, numvfsOf, sysM_bind]
  split_ifs <;> simp

end Raises

/-- What `set_numvfs` raises: an `SRIOVNumvfsException` whose message starts with the interface
name and whose file, when it has one, is the PF's `sriov_numvfs` (the read, the write or the check
of the count failed), or the `OSError` of listing the `physfn/net` directory of a queued event,
which `_wait_for_vf_creation` does not catch. -/
theorem set_numvfs_raises_numvfs_error_or_listdir_error (env : Env) (ifname : List Char)
    (numvfs : Int) (w : World) :
    ((setNumvfs env ifname numvfs).run w).Holds (fun _ _ => True) fun e _ =>
      (∃ msg io, e = .sriovNumvfs (ifname ++ msg) io ∧
        ∀ path ∈ io, path = env.devPath ifname "sriov_numvfs".toList) ∨
      ∃ d tr path, getPfPath env tr d = some path ∧ e = .os path := by
  simp only [setNumvfs, m_run_bind, liftSys_run]
  have hget := getNumvfs_raises env ifname w.kernel.numvfs w.sys
  revert hget
  rcases getNumvfs env ifname w.kernel.numvfs w.sys with ⟨cur, s1⟩ | ⟨e, s1⟩ <;> intro hget
  · simp only [EStateM.Result.andThen_ok]
    split_ifs with hne hz
    · trivial
    · simp only [m_run_bind, m_run_tryCatch, writeNumvfs_run]
      split_ifs
      · simp only [EStateM.Result.handle_error, m_run_throw, EStateM.Result.andThen_error,
          EStateM.Result.holds_error]
        exact .inl ⟨_, _, by simp only [List.append_assoc]; rfl, fun _ h => (Option.some.inj h).symm⟩
      · simp only [EStateM.Result.handle_ok, EStateM.Result.andThen_ok, liftSys_run]
        have hwait := waitForVfCreation_raises env ifname numvfs
          (w.kernel.written ifname numvfs (env.created ifname numvfs)).numvfs
          ((s1.record (.writeNumvfs ifname numvfs)).deliver
            (env.udevEvents s1.trace (.writeNumvfs ifname numvfs)))
        revert hwait
        rcases waitForVfCreation env ifname numvfs _ _ with ⟨_, s2⟩ | ⟨e, s2⟩ <;> intro hwait
        · simp only [EStateM.Result.andThen_ok, m_run_bind, liftSys_run]
          have hget' := getNumvfs_raises env ifname
            (w.kernel.written ifname numvfs (env.created ifname numvfs)).numvfs s2
          revert hget'
          rcases getNumvfs env ifname _ s2 with ⟨_, s3⟩ | ⟨e, s3⟩ <;> intro hget'
          · simp only [EStateM.Result.andThen_ok]
            split_ifs
            · simp only [m_run_throw, EStateM.Result.holds_error, List.append_assoc]
              exact .inl ⟨_, none, rfl, by simp⟩
            · trivial
          · exact .inl ⟨_, _, hget', fun _ h => (Option.some.inj h).symm⟩
        · exact .inr hwait
    · trivial
  · exact .inl ⟨_, _, hget, fun _ h => (Option.some.inj h).symm⟩

/-! ### `set_numvfs` with no observer

`main` with `--numvfs` starts no udev observer, so nothing reaches `vf_queue` while
`set_numvfs` runs: its wait for the VFs pops an empty queue once and returns on the timeout. -/

section Unobserved
variable (env : Env)

theorem getNumvfs_unobserved (ifname : List Char) (c : List Char → Int) {s : Sys}
    (h : s.observing = false) :
    (∃ e, getNumvfs env ifname c s = .error e (s.record (.readNumvfs ifname))) ∨
      getNumvfs env ifname c s = .ok (c ifname) (s.record (.readNumvfs ifname)) := by
  simp only [getNumvfs, sysM_bind, perform_run,
    Sys.deliver_of_observing_false (s := s.record (.readNumvfs ifname)) h]
  split
  · exact .inl ⟨_, rfl⟩
  · exact .inr rfl

theorem waitForVfCreation_unobserved (ifname : List Char) (numvfs : Int) (c : List Char → Int)
    {s : Sys} (h : s.vfQueue = []) :
    waitForVfCreation env ifname numvfs c s =
      if 0 < numvfs then .ok .timeout (s.record .queueGet) else .ok .created s := by
  simp only [waitForVfCreation, sysM_bind, sysM_get, EStateM.Result.andThen_ok, h, waitLoop_nil]

theorem setNumvfs_unobserved (ifname : List Char) (numvfs : Int) (hn : 0 ≤ numvfs) (w : World)
    (hobs : w.sys.observing = false) (hq : w.sys.vfQueue = []) :
    ∃ l, ((setNumvfs env ifname numvfs).run w).state.sys = { w.sys with trace := w.sys.trace ++ l } ∧
      l <+: [.readNumvfs ifname, .writeNumvfs ifname numvfs, .queueGet, .readNumvfs ifname] := by
  simp only [setNumvfs, m_run_bind, liftSys_run]
  rcases getNumvfs_unobserved env ifname w.kernel.numvfs hobs with ⟨e, h1⟩ | h1 <;> rw [h1]
  · exact ⟨[.readNumvfs ifname], rfl, by simp⟩
  simp only [EStateM.Result.andThen_ok]
  split_ifs with hne hz
  · exact ⟨[.readNumvfs ifname], rfl, by simp⟩
  · have hz' := not_not.mp hz
    have hpos : 0 < numvfs := by omega
    simp only [m_run_bind, m_run_tryCatch, writeNumvfs_run, hz', ne_eq, not_true_eq_false, or_false]
    split_ifs with hf
    · simp only [EStateM.Result.handle_error, m_run_throw, EStateM.Result.andThen_error]
      exact ⟨[.readNumvfs ifname, .writeNumvfs ifname numvfs], by simp [Sys.record], by simp⟩
    · simp only [EStateM.Result.handle_ok, EStateM.Result.andThen_ok, liftSys_run,
        Sys.deliver_of_observing_false (s := (w.sys.record _).record _) hobs,
        waitForVfCreation_unobserved env ifname numvfs _ (s := (w.sys.record _).record _) hq,
        if_pos hpos, EStateM.Result.andThen_ok]
      refine ⟨[.readNumvfs ifname, .writeNumvfs ifname numvfs, .queueGet, .readNumvfs ifname], ?_,
        List.prefix_refl _⟩
      rcases getNumvfs_unobserved env ifname _
        (s := ((w.sys.record (.readNumvfs ifname)).record (.writeNumvfs ifname numvfs)).record .queueGet)
        hobs with ⟨e, h2⟩ | h2 <;> rw [h2]
      · simp [Sys.record]
      · simp only [EStateM.Result.andThen_ok]
        split_ifs <;> simp [Sys.record]
  · exact ⟨[.readNumvfs ifname], rfl, by simp⟩

end Unobserved

end SriovConfig.Numvfs
