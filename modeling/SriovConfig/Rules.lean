import SriovConfig.UdevRule
import SriovConfig.PyRe

/-! The lines the rule emitters hand to `add_udev_rule`, and the vDPA representor names
`add_udev_rule_for_vdpa_representors` derives from sysfs paths. -/
set_option autoImplicit false

namespace SriovConfig.Rules
open PyText PyRe UdevRule

/-- One value of the module-level dict `vf_to_pf`. -/
structure VfLink where
  device : List Char
  pf : List Char
deriving DecidableEq, Repr, Inhabited

/-- `_REP_LINK_NAME_FILE`. -/
def repLinkNameFile : List Char := "/etc/udev/rep-link-name.sh".toList

/-- The line of `add_udev_rule_for_sriov_pf`. -/
def sriovPfRule (pfPci pfName : List Char) : List Char :=
  "SUBSYSTEM==\"net\", ACTION==\"add\", DRIVERS==\"?*\", KERNELS==\"".toList ++ pfPci ++
    "\", NAME=\"".toList ++ pfName ++ ['"']

/-- The line of `add_udev_rule_for_legacy_sriov_pf`. -/
def legacyRule (pfName : List Char) (numvfs : Int) : List Char :=
  "KERNEL==\"".toList ++ pfName ++ "\", RUN+=\"/bin/os-net-config-sriov -n %k:".toList ++
    pyStr numvfs ++ ['"']

/-- The pattern of `add_udev_rule_for_legacy_sriov_pf`. -/
def legacyPattern (pfName : List Char) : List Char :=
  "KERNEL==\"".toList ++ pfName ++ "\", RUN+=\"/bin/os-net-config-sriov -n".toList

/-- The line of `add_udev_rule_for_vf_representors`. -/
def vfRepresentorsRule (physSwitchId pfFunNum pfName : List Char) : List Char :=
  "SUBSYSTEM==\"net\", ACTION==\"add\", ATTR{phys_switch_id}==\"".toList ++ physSwitchId ++
    "\", ATTR{phys_port_name}==\"pf".toList ++ pfFunNum ++
    "vf*\", IMPORT{program}=\"".toList ++ repLinkNameFile ++
    " $attr{phys_port_name}\", NAME=\"".toList ++ pfName ++ "_$env{NUMBER}\"".toList

/-- The line of `add_udev_rule_to_unmanage_vf_representors_by_nm`. -/
def unmanageRule : List Char :=
  ("SUBSYSTEM==\"net\", ACTION==\"add\", ATTR{phys_switch_id}!=\"\", " ++
    "ATTR{phys_port_name}==\"pf*vf*\", ENV{NM_UNMANAGED}=\"1\"").toList

/-- `f"vdpa{bus}p{dev}vf{fn}"` of the groups of `VF_PCI_RE`. -/
def vdpaRepName (bus dev fn : List Char) : List Char :=
  "vdpa".toList ++ bus ++ ['p'] ++ dev ++ "vf".toList ++ fn

/-- One line of `add_udev_rule_for_vdpa_representors`, without its newline. -/
def vdpaRule (mac vdpaRep : List Char) : List Char :=
  "SUBSYSTEM==\"net\", ACTION==\"add\", ATTR{address}==\"".toList ++ mac ++ "\", NAME=\"".toList ++
    vdpaRep ++ ['"']

/-- The block `add_udev_rule_for_vdpa_representors` builds from `vf_to_pf`, `mac` being
`common.interface_mac`: one line per entry whose device path `VF_PCI_RE` matches. -/
def vdpaRepresentorLines (uni : UnicodeDb) (mac : List Char → List Char) :
    List (List Char × VfLink) → List Char
  | [] => []
  | (vf, att) :: rest =>
    match vfPciSearch uni att.device with
    | none => vdpaRepresentorLines uni mac rest
    | some (bus, dev, fn) => vdpaRule (mac vf) (vdpaRepName bus dev fn) ++ '\n' ::
        vdpaRepresentorLines uni mac rest

/-- A sysfs path of a VF netdev, `<pre>/DDDD:BB:DD.F/net/<ifname>`. -/
structure VfNetPath where
  pre : List Char
  domain : List Char
  bus : List Char
  dev : List Char
  fn : List Char
  ifname : List Char

namespace VfNetPath

def path (p : VfNetPath) : List Char :=
  p.pre ++ '/' :: p.domain ++ ':' :: p.bus ++ ':' :: p.dev ++ '.' :: p.fn ++ "/net/".toList ++
    p.ifname

/-- The address is four decimal digits of domain and nonempty decimal bus, device and
function, as sysfs prints them when they have no hexadecimal letter; the interface name is a
path component. -/
structure Decimal (p : VfNetPath) : Prop where
  domain_length : p.domain.length = 4
  digits : ∀ c ∈ p.domain ++ p.bus ++ p.dev ++ p.fn, isAsciiDigit c = true
  bus_ne : p.bus ≠ []
  dev_ne : p.dev ≠ []
  fn_ne : p.fn ≠ []
  ifname_ne : p.ifname ≠ []
  ifname_slash : '/' ∉ p.ifname

instance (p : VfNetPath) : Decidable p.Decimal :=
  decidable_of_iff (p.domain.length = 4 ∧ (∀ c ∈ p.domain ++ p.bus ++ p.dev ++ p.fn,
      isAsciiDigit c = true) ∧ p.bus ≠ [] ∧ p.dev ≠ [] ∧ p.fn ≠ [] ∧ p.ifname ≠ [] ∧
      '/' ∉ p.ifname)
    ⟨fun ⟨a, b, c, d, e, f, g⟩ => ⟨a, b, c, d, e, f, g⟩, fun ⟨a, b, c, d, e, f, g⟩ => ⟨a, b, c, d, e, f, g⟩⟩

variable {p : VfNetPath}

theorem Decimal.domain_digits (h : p.Decimal) : ∀ c ∈ p.domain, isAsciiDigit c = true :=
  fun c hc => h.digits c (List.mem_append_left _ (List.mem_append_left _ (List.mem_append_left _ hc)))

theorem Decimal.bus_digits (h : p.Decimal) : ∀ c ∈ p.bus, isAsciiDigit c = true :=
  fun c hc => h.digits c (List.mem_append_left _ (List.mem_append_left _ (List.mem_append_right _ hc)))

theorem Decimal.dev_digits (h : p.Decimal) : ∀ c ∈ p.dev, isAsciiDigit c = true :=
  fun c hc => h.digits c (List.mem_append_left _ (List.mem_append_right _ hc))

theorem Decimal.fn_digits (h : p.Decimal) : ∀ c ∈ p.fn, isAsciiDigit c = true :=
  fun c hc => h.digits c (List.mem_append_right _ hc)

end VfNetPath

theorem isDecimal_of_digits (uni : UnicodeDb) {l : List Char} (h : ∀ c ∈ l, isAsciiDigit c = true) :
    ∀ c ∈ l, isDecimal uni c = true :=
  fun c hc => isDecimal_of_isAsciiDigit (h c hc)

theorem count_slash_of_digits {l : List Char} (h : ∀ c ∈ l, isAsciiDigit c = true) :
    l.count '/' = 0 :=
  List.count_eq_zero.mpr fun hm => absurd (h _ hm) (by decide)

theorem isDecimal_colon {uni : UnicodeDb} : isDecimal uni ':' = false := rfl

theorem isDecimal_dot {uni : UnicodeDb} : isDecimal uni '.' = false := rfl

theorem isDecimal_slash {uni : UnicodeDb} : isDecimal uni '/' = false := rfl

theorem vfPciMatch_path {uni : UnicodeDb} {p : VfNetPath} (h : p.Decimal) :
    vfPciMatch uni ('/' :: p.domain ++ ':' :: p.bus ++ ':' :: p.dev ++ '.' :: p.fn ++
      "/net/".toList ++ p.ifname) = some (p.bus, p.dev, p.fn) := by
  have hbus := digitsPlus_append (isDecimal_of_digits uni h.bus_digits) h.bus_ne
    (r := ':' :: (p.dev ++ '.' :: (p.fn ++ ("/net/".toList ++ p.ifname)))) (by simp [isDecimal_colon])
  have hdev := digitsPlus_append (isDecimal_of_digits uni h.dev_digits) h.dev_ne
    (r := '.' :: (p.fn ++ ("/net/".toList ++ p.ifname))) (by simp [isDecimal_dot])
  have hfn := digitsPlus_append (isDecimal_of_digits uni h.fn_digits) h.fn_ne
    (r := "/net/".toList ++ p.ifname) (by simp [isDecimal_slash])
  have hlen := h.domain_length
  have htake : (p.domain ++ ':' :: (p.bus ++ ':' :: (p.dev ++ '.' :: (p.fn ++ ("/net/".toList ++
      p.ifname))))).take 4 = p.domain := by
    simp [← hlen]
  have hdrop : (p.domain ++ ':' :: (p.bus ++ ':' :: (p.dev ++ '.' :: (p.fn ++ ("/net/".toList ++
      p.ifname))))).drop 4 = ':' :: (p.bus ++ ':' :: (p.dev ++ '.' :: (p.fn ++ ("/net/".toList ++
      p.ifname)))) := by
    simp [← hlen]
  have hall : p.domain.all (isDecimal uni) := List.all_eq_true.mpr (isDecimal_of_digits uni h.domain_digits)
  simp only [List.cons_append, List.append_assoc]
  unfold vfPciMatch
  rw [dropPrefix?_cons_self, dropPrefix?_nil]
  dsimp only [Option.bind_eq_bind, Option.some_bind, guard]
  rw [htake, hdrop, if_pos ⟨hlen, hall⟩]
  dsimp only [Option.pure_def, Option.some_bind]
  rw [dropPrefix?_cons_self, dropPrefix?_nil]
  dsimp only [Option.some_bind]
  rw [hbus]
  dsimp only [Option.some_bind]
  rw [dropPrefix?_cons_self, dropPrefix?_nil]
  dsimp only [Option.some_bind]
  rw [hdev]
  dsimp only [Option.some_bind]
  rw [dropPrefix?_cons_self, dropPrefix?_nil]
  dsimp only [Option.some_bind]
  rw [hfn]
  dsimp only [Option.some_bind]
  rw [dropPrefix?_append]
  dsimp only [Option.some_bind]
  rw [if_pos ⟨h.ifname_ne, h.ifname_slash⟩]
  rfl

theorem count_slash_of_decimal {uni : UnicodeDb} {l : List Char}
    (h : ∀ c ∈ l, isDecimal uni c = true) : l.count '/' = 0 :=
  List.count_eq_zero.mpr fun hm => absurd (h _ hm) (by rw [isDecimal_slash]; decide)

theorem vfPciMatch_slashes {uni : UnicodeDb} {s : List Char} {g : List Char × List Char × List Char}
    (h : vfPciMatch uni s = some g) : ∃ t, s = '/' :: t ∧ t.count '/' = 2 := by
  -- one inversion per bind of the `do` block
  obtain ⟨s1, h1, h⟩ := Option.bind_eq_some.mp h
  obtain ⟨_, hdom, h⟩ := Option.bind_eq_some.mp h
  obtain ⟨s2, h2, h⟩ := Option.bind_eq_some.mp h
  obtain ⟨⟨bus, s3⟩, h3, h⟩ := Option.bind_eq_some.mp h
  obtain ⟨s4, h4, h⟩ := Option.bind_eq_some.mp h
  obtain ⟨⟨dev, s5⟩, h5, h⟩ := Option.bind_eq_some.mp h
  obtain ⟨s6, h6, h⟩ := Option.bind_eq_some.mp h
  obtain ⟨⟨fn, s7⟩, h7, h⟩ := Option.bind_eq_some.mp h
  obtain ⟨name, h8, h⟩ := Option.bind_eq_some.mp h
  obtain ⟨_, hname, -⟩ := Option.bind_eq_some.mp h
  obtain ⟨hs2, hbus⟩ := eq_of_digitsPlus_eq_some h3
  obtain ⟨hs4, hdev⟩ := eq_of_digitsPlus_eq_some h5
  obtain ⟨hs6, hfn⟩ := eq_of_digitsPlus_eq_some h7
  refine ⟨s1, eq_of_dropPrefix?_eq_some h1, ?_⟩
  rw [← List.take_append_drop 4 s1, List.count_append,
    count_slash_of_decimal (List.all_eq_true.mp ((Option.guard_eq_some' _).mp hdom).2),
    eq_of_dropPrefix?_eq_some h2, hs2, eq_of_dropPrefix?_eq_some h4, hs4,
    eq_of_dropPrefix?_eq_some h6, hs6, eq_of_dropPrefix?_eq_some h8]
  simp [List.count_cons, count_slash_of_decimal hbus, count_slash_of_decimal hdev,
    count_slash_of_decimal hfn, List.count_eq_zero.mpr ((Option.guard_eq_some' _).mp hname).2]

theorem vfPciSearch_append {uni : UnicodeDb} {rest : List Char} {g : List Char × List Char × List Char}
    (hm : vfPciMatch uni ('/' :: rest) = some g) (hc : rest.count '/' = 2) :
    ∀ pre, vfPciSearch uni (pre ++ '/' :: rest) = some g
  | [] => by simp [vfPciSearch, hm]
  | c :: pre => by
    have hnone : vfPciMatch uni (c :: (pre ++ '/' :: rest)) = none := by
      rcases hv : vfPciMatch uni (c :: (pre ++ '/' :: rest)) with _ | g'
      · rfl
      · obtain ⟨t, ht, htc⟩ := vfPciMatch_slashes hv
        obtain ⟨-, rfl⟩ := List.cons.inj ht
        simp [List.count_cons, hc] at htc
    simp [vfPciSearch, hnone, vfPciSearch_append hm hc pre]

theorem vfPciSearch_path {uni : UnicodeDb} {p : VfNetPath} (h : p.Decimal) :
    vfPciSearch uni p.path = some (p.bus, p.dev, p.fn) := by
  have hc : (p.domain ++ ':' :: p.bus ++ ':' :: p.dev ++ '.' :: p.fn ++ "/net/".toList ++
      p.ifname).count '/' = 2 := by
    simp [List.count_cons, count_slash_of_digits h.domain_digits, count_slash_of_digits h.bus_digits,
      count_slash_of_digits h.dev_digits, count_slash_of_digits h.fn_digits,
      List.count_eq_zero.mpr h.ifname_slash]
  simpa [VfNetPath.path] using vfPciSearch_append (vfPciMatch_path h) hc p.pre

/-- On sysfs paths of decimal addresses the block holds one rule per entry, in order. -/
theorem vdpaRepresentorLines_decimal (uni : UnicodeDb) (mac : List Char → List Char)
    (entries : List (List Char × VfNetPath × List Char)) (h : ∀ e ∈ entries, e.2.1.Decimal) :
    vdpaRepresentorLines uni mac (entries.map fun e => (e.1, ⟨e.2.1.path, e.2.2⟩)) =
      writeLines (entries.map fun e => vdpaRule (mac e.1) (vdpaRepName e.2.1.bus e.2.1.dev e.2.1.fn)) := by
  induction entries with
  | nil => rfl
  | cons e entries ih =>
    simp [vdpaRepresentorLines, vfPciSearch_path (h e (by simp)), ih fun e he => h e (by simp [he])]

theorem vdpaRepName_inj {b d f b' d' f' : List Char} (hb : 'p' ∉ b) (hb' : 'p' ∉ b')
    (hd : 'v' ∉ d) (hd' : 'v' ∉ d') :
    vdpaRepName b d f = vdpaRepName b' d' f' ↔ b = b' ∧ d = d' ∧ f = f' := by
  refine ⟨fun h => ?_, by rintro ⟨rfl, rfl, rfl⟩; rfl⟩
  simp only [vdpaRepName, List.append_assoc, List.append_cancel_left_eq, List.singleton_append] at h
  obtain ⟨rfl, h⟩ := append_cons_cancel_of_not_mem hb hb' h
  obtain ⟨rfl, h⟩ := append_cons_cancel_of_not_mem hd hd' (by simpa using h)
  exact ⟨rfl, rfl, by simpa using h⟩

/-- A Unicode database that marks nothing outside ASCII; the concrete inputs below are ASCII,
where every database agrees. -/
def asciiOnlyDb : UnicodeDb := ⟨fun _ => none, fun _ => false⟩

/-- The rename rules of decimal sysfs addresses: one per entry, in order, and names that tell
apart every two addresses with different bus, device or function. -/
theorem vdpa_rules_one_per_vf_names_injective (uni : UnicodeDb) (mac : List Char → List Char)
    (entries : List (List Char × VfNetPath × List Char)) (h : ∀ e ∈ entries, e.2.1.Decimal) :
    vdpaRepresentorLines uni mac (entries.map fun e => (e.1, ⟨e.2.1.path, e.2.2⟩)) =
      writeLines (entries.map fun e => vdpaRule (mac e.1) (vdpaRepName e.2.1.bus e.2.1.dev e.2.1.fn)) ∧
    ∀ e ∈ entries, ∀ e' ∈ entries,
      vdpaRepName e.2.1.bus e.2.1.dev e.2.1.fn = vdpaRepName e'.2.1.bus e'.2.1.dev e'.2.1.fn ↔
        (e.2.1.bus, e.2.1.dev, e.2.1.fn) = (e'.2.1.bus, e'.2.1.dev, e'.2.1.fn) := by
  refine ⟨vdpaRepresentorLines_decimal uni mac entries h, fun e he e' he' => ?_⟩
  have hnot : ∀ {c : Char} {l : List Char}, isAsciiDigit c = false → (∀ x ∈ l, isAsciiDigit x) →
      c ∉ l := fun hc hl hm => by simp [hl _ hm] at hc
  rw [vdpaRepName_inj (hnot rfl (h e he).bus_digits) (hnot rfl (h e' he').bus_digits)
    (hnot rfl (h e he).dev_digits) (hnot rfl (h e' he').dev_digits)]
  simp

/-- Two VFs of one vDPA card, `0000:06:01.2` and `0000:06:01.3`. -/
def vdpaTwoEntries : List (List Char × VfNetPath × List Char) :=
  [("enp6s0f1v0".toList, ⟨"/sys/devices/pci0000:00/0000:00:02.2".toList, "0000".toList,
      "06".toList, "01".toList, "2".toList, "enp6s0f1v0".toList⟩, "enp6s0f1np1".toList),
    ("enp6s0f1v1".toList, ⟨"/sys/devices/pci0000:00/0000:00:02.2".toList, "0000".toList,
      "06".toList, "01".toList, "3".toList, "enp6s0f1v1".toList⟩, "enp6s0f1np1".toList)]

theorem vdpa_rules_two_vfs : (∀ e ∈ vdpaTwoEntries, e.2.1.Decimal) ∧
    vdpaRepresentorLines asciiOnlyDb id (vdpaTwoEntries.map fun e => (e.1, ⟨e.2.1.path, e.2.2⟩)) =
      writeLines (vdpaTwoEntries.map fun e =>
        vdpaRule (id e.1) (vdpaRepName e.2.1.bus e.2.1.dev e.2.1.fn)) ∧
    ∀ e ∈ vdpaTwoEntries, ∀ e' ∈ vdpaTwoEntries,
      vdpaRepName e.2.1.bus e.2.1.dev e.2.1.fn = vdpaRepName e'.2.1.bus e'.2.1.dev e'.2.1.fn ↔
        (e.2.1.bus, e.2.1.dev, e.2.1.fn) = (e'.2.1.bus, e'.2.1.dev, e'.2.1.fn) :=
  have h : ∀ e ∈ vdpaTwoEntries, e.2.1.Decimal := by decide
  ⟨h, vdpa_rules_one_per_vf_names_injective asciiOnlyDb id vdpaTwoEntries h⟩

/-- The MAC addresses `common.interface_mac` reads for the netdevs of the examples. -/
def exampleMac (vf : List Char) : List Char :=
  "52:54:00:00:00:".toList ++ vf.drop (vf.length - 2)

/-- The same VF slot, `06:01.2`, in PCI domains `0000` and `0001`. -/
def domainPair : List (List Char × VfNetPath × List Char) :=
  [("eth0".toList, ⟨"/sys/devices/pci0000:00/0000:00:02.2".toList, "0000".toList, "06".toList,
      "01".toList, "2".toList, "eth0".toList⟩, "p0".toList),
    ("eth1".toList, ⟨"/sys/devices/pci0001:00/0001:00:02.2".toList, "0001".toList, "06".toList,
      "01".toList, "2".toList, "eth1".toList⟩, "p1".toList)]

/-- VF `0000:0a:00.2` of PF `enp10s0f0np0`, on bus 10, which sysfs prints in hexadecimal. -/
def hexBusVf : List Char × VfLink :=
  ("enp10s0f0v0".toList,
    ⟨"/sys/devices/pci0000:00/0000:00:03.0/0000:0a:00.2/net/enp10s0f0v0".toList, "enp10s0f0np0".toList⟩)

/-- `VF_PCI_RE` takes only decimal digits: the VF on bus `0a` gets no rename rule, the search
failing as at a path it cannot read. And it drops the domain: the VFs at `0000:06:01.2` and
`0001:06:01.2` both get the rule to `vdpa06p01vf2`. -/
theorem vdpa_rules_skip_hex_addresses_and_merge_domains :
    vdpaRepresentorLines asciiOnlyDb exampleMac [hexBusVf] = [] ∧
    (domainPair.map fun e => e.2.1.path).Nodup ∧
    vdpaRepresentorLines asciiOnlyDb exampleMac (domainPair.map fun e => (e.1, ⟨e.2.1.path, e.2.2⟩)) =
      writeLines [vdpaRule (exampleMac "eth0".toList) "vdpa06p01vf2".toList,
        vdpaRule (exampleMac "eth1".toList) "vdpa06p01vf2".toList] :=
  ⟨by decide, by decide,
    (vdpaRepresentorLines_decimal asciiOnlyDb exampleMac domainPair (by decide)).trans rfl⟩

/-- A call of an emitter that writes `_UDEV_RULE_FILE`, with what it reads from the system:
the PF's PCI address, its raw `phys_switch_id`, `vf_to_pf` and `common.interface_mac`. -/
inductive PrimaryCall where
  | sriovPf (pfPci pfName : List Char)
  | vfRepresentors (physSwitchId pfPci pfName : List Char)
  | unmanage
  | vdpaRepresentors (vfToPf : List (List Char × VfLink)) (mac : List Char → List Char)

/-- The data the call hands to `add_udev_rule`; `add_udev_rule_for_vf_representors` returns
before calling it when `PF_FUNC_RE` finds no function number. -/
def PrimaryCall.udevData (uni : UnicodeDb) : PrimaryCall → Option (List Char)
  | .sriovPf pfPci pfName => some (sriovPfRule pfPci pfName)
  | .vfRepresentors physSwitchId pfPci pfName =>
    (pfFuncSearch uni pfPci).map fun pfFunNum => vfRepresentorsRule (strip physSwitchId) pfFunNum pfName
  | .unmanage => some unmanageRule
  | .vdpaRepresentors vfToPf mac => some (vdpaRepresentorLines uni mac vfToPf)

def PrimaryCall.fileAfter (uni : UnicodeDb) (call : PrimaryCall) (file : Option (List Char)) :
    Option (List Char) :=
  match call.udevData uni with
  | some udevData => ruleFileAfter udevData file []
  | none => file

/-- `_UDEV_RULE_FILE` after a sequence of emitter calls. -/
def runPrimaryCalls (uni : UnicodeDb) (file : Option (List Char)) : List PrimaryCall → Option (List Char)
  | [] => file
  | call :: calls => runPrimaryCalls uni (call.fileAfter uni file) calls

/-- VF `0000:06:00.2` of PF `enp6s0f0np0`, as `_wait_for_vf_creation` records it. -/
def vdpaVf0 : List Char × VfLink :=
  ("enp6s0f0v0".toList,
    ⟨"/sys/devices/pci0000:00/0000:00:02.2/0000:06:00.2/net/enp6s0f0v0".toList, "enp6s0f0np0".toList⟩)

def vdpaVf1 : List Char × VfLink :=
  ("enp6s0f1v0".toList,
    ⟨"/sys/devices/pci0000:00/0000:00:02.2/0000:06:01.2/net/enp6s0f1v0".toList, "enp6s0f1np1".toList⟩)

set_option maxRecDepth 8000 in
/-- The vDPA block is matched as one substring: once `vf_to_pf` has grown between two calls the
old block is no longer found, and the new one is appended after it, so the first VF's rule
stands twice. An empty `vf_to_pf` gives the empty pattern, which every line holds: every line of
the file becomes empty. -/
theorem primary_rules_vdpa_block_duplicates_and_erases :
    runPrimaryCalls asciiOnlyDb none
        [.vdpaRepresentors [vdpaVf0] exampleMac, .vdpaRepresentors [vdpaVf0, vdpaVf1] exampleMac] =
      some (writeLines [autogenHeader,
        vdpaRule (exampleMac "enp6s0f0v0".toList) "vdpa06p00vf2".toList,
        vdpaRule (exampleMac "enp6s0f0v0".toList) "vdpa06p00vf2".toList,
        vdpaRule (exampleMac "enp6s0f1v0".toList) "vdpa06p01vf2".toList]) ∧
    runPrimaryCalls asciiOnlyDb none [.unmanage, .vdpaRepresentors [] exampleMac] =
      some (writeLines [[], []]) := by
  decide

end SriovConfig.Rules
