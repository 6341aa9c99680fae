import SriovConfig.LegacyRules

/-! The primary rule file without vDPA blocks. Over any sequence of calls of
`add_udev_rule_for_sriov_pf`, `add_udev_rule_for_vf_representors` and
`add_udev_rule_to_unmanage_vf_representors_by_nm`, `_UDEV_RULE_FILE` is the header followed by
each distinct rule once, in order of its first call. The substring test of `add_udev_rule` is an
exact line test here because no rule holds another: cut at their double quotes, two rules with
as many quotes start alike and end on a quote, and the first quotes of a rule with twelve leave
no place for a rule with ten. -/
set_option autoImplicit false

namespace SriovConfig.PrimaryRules
open PyText PyRe UdevRule Rules LegacyRules

/-! ### Texts cut at a separator -/

section Cut
variable {c : Char}

theorem eq_of_infix_of_count_le {p u w : List Char} (hp : c ∉ p) (hu : p ++ [c] <+: u)
    (hw : p ++ [c] <+: w) (hend : [c] <:+ w) (h : u <:+: w) (hcount : w.count c ≤ u.count c) :
    u = w := by
  obtain ⟨s, t, rfl⟩ := h
  have hst : s.count c = 0 ∧ t.count c = 0 := by
    simp only [List.count_append] at hcount; omega
  obtain ⟨x, rfl⟩ := hu
  obtain ⟨y, hy⟩ := hw
  simp only [List.append_assoc, List.singleton_append] at hy
  rw [← List.append_assoc] at hy
  obtain ⟨hs, -⟩ := append_cons_cancel_of_not_mem hp
    (by simpa [List.count_eq_zero.mp hst.1] using hp) hy
  obtain rfl : s = [] := List.append_left_eq_self.mp hs.symm
  rcases List.eq_nil_or_concat t with rfl | ⟨t', e, rfl⟩
  · simp
  · obtain ⟨z, hz⟩ := hend
    rw [List.concat_eq_append, ← List.append_assoc] at hz
    obtain ⟨-, he⟩ := List.append_inj' hz rfl
    exact absurd (List.count_eq_zero.mp hst.2) (by simp [List.singleton_inj.mp he])

theorem not_infix_of_prefix_mismatch {A U u w : List Char} {n k : Nat} (hA : A <+: w)
    (hU : U <+: u) (hn : n ≤ A.length) (hk : k < (A.take n).count c)
    (hcount : w.count c ≤ u.count c + k)
    (hcheck : ∀ i < n, ¬ A.drop i <+: U ∧ ¬ U <+: A.drop i) : ¬ u <:+: w := by
  rintro ⟨s, t, rfl⟩
  have hs : s.count c ≤ k := by simp only [List.count_append] at hcount; omega
  have hlen : s.length < n := by
    by_contra hle
    have hpre : A.take n <+: s := List.prefix_of_prefix_length_le
      ((List.take_prefix n A).trans hA) (List.prefix_append s u |>.trans (List.prefix_append _ t))
      (by simp only [List.length_take]; omega)
    exact absurd (hpre.sublist.count_le c) (by omega)
  have hA' : A.drop s.length <+: u ++ t := by
    simpa [List.append_assoc] using hA.drop s.length
  rcases List.prefix_or_prefix_of_prefix hA' (hU.trans (List.prefix_append u t)) with h | h
  · exact (hcheck s.length hlen).1 h
  · exact (hcheck s.length hlen).2 h

end Cut

/-! ### The rules of the three emitters -/

/-- A value spliced between the double quotes of a rule: no quote and no line boundary. -/
structure RuleValue (v : List Char) : Prop where
  no_quote : '"' ∉ v
  line : IsLine v

instance (v : List Char) : Decidable (RuleValue v) :=
  decidable_of_iff ('"' ∉ v ∧ IsLine v) ⟨fun h => ⟨h.1, h.2⟩, fun h => ⟨h.1, h.2⟩⟩

/-- The lines the three emitters hand to `add_udev_rule`, with values that keep them apart. -/
inductive PlainRule : List Char → Prop
  | sriovPf {pfPci pfName : List Char} : RuleValue pfPci → RuleValue pfName →
      PlainRule (sriovPfRule pfPci pfName)
  | vfRepresentors {physSwitchId pfFunNum pfName : List Char} : RuleValue physSwitchId →
      RuleValue pfFunNum → RuleValue pfName →
      PlainRule (vfRepresentorsRule physSwitchId pfFunNum pfName)
  | unmanage : PlainRule unmanageRule

/-- What a sriov PF rule and a VF representor rule hold before their first value. -/
def sriovPfHead : List Char :=
  "SUBSYSTEM==\"net\", ACTION==\"add\", DRIVERS==\"?*\", KERNELS==\"".toList

def vfRepresentorsHead : List Char :=
  "SUBSYSTEM==\"net\", ACTION==\"add\", ATTR\x7bphys_switch_id\x7d==\"".toList

/-- The word before the first quote of every rule. -/
def subsystemKey : List Char := "SUBSYSTEM==".toList

theorem sriovPfRule_eq (pfPci pfName : List Char) :
    sriovPfRule pfPci pfName = sriovPfHead ++ pfPci ++ "\", NAME=\"".toList ++ pfName ++ ['"'] :=
  rfl

theorem vfRepresentorsRule_eq (physSwitchId pfFunNum pfName : List Char) :
    vfRepresentorsRule physSwitchId pfFunNum pfName = vfRepresentorsHead ++ physSwitchId ++
      "\", ATTR\x7bphys_port_name\x7d==\"pf".toList ++ pfFunNum ++
      "vf*\", IMPORT\x7bprogram\x7d=\"".toList ++ repLinkNameFile ++
      " $attr\x7bphys_port_name\x7d\", NAME=\"".toList ++ pfName ++ "_$env\x7bNUMBER\x7d\"".toList :=
  rfl

theorem sriovPfRule_startsWith (pfPci pfName : List Char) : sriovPfHead <+: sriovPfRule pfPci pfName := by
  rw [sriovPfRule_eq]
  simp only [List.append_assoc]
  exact List.prefix_append _ _

theorem vfRepresentorsRule_startsWith (physSwitchId pfFunNum pfName : List Char) :
    vfRepresentorsHead <+: vfRepresentorsRule physSwitchId pfFunNum pfName := by
  rw [vfRepresentorsRule_eq]
  simp only [List.append_assoc]
  exact List.prefix_append _ _

theorem count_sriovPfRule {pfPci pfName : List Char} (hp : RuleValue pfPci)
    (hn : RuleValue pfName) : (sriovPfRule pfPci pfName).count '"' = 10 := by
  simp only [sriovPfRule_eq, List.count_append, List.count_eq_zero.mpr hp.no_quote,
    List.count_eq_zero.mpr hn.no_quote]
  decide

theorem count_vfRepresentorsRule {physSwitchId pfFunNum pfName : List Char}
    (hs : RuleValue physSwitchId) (hf : RuleValue pfFunNum) (hn : RuleValue pfName) :
    (vfRepresentorsRule physSwitchId pfFunNum pfName).count '"' = 12 := by
  simp only [vfRepresentorsRule_eq, List.count_append, List.count_eq_zero.mpr hs.no_quote,
    List.count_eq_zero.mpr hf.no_quote, List.count_eq_zero.mpr hn.no_quote]
  decide

theorem count_unmanageRule : unmanageRule.count '"' = 10 := by decide

namespace PlainRule
variable {d d' : List Char}

theorem start (h : PlainRule d) : subsystemKey ++ ['"'] <+: d := by
  cases h with
  | sriovPf => exact List.IsPrefix.trans (by decide) (sriovPfRule_startsWith _ _)
  | vfRepresentors => exact List.IsPrefix.trans (by decide) (vfRepresentorsRule_startsWith _ _ _)
  | unmanage => decide

theorem stop (h : PlainRule d) : ['"'] <:+ d := by
  cases h with
  | sriovPf => exact List.suffix_append _ _
  | vfRepresentors => exact List.IsSuffix.trans (by decide) (List.suffix_append _ _)
  | unmanage => decide

theorem eq_of_infix (h : PlainRule d) (h' : PlainRule d') (hi : d <:+: d') : d = d' := by
  have hsame : d'.count '"' ≤ d.count '"' → d = d' :=
    eq_of_infix_of_count_le (by decide) h.start h'.start h'.stop hi
  have hcount := hi.sublist.count_le '"'
  cases h with
  | sriovPf hp hn =>
    cases h' with
    | sriovPf hp' hn' => exact hsame (by rw [count_sriovPfRule hp hn, count_sriovPfRule hp' hn'])
    | vfRepresentors hs' hf' hn' =>
      exact absurd hi (not_infix_of_prefix_mismatch (c := '"') (n := 27) (k := 2)
        (vfRepresentorsRule_startsWith _ _ _) (sriovPfRule_startsWith _ _) (by decide) (by decide)
        (by rw [count_vfRepresentorsRule hs' hf' hn', count_sriovPfRule hp hn]) (by decide))
    | unmanage => exact hsame (by rw [count_sriovPfRule hp hn, count_unmanageRule])
  | vfRepresentors hs hf hn =>
    cases h' with
    | sriovPf hp' hn' =>
      exact absurd hcount (by rw [count_vfRepresentorsRule hs hf hn, count_sriovPfRule hp' hn']; decide)
    | vfRepresentors hs' hf' hn' =>
      exact hsame (by rw [count_vfRepresentorsRule hs hf hn, count_vfRepresentorsRule hs' hf' hn'])
    | unmanage =>
      exact absurd hcount (by rw [count_vfRepresentorsRule hs hf hn, count_unmanageRule]; decide)
  | unmanage =>
    cases h' with
    | sriovPf hp' hn' => exact hsame (by rw [count_sriovPfRule hp' hn', count_unmanageRule])
    | vfRepresentors hs' hf' hn' =>
      exact absurd hi (not_infix_of_prefix_mismatch (c := '"') (n := 27) (k := 2)
        (vfRepresentorsRule_startsWith _ _ _) (List.prefix_refl _) (by decide) (by decide)
        (by rw [count_vfRepresentorsRule hs' hf' hn', count_unmanageRule]) (by decide))
    | unmanage => rfl

theorem isLine (h : PlainRule d) : IsLine d := by
  cases h with
  | sriovPf hp hn =>
    simp only [sriovPfRule_eq, isLine_append]
    exact ⟨⟨⟨⟨.of_printable (by decide), hp.line⟩, .of_printable (by decide)⟩, hn.line⟩,
      .of_printable (by decide)⟩
  | vfRepresentors hs hf hn =>
    simp only [vfRepresentorsRule_eq, isLine_append]
    exact ⟨⟨⟨⟨⟨⟨⟨⟨.of_printable (by decide), hs.line⟩, .of_printable (by decide)⟩, hf.line⟩,
      .of_printable (by decide)⟩, .of_printable (by decide)⟩, .of_printable (by decide)⟩, hn.line⟩,
      .of_printable (by decide)⟩
  | unmanage => exact .of_printable (by decide)

theorem ne_nil (h : PlainRule d) : d ≠ [] := fun hd => by simpa [hd] using h.start

theorem strip_eq (h : PlainRule d) : strip d = d := by
  obtain ⟨x, hx⟩ := h.start
  obtain ⟨z, hz⟩ := h.stop
  have hd : d.dropWhile isSpace = d := by
    rw [← hx]
    exact List.dropWhile_cons_of_neg (by decide)
  rw [strip, hd, ← hz]
  exact List.rdropWhile_concat_neg _ _ _ (by decide)

theorem not_infix_autogenHeader (h : PlainRule d) : ¬ d <:+: autogenHeader := fun hi =>
  absurd (hi.subset (h.stop.subset (List.mem_singleton_self '"'))) (by decide)

end PlainRule

/-! ### The file over a run -/

/-- The primary rule file holding `rules` under its header; absent while there is none. -/
def primaryFile (rules : List (List Char)) : Option (List Char) :=
  if rules = [] then none else some (writeLines (autogenHeader :: rules))

/-- On a file of plain rules, a call with a plain rule appends it when the file lacks it and
writes nothing otherwise. -/
theorem ruleFileAfter_primaryFile {rules : List (List Char)} (hr : ∀ l ∈ rules, PlainRule l)
    {d : List Char} (hd : PlainRule d) :
    ruleFileAfter d (primaryFile rules) [] =
      primaryFile (if d ∈ rules then rules else rules ++ [d]) := by
  have hpat : rulePattern d [] = d := by simp [rulePattern, hd.strip_eq]
  by_cases h0 : rules = []
  · subst h0
    simp [primaryFile, ruleFileAfter, addUdevRule_absent, hd.strip_eq]
  have hlines : splitlines (writeLines (autogenHeader :: rules)) = autogenHeader :: rules :=
    splitlines_writeLines fun l hl => (List.mem_cons.mp hl).elim (· ▸ isLine_autogenHeader)
      fun hl => (hr l hl).isLine
  have hinf : d <:+: writeLines (autogenHeader :: rules) ↔ d ∈ rules := by
    rw [infix_writeLines_iff (fun hn => absurd (hd.isLine _ hn) (by decide)) hd.ne_nil]
    refine ⟨fun ⟨l, hl, hdl⟩ => ?_, fun hm => ⟨d, List.mem_cons_of_mem _ hm, List.infix_refl d⟩⟩
    rcases List.mem_cons.mp hl with rfl | hl
    · exact absurd hdl hd.not_infix_autogenHeader
    · exact hd.eq_of_infix (hr l hl) hdl ▸ hl
  simp only [primaryFile, if_neg h0]
  by_cases hm : d ∈ rules
  · rw [if_pos hm, if_neg h0, ruleFileAfter, addUdevRule_present (by rw [hpat]; exact hinf.mpr hm)
      (by rw [hd.strip_eq, hlines]; exact List.mem_cons_of_mem _ hm), Option.none_or]
  · rw [if_neg hm, if_neg (List.append_ne_nil_of_right_ne_nil _ (List.cons_ne_nil _ _)),
      ruleFileAfter, addUdevRule_append (by rw [hpat]; exact mt hinf.mp hm), Option.or_some,
      hd.strip_eq, ← List.cons_append, writeLines_append]
    simp

theorem runPrimaryCalls_append (uni : UnicodeDb) (l₁ l₂ : List PrimaryCall) :
    ∀ file, runPrimaryCalls uni file (l₁ ++ l₂) = runPrimaryCalls uni (runPrimaryCalls uni file l₁) l₂ := by
  induction l₁ with
  | nil => exact fun _ => rfl
  | cons call l₁ ih => exact fun file => ih _

/-- An emitter call whose rule, if it writes one, keeps apart from the others: no vDPA block, and
values with no double quote and no line boundary. -/
def PlainCall : PrimaryCall → Prop
  | .sriovPf pfPci pfName => RuleValue pfPci ∧ RuleValue pfName
  | .vfRepresentors physSwitchId pfPci pfName =>
    RuleValue (strip physSwitchId) ∧ RuleValue pfPci ∧ RuleValue pfName
  | .unmanage => True
  | .vdpaRepresentors _ _ => False

instance (call : PrimaryCall) : Decidable (PlainCall call) :=
  match call with
  | .sriovPf pfPci pfName => inferInstanceAs (Decidable (RuleValue pfPci ∧ RuleValue pfName))
  | .vfRepresentors physSwitchId pfPci pfName => inferInstanceAs
    (Decidable (RuleValue (strip physSwitchId) ∧ RuleValue pfPci ∧ RuleValue pfName))
  | .unmanage => inferInstanceAs (Decidable True)
  | .vdpaRepresentors _ _ => inferInstanceAs (Decidable False)

theorem PlainCall.plainRule {uni : UnicodeDb} {call : PrimaryCall} (h : PlainCall call)
    {d : List Char} (hd : call.udevData uni = some d) : PlainRule d := by
  cases call with
  | sriovPf pfPci pfName => cases hd; exact .sriovPf h.1 h.2
  | vfRepresentors physSwitchId pfPci pfName =>
    obtain ⟨fn, hfn, rfl⟩ := Option.map_eq_some'.mp hd
    have hinf := infix_of_pfFuncSearch hfn
    exact .vfRepresentors h.1 ⟨fun hq => h.2.1.no_quote (hinf.subset hq),
      fun c hc => h.2.1.line c (hinf.subset hc)⟩ h.2.2
  | unmanage => cases hd; exact .unmanage
  | vdpaRepresentors => exact h.elim

/-- Without the vDPA emitter, and with values free of double quotes and line boundaries, the
primary rule file after any sequence of emitter calls from its absence is the header followed by
each rule written, once, in order of its first call. -/
theorem primary_rules_without_vdpa_ordered_set (uni : UnicodeDb) (calls : List PrimaryCall)
    (h : ∀ call ∈ calls, PlainCall call) :
    runPrimaryCalls uni none calls =
      primaryFile (firstCalls (calls.filterMap (PrimaryCall.udevData uni))) := by
  induction calls using List.reverseRecOn with
  | nil => rfl
  | append_singleton calls call ih =>
    have hplain : ∀ l ∈ calls.filterMap (PrimaryCall.udevData uni), PlainRule l := fun l hl => by
      obtain ⟨c, hc, hcl⟩ := List.mem_filterMap.mp hl
      exact (h c (List.mem_append_left _ hc)).plainRule hcl
    rw [runPrimaryCalls_append, ih fun c hc => h c (List.mem_append_left _ hc), List.filterMap_append]
    rcases hd : call.udevData uni with _ | d
    · simp [runPrimaryCalls, PrimaryCall.fileAfter, hd]
    · simp only [runPrimaryCalls, PrimaryCall.fileAfter, List.filterMap_cons, List.filterMap_nil, hd]
      rw [ruleFileAfter_primaryFile (fun l hl => hplain l (mem_firstCalls.mp hl))
          ((h call (List.mem_append_right _ (List.mem_singleton_self _))).plainRule hd),
        firstCalls_append_singleton]
      simp only [mem_firstCalls]

/-- Two PFs, the second listed twice, with the unmanage rule between them. -/
theorem primary_rules_two_pfs :
    (∀ call ∈ [.sriovPf "0000:01:00.0".toList "p1".toList, .unmanage,
      .sriovPf "0000:01:00.1".toList "p2".toList, .sriovPf "0000:01:00.1".toList "p2".toList],
      PlainCall call) ∧
    runPrimaryCalls asciiOnlyDb none [.sriovPf "0000:01:00.0".toList "p1".toList, .unmanage,
      .sriovPf "0000:01:00.1".toList "p2".toList, .sriovPf "0000:01:00.1".toList "p2".toList] =
      primaryFile [sriovPfRule "0000:01:00.0".toList "p1".toList, unmanageRule,
        sriovPfRule "0000:01:00.1".toList "p2".toList] :=
  ⟨by decide, primary_rules_without_vdpa_ordered_set asciiOnlyDb _ (by decide)⟩

end SriovConfig.PrimaryRules
