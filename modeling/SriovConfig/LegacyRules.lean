import SriovConfig.Rules
import Mathlib.Data.List.Nodup

/-! `add_udev_rule_for_legacy_sriov_pf` over any sequence of calls: the legacy rule file is an
insertion-ordered map from PF name to VF count, and each call reports whether the map changed.
What makes the substring matching safe is that a PF's pattern, cut at its double quotes, can
only sit at the start of that PF's own line. -/
set_option autoImplicit false

namespace SriovConfig.LegacyRules
open PyText PyRe UdevRule Rules

/-- A PF name the legacy rules keep apart: no double quote and no line boundary. -/
structure PfName (name : List Char) : Prop where
  no_quote : '"' ∉ name
  line : IsLine name

instance (name : List Char) : Decidable (PfName name) :=
  decidable_of_iff ('"' ∉ name ∧ IsLine name) ⟨fun h => ⟨h.1, h.2⟩, fun h => ⟨h.1, h.2⟩⟩

/-- Set the VF count of `name`: in place when it has an entry, as a new last entry otherwise. -/
def pfMapSet (m : List (List Char × Int)) (name : List Char) (numvfs : Int) :
    List (List Char × Int) :=
  if name ∈ m.map Prod.fst then m.map fun e => if e.1 = name then (name, numvfs) else e
  else m ++ [(name, numvfs)]

/-- The lines of the file that holds the map: the header, then one rule per entry. -/
def legacyLines (m : List (List Char × Int)) : List (List Char) :=
  autogenHeader :: m.map fun e => legacyRule e.1 e.2

/-- The legacy rule file that holds the map: absent before the first call. -/
def legacyFile (m : List (List Char × Int)) : Option (List Char) :=
  if m = [] then none else some (writeLines (legacyLines m))

/-- `add_udev_rule_for_legacy_sriov_pf(pf_name, numvfs)` on `_UDEV_LEGACY_RULE_FILE`: the file
after the call and the call's return value. -/
def legacyCall (file : Option (List Char)) (pfName : List Char) (numvfs : Int) :
    Option (List Char) × Bool :=
  (ruleFileAfter (legacyRule pfName numvfs) file (legacyPattern pfName),
    (addUdevRule (legacyRule pfName numvfs) file (legacyPattern pfName)).isSome)

/-- The file and the return values over a sequence of calls. -/
def legacyRun : Option (List Char) → List (List Char × Int) → Option (List Char) × List Bool
  | file, [] => (file, [])
  | file, (pfName, numvfs) :: calls =>
    let r := legacyRun (legacyCall file pfName numvfs).1 calls
    (r.1, (legacyCall file pfName numvfs).2 :: r.2)

/-- The map over a sequence of calls, and whether each call changed it. -/
def pfMapRun : List (List Char × Int) → List (List Char × Int) → List (List Char × Int) × List Bool
  | m, [] => (m, [])
  | m, (pfName, numvfs) :: calls =>
    let r := pfMapRun (pfMapSet m pfName numvfs) calls
    (r.1, decide (pfMapSet m pfName numvfs ≠ m) :: r.2)

/-! ### The legacy lines, cut at their double quotes -/

def kernelKey : List Char := "KERNEL==".toList

def runKey : List Char := ", RUN+=".toList

def runCommand : List Char := "/bin/os-net-config-sriov -n".toList

theorem legacyRule_eq (pfName : List Char) (numvfs : Int) :
    legacyRule pfName numvfs = kernelKey ++ '"' :: (pfName ++ '"' :: (runKey ++ '"' ::
      (runCommand ++ " %k:".toList ++ pyStr numvfs ++ ['"']))) := by
  simp [legacyRule, kernelKey, runKey, runCommand]

theorem legacyPattern_eq (pfName : List Char) :
    legacyPattern pfName = kernelKey ++ '"' :: (pfName ++ '"' :: (runKey ++ '"' :: runCommand)) := by
  simp [legacyPattern, kernelKey, runKey, runCommand]

theorem quote_not_mem_pyStr (n : Int) : '"' ∉ pyStr n := fun h => by
  rcases mem_pyStr h with h | h
  · exact absurd h (by decide)
  · exact absurd h (by decide)

theorem legacyPattern_infix_legacyRule {a b : List Char} (ha : '"' ∉ a) (hb : '"' ∉ b) (n : Int) :
    legacyPattern a <:+: legacyRule b n ↔ a = b := by
  refine ⟨fun ⟨s, t, h⟩ => ?_, ?_⟩
  · have hK : '"' ∉ kernelKey := by decide
    have hR : '"' ∉ runKey := by decide
    have hT : '"' ∉ runCommand ++ " %k:".toList ++ pyStr n := by
      simp only [List.mem_append, not_or]; exact ⟨⟨by decide, by decide⟩, quote_not_mem_pyStr n⟩
    rw [legacyPattern_eq, legacyRule_eq] at h
    simp only [List.append_assoc, List.cons_append] at h
    rcases append_eq_append_cons hK hK h with ⟨h₁, h₂⟩ | ⟨s₁, rfl, h₂⟩
    · exact (append_cons_cancel_of_not_mem ha hb h₂).1
    · rcases append_eq_append_cons hK hb h₂ with ⟨-, h₄⟩ | ⟨s₂, rfl, h₄⟩
      · obtain ⟨-, h₅⟩ := append_cons_cancel_of_not_mem ha hR h₄
        exact absurd (congrArg List.head? h₅) (by simp [runKey, runCommand])
      · rcases append_eq_append_cons hK hR h₄ with ⟨h₅, -⟩ | ⟨s₃, rfl, h₅⟩
        · exact absurd (congrArg List.length h₅) (by simp [kernelKey, runKey])
        · rcases append_eq_append_cons hK hT (by simpa only [List.append_assoc] using h₅) with
            ⟨-, h₆⟩ | ⟨s₄, rfl, h₆⟩
          · exact absurd h₆ (by simp)
          · exact absurd (congrArg List.length h₆) (by simp)
  · rintro rfl
    refine ⟨[], " %k:".toList ++ pyStr n ++ ['"'], ?_⟩
    rw [legacyPattern_eq, legacyRule_eq]
    simp

theorem legacyPattern_not_infix_header (a : List Char) : ¬ legacyPattern a <:+: autogenHeader :=
  fun h => absurd ((List.prefix_append kernelKey _).isInfix.trans (legacyPattern_eq a ▸ h))
    (by decide)

theorem legacyRule_inj {a b : List Char} (ha : '"' ∉ a) (hb : '"' ∉ b) {x y : Int} :
    legacyRule a x = legacyRule b y ↔ a = b ∧ x = y := by
  refine ⟨fun h => ?_, by rintro ⟨rfl, rfl⟩; rfl⟩
  simp only [legacyRule_eq, List.append_cancel_left_eq, List.cons.injEq, true_and] at h
  obtain ⟨rfl, h⟩ := append_cons_cancel_of_not_mem ha hb h
  simp only [List.cons.injEq, List.append_assoc, List.append_cancel_left_eq, true_and,
    List.append_cancel_right_eq] at h
  exact ⟨rfl, pyStr_inj h⟩

theorem legacyRule_ne_header (a : List Char) (n : Int) : legacyRule a n ≠ autogenHeader := by
  intro h
  have := congrArg List.head? h
  simp [legacyRule, autogenHeader] at this

theorem isLine_legacyRule {a : List Char} (ha : IsLine a) (n : Int) : IsLine (legacyRule a n) := by
  have hs : IsLine (pyStr n) := fun c hc => by
    rcases mem_pyStr hc with rfl | h
    · rfl
    · exact isLineBreak_of_isAsciiDigit h
  have hq : isLineBreak '"' = false := rfl
  rw [legacyRule_eq]
  simp only [isLine_append, isLine_cons, hq, ha, hs, IsLine.nil, true_and, and_true]
  decide

theorem strip_legacyRule (a : List Char) (n : Int) : strip (legacyRule a n) = legacyRule a n := by
  have h : legacyRule a n = 'K' :: ("ERNEL==\"".toList ++ a ++
      "\", RUN+=\"/bin/os-net-config-sriov -n %k:".toList ++ pyStr n ++ ['"']) := by
    simp [legacyRule]
  rw [h]
  exact strip_of_ends (c := 'K') (d := '"') (by decide) (by decide) _

theorem legacyPattern_ne_nil (a : List Char) : legacyPattern a ≠ [] := by
  simp [legacyPattern]

theorem newline_not_mem_legacyPattern {a : List Char} (ha : IsLine a) : '\n' ∉ legacyPattern a := by
  intro h
  rw [legacyPattern_eq] at h
  simp only [List.mem_append, List.mem_cons] at h
  rcases h with h | h | h | h | h | h | h
  all_goals first | exact absurd h (by decide) | exact absurd (ha _ h) (by simp)

/-! ### The map the file holds -/

/-- Names the legacy rules keep apart, each at most once. -/
structure PfMap (m : List (List Char × Int)) : Prop where
  names : ∀ e ∈ m, PfName e.1
  nodup : (m.map Prod.fst).Nodup

theorem PfMap.set {m : List (List Char × Int)} (hm : PfMap m) {name : List Char}
    (hn : PfName name) (n : Int) : PfMap (pfMapSet m name n) := by
  unfold pfMapSet
  split_ifs with h
  · refine ⟨fun e he => ?_, ?_⟩
    · obtain ⟨e', he', rfl⟩ := List.mem_map.mp he
      split_ifs
      · exact hn
      · exact hm.names e' he'
    · rw [List.map_map]
      convert hm.nodup using 1
      exact List.map_congr_left fun e _ => by simp only [Function.comp]; split_ifs with he <;> simp [he]
  · refine ⟨fun e he => ?_, ?_⟩
    · rcases List.mem_append.mp he with he | he
      · exact hm.names e he
      · simp only [List.mem_singleton] at he; exact he ▸ hn
    · rw [List.map_append, List.nodup_append]
      exact ⟨hm.nodup, List.nodup_singleton _, by simpa using h⟩

theorem mem_pfMapSet (m : List (List Char × Int)) (name : List Char) (n : Int) :
    (name, n) ∈ pfMapSet m name n := by
  unfold pfMapSet
  split_ifs with h
  · obtain ⟨e, he, rfl⟩ := List.mem_map.mp h
    exact List.mem_map.mpr ⟨e, he, by simp⟩
  · simp

theorem pfMapSet_eq_self_iff {m : List (List Char × Int)} (hm : PfMap m) {name : List Char}
    {n : Int} : pfMapSet m name n = m ↔ (name, n) ∈ m := by
  refine ⟨fun h => h ▸ mem_pfMapSet m name n, fun h => ?_⟩
  have hk : name ∈ m.map Prod.fst := List.mem_map_of_mem Prod.fst h
  simp only [pfMapSet, hk, if_true]
  conv_rhs => rw [← List.map_id m]
  refine List.map_congr_left fun e he => ?_
  split_ifs with he'
  · rw [List.inj_on_of_nodup_map hm.nodup he h he']; rfl
  · rfl

theorem pfMapSet_ne_nil (m : List (List Char × Int)) (name : List Char) (n : Int) :
    pfMapSet m name n ≠ [] :=
  List.ne_nil_of_mem (mem_pfMapSet m name n)

theorem legacyFile_of_ne_nil {m : List (List Char × Int)} (h : m ≠ []) :
    legacyFile m = some (writeLines (legacyLines m)) :=
  if_neg h

/-! ### One call on the file that holds a map -/

section Step
variable {m : List (List Char × Int)} {name : List Char}

theorem isLine_legacyLines (hm : PfMap m) : ∀ l ∈ legacyLines m, IsLine l := by
  simp only [legacyLines, List.mem_cons, List.mem_map]
  rintro l (rfl | ⟨e, he, rfl⟩)
  · exact isLine_autogenHeader
  · exact isLine_legacyRule (hm.names e he).line _

theorem legacyPattern_infix_legacyText (hm : PfMap m) (hn : PfName name) :
    legacyPattern name <:+: writeLines (legacyLines m) ↔ name ∈ m.map Prod.fst := by
  rw [infix_writeLines_iff (newline_not_mem_legacyPattern hn.line) (legacyPattern_ne_nil name)]
  simp only [legacyLines, List.mem_cons, exists_eq_or_imp, legacyPattern_not_infix_header,
    false_or, List.mem_map, exists_exists_and_eq_and]
  refine exists_congr fun e => and_congr_right fun he => ?_
  rw [legacyPattern_infix_legacyRule hn.no_quote (hm.names e he).no_quote, eq_comm]

theorem legacyRule_mem_legacyLines (hm : PfMap m) (hn : PfName name) (n : Int) :
    legacyRule name n ∈ legacyLines m ↔ (name, n) ∈ m := by
  simp only [legacyLines, List.mem_cons, legacyRule_ne_header, false_or, List.mem_map]
  refine ⟨fun ⟨⟨a, k⟩, he, h⟩ => ?_, fun h => ⟨_, h, rfl⟩⟩
  obtain ⟨rfl, rfl⟩ := (legacyRule_inj (hm.names _ he).no_quote hn.no_quote).mp h
  exact he

theorem replaceLines_legacyLines (hm : PfMap m) (hn : PfName name) (n : Int) :
    replaceLines (legacyPattern name) (legacyRule name n) (legacyLines m) =
      legacyLines (m.map fun e => if e.1 = name then (name, n) else e) := by
  simp only [replaceLines, legacyLines, List.map_cons, List.map_map,
    if_neg (legacyPattern_not_infix_header name)]
  refine congrArg _ (List.map_congr_left fun e he => ?_)
  simp only [Function.comp, legacyPattern_infix_legacyRule hn.no_quote (hm.names e he).no_quote]
  by_cases h : e.1 = name
  · simp [h]
  · simp [h, Ne.symm h]

theorem legacyCall_legacyFile (hm : PfMap m) (hn : PfName name) (n : Int) :
    legacyCall (legacyFile m) name n =
      (legacyFile (pfMapSet m name n), decide (pfMapSet m name n ≠ m)) := by
  rw [legacyFile_of_ne_nil (pfMapSet_ne_nil m name n)]
  rcases eq_or_ne m [] with rfl | hne
  · simp [legacyCall, legacyFile, ruleFileAfter, addUdevRule_absent, pfMapSet, legacyLines,
      strip_legacyRule]
  have hp : rulePattern (legacyRule name n) (legacyPattern name) = legacyPattern name :=
    if_neg (legacyPattern_ne_nil name)
  have hlines := splitlines_writeLines (isLine_legacyLines hm)
  rw [legacyFile_of_ne_nil hne]
  by_cases hk : name ∈ m.map Prod.fst
  · have hpt := hp ▸ (legacyPattern_infix_legacyText hm hn).mpr hk
    by_cases hv : (name, n) ∈ m
    · have hd : strip (legacyRule name n) ∈ splitlines (writeLines (legacyLines m)) := by
        rw [strip_legacyRule, hlines]; exact (legacyRule_mem_legacyLines hm hn n).mpr hv
      simp [legacyCall, ruleFileAfter, addUdevRule_present hpt hd, (pfMapSet_eq_self_iff hm).mpr hv]
    · have hd : strip (legacyRule name n) ∉ splitlines (writeLines (legacyLines m)) := by
        rw [strip_legacyRule, hlines]; exact mt (legacyRule_mem_legacyLines hm hn n).mp hv
      simp only [legacyCall, ruleFileAfter, addUdevRule_rewrite hpt hd, Option.or_some,
        Option.isSome_some, hp, strip_legacyRule, hlines, replaceLines_legacyLines hm hn,
        pfMapSet, if_pos hk]
      simpa [pfMapSet, hk] using mt (pfMapSet_eq_self_iff hm).mp hv
  · have hpt : ¬ rulePattern (legacyRule name n) (legacyPattern name) <:+:
        writeLines (legacyLines m) := hp ▸ mt (legacyPattern_infix_legacyText hm hn).mp hk
    simp only [legacyCall, ruleFileAfter, addUdevRule_append hpt, Option.or_some,
      Option.isSome_some, pfMapSet, if_neg hk]
    simp [legacyLines, writeLines_append, strip_legacyRule]

end Step

/-! ### A whole run -/

theorem PfMap.nil : PfMap [] := ⟨by simp, by simp⟩

/-- Over any run the file holds the map `pfMapRun` builds, and the calls return its flags. -/
theorem legacyRun_legacyFile {calls : List (List Char × Int)} (h : ∀ c ∈ calls, PfName c.1) :
    ∀ {m}, PfMap m →
      legacyRun (legacyFile m) calls = (legacyFile (pfMapRun m calls).1, (pfMapRun m calls).2) := by
  induction calls with
  | nil => intro m _; rfl
  | cons c calls ih =>
    intro m hm
    obtain ⟨name, n⟩ := c
    have hn : PfName name := h _ (List.mem_cons_self _ _)
    simp only [legacyRun, pfMapRun, legacyCall_legacyFile hm hn,
      ih (fun c hc => h c (List.mem_cons_of_mem _ hc)) (hm.set hn n)]

theorem pfMapRun_eq (calls : List (List Char × Int)) : ∀ m, pfMapRun m calls =
    (calls.foldl (fun m c => pfMapSet m c.1 c.2) m,
      (List.range calls.length).map fun i =>
        decide ((calls.take (i + 1)).foldl (fun m c => pfMapSet m c.1 c.2) m ≠
          (calls.take i).foldl (fun m c => pfMapSet m c.1 c.2) m)) := by
  induction calls with
  | nil => intro m; rfl
  | cons c calls ih =>
    intro m
    obtain ⟨name, n⟩ := c
    simp [pfMapRun, ih, List.range_succ_eq_map]

/-! ### The map a run builds, from the calls alone -/

/-- The distinct names of a list, in order of first occurrence. -/
def firstCalls : List (List Char) → List (List Char)
  | [] => []
  | a :: as => a :: (firstCalls as).filter (· ≠ a)

/-- The insertion-ordered map of the calls: each name called, in order of its first call, with
the VF count of its latest call. -/
def legacyMap (calls : List (List Char × Int)) : List (List Char × Int) :=
  (firstCalls (calls.map Prod.fst)).map fun a => (a, (calls.reverse.lookup a).getD 0)

theorem mem_firstCalls {a : List Char} : ∀ {l : List (List Char)}, a ∈ firstCalls l ↔ a ∈ l
  | [] => Iff.rfl
  | x :: xs => by
    by_cases h : a = x <;> simp [firstCalls, mem_firstCalls, h]

theorem firstCalls_append_singleton (a : List Char) : ∀ l : List (List Char),
    firstCalls (l ++ [a]) = if a ∈ l then firstCalls l else firstCalls l ++ [a]
  | [] => rfl
  | x :: xs => by
    rw [List.cons_append, firstCalls, firstCalls_append_singleton a xs]
    by_cases ha : a ∈ xs
    · simp [ha, firstCalls]
    · by_cases hx : a = x
      · subst hx; simp [ha, firstCalls]
      · simp [ha, hx, firstCalls]

theorem legacyMap_append_singleton (calls : List (List Char × Int)) (name : List Char) (n : Int) :
    legacyMap (calls ++ [(name, n)]) = pfMapSet (legacyMap calls) name n := by
  have hkeys : (legacyMap calls).map Prod.fst = firstCalls (calls.map Prod.fst) := by
    simp [legacyMap, Function.comp_def]
  have hlook : ∀ a, ((calls ++ [(name, n)]).reverse.lookup a).getD 0 =
      if a = name then n else (calls.reverse.lookup a).getD 0 := fun a => by
    by_cases h : a = name
    · simp [h]
    · simp [List.lookup_cons, h, beq_false_of_ne h]
  unfold pfMapSet
  simp only [hkeys, mem_firstCalls]
  conv_lhs => rw [legacyMap, List.map_append, List.map_singleton, firstCalls_append_singleton]
  split_ifs with hk
  · simp only [legacyMap, List.map_map, hlook]
    refine List.map_congr_left fun a _ => ?_
    by_cases h : a = name <;> simp [h]
  · have hne : ∀ a ∈ firstCalls (calls.map Prod.fst), a ≠ name :=
      fun a ha h => hk (h ▸ mem_firstCalls.mp ha)
    simp only [legacyMap, List.map_append, hlook, List.map_singleton, if_pos rfl]
    exact congrArg (· ++ _) (List.map_congr_left fun a ha => by simp [hne a ha])

theorem foldl_pfMapSet_nil (calls : List (List Char × Int)) :
    calls.foldl (fun m c => pfMapSet m c.1 c.2) [] = legacyMap calls := by
  induction calls using List.reverseRecOn with
  | nil => rfl
  | append_singleton calls c ih =>
    rw [List.foldl_append, ih]
    exact (legacyMap_append_singleton calls c.1 c.2).symm

theorem legacy_rules_insertion_ordered_map (calls : List (List Char × Int))
    (h : ∀ c ∈ calls, PfName c.1) :
    legacyRun none calls = (legacyFile (legacyMap calls),
      (List.range calls.length).map fun i =>
        decide (legacyMap (calls.take (i + 1)) ≠ legacyMap (calls.take i))) := by
  rw [show (none : Option (List Char)) = legacyFile [] from rfl, legacyRun_legacyFile h PfMap.nil,
    pfMapRun_eq]
  simp only [foldl_pfMapSet_nil]

/-- `p1` is a prefix of `p10`, and `p1` is called twice. -/
def prefixCalls : List (List Char × Int) :=
  [("p1".toList, 4), ("p10".toList, 2), ("p1".toList, 8)]

theorem legacy_rules_prefix_names : (∀ c ∈ prefixCalls, PfName c.1) ∧
    legacyRun none prefixCalls = (legacyFile (legacyMap prefixCalls),
      (List.range prefixCalls.length).map fun i =>
        decide (legacyMap (prefixCalls.take (i + 1)) ≠ legacyMap (prefixCalls.take i))) :=
  ⟨by decide, legacy_rules_insertion_ordered_map prefixCalls (by decide)⟩

example : legacyMap prefixCalls = [("p1".toList, 8), ("p10".toList, 2)] := by decide

end SriovConfig.LegacyRules
