import SriovConfig.PyText

/-! `add_udev_rule`, the reconciler of the rule files, on the content of its file: the text a
call writes, and which of its four branches writes it. -/
set_option autoImplicit false

namespace SriovConfig.UdevRule
open PyText

/-- The first line of a rule file `add_udev_rule` creates. -/
def autogenHeader : List Char := "# This file is autogenerated by os-net-config".toList

/-- The pattern of a call: `pattern`, or the stripped data when `pattern` is `None` or empty
(the model writes `None` as `[]`, which `if not pattern` treats alike). -/
def rulePattern (udevData pattern : List Char) : List Char :=
  if pattern = [] then strip udevData else pattern

/-- `add_udev_rule(udev_data, udev_file, pattern)` on the content of `udev_file` (`none` while
it does not exist): the text the call writes, or `none` when it returns `False` without
writing. Every write is followed by `reload_udev_rules()` and `return True`. -/
def addUdevRule (udevData : List Char) (udevFile : Option (List Char)) (pattern : List Char) :
    Option (List Char) :=
  let udevData := strip udevData
  let pattern := if pattern = [] then udevData else pattern
  match udevFile with
  | none => some (autogenHeader ++ '\n' :: udevData ++ ['\n'])
  | some fileData =>
    let udevLines := splitlines fileData
    if pattern <:+: fileData then
      if udevData ∈ udevLines then none
      else some (writeLines (udevLines.map fun line => if pattern <:+: line then udevData else line))
    else some (fileData ++ udevData ++ ['\n'])

/-- The content of the file after the call. -/
def ruleFileAfter (udevData : List Char) (udevFile : Option (List Char)) (pattern : List Char) :
    Option (List Char) :=
  (addUdevRule udevData udevFile pattern).or udevFile

/-- The rewrite branch: every line holding the pattern becomes the data. -/
def replaceLines (pattern udevData : List Char) (lines : List (List Char)) : List (List Char) :=
  lines.map fun line => if pattern <:+: line then udevData else line

theorem addUdevRule_absent (udevData pattern : List Char) :
    addUdevRule udevData none pattern =
      some (autogenHeader ++ '\n' :: strip udevData ++ ['\n']) := rfl

theorem addUdevRule_append {udevData t pattern : List Char}
    (h : ¬ rulePattern udevData pattern <:+: t) :
    addUdevRule udevData (some t) pattern = some (t ++ strip udevData ++ ['\n']) := by
  simp only [rulePattern] at h
  simp [addUdevRule, h]

theorem addUdevRule_present {udevData t pattern : List Char}
    (hp : rulePattern udevData pattern <:+: t) (hd : strip udevData ∈ splitlines t) :
    addUdevRule udevData (some t) pattern = none := by
  simp only [rulePattern] at hp
  simp [addUdevRule, hp, hd]

theorem addUdevRule_rewrite {udevData t pattern : List Char}
    (hp : rulePattern udevData pattern <:+: t) (hd : strip udevData ∉ splitlines t) :
    addUdevRule udevData (some t) pattern =
      some (writeLines (replaceLines (rulePattern udevData pattern) (strip udevData)
        (splitlines t))) := by
  simp only [rulePattern] at hp ⊢
  simp [addUdevRule, hp, hd, replaceLines]

theorem rulePattern_ne_nil {udevData pattern : List Char} (h : strip udevData ≠ []) :
    rulePattern udevData pattern ≠ [] := by
  unfold rulePattern; split_ifs with hp <;> assumption

theorem mem_splitlinesFrom {l : List Char} :
    ∀ {t cur : List Char} {b : Bool}, l ∈ splitlinesFrom cur b t → IsLine cur →
      l <:+: cur ++ t ∧ IsLine l
  | [], cur, b, h, hc => by
    simp only [splitlinesFrom] at h
    split_ifs at h <;> simp_all
  | c :: t, cur, b, h, hc => by
    simp only [splitlinesFrom] at h
    split_ifs at h with h1 h2
    · obtain ⟨h, hl⟩ := mem_splitlinesFrom h IsLine.nil
      exact ⟨h.trans (by simpa using (List.suffix_append (cur ++ [c]) t).isInfix), hl⟩
    · rcases List.mem_cons.mp h with rfl | h
      · exact ⟨(List.prefix_append _ _).isInfix, hc⟩
      · obtain ⟨h, hl⟩ := mem_splitlinesFrom h IsLine.nil
        exact ⟨h.trans (by simpa using (List.suffix_append (cur ++ [c]) t).isInfix), hl⟩
    · obtain ⟨h, hl⟩ := mem_splitlinesFrom h (isLine_append.mpr ⟨hc, by simpa [IsLine] using h2⟩)
      exact ⟨by simpa using h, hl⟩

theorem infix_of_mem_splitlines {l t : List Char} (h : l ∈ splitlines t) : l <:+: t := by
  simpa using (mem_splitlinesFrom h IsLine.nil).1

theorem isLine_of_mem_splitlines {l t : List Char} (h : l ∈ splitlines t) : IsLine l :=
  (mem_splitlinesFrom h IsLine.nil).2

theorem isLine_autogenHeader : IsLine autogenHeader := .of_printable (by decide)

theorem filter_sublist_replaceLines (pattern udevData : List Char) (ls : List (List Char)) :
    (ls.filter fun l => ¬ pattern <:+: l).Sublist (replaceLines pattern udevData ls) := by
  induction ls with
  | nil => simp [replaceLines]
  | cons l ls ih =>
    by_cases h : pattern <:+: l
    · simpa [replaceLines, h] using ih.cons _
    · simpa [replaceLines, h] using ih.cons₂ l

theorem mem_replaceLines {pattern udevData l : List Char} {ls : List (List Char)}
    (h : l ∈ replaceLines pattern udevData ls) :
    (l = udevData ∧ ∃ m ∈ ls, pattern <:+: m) ∨ (l ∈ ls ∧ ¬ pattern <:+: l) := by
  simp only [replaceLines, List.mem_map] at h
  obtain ⟨m, hm, rfl⟩ := h
  by_cases hp : pattern <:+: m
  · exact .inl ⟨by simp [hp], m, hm, hp⟩
  · exact .inr ⟨by simpa [hp] using hm, by simp [hp]⟩

/-- A text that is empty or ends at a line boundary: appending to it starts a new line. -/
def EndsAtBoundary (t : List Char) : Prop := t = [] ∨ ∃ t' c, t = t' ++ [c] ∧ isLineBreak c = true

theorem splitlines_created {d : List Char} (hd : IsLine d) :
    splitlines (autogenHeader ++ '\n' :: d ++ ['\n']) = [autogenHeader, d] := by
  have h : ∀ l ∈ [autogenHeader, d], IsLine l := by simp [isLine_autogenHeader, hd]
  simpa using splitlines_writeLines h

theorem isLine_of_mem_replaceLines {pattern d t l : List Char} (hd : IsLine d)
    (hl : l ∈ replaceLines pattern d (splitlines t)) : IsLine l := by
  rcases mem_replaceLines hl with ⟨rfl, -⟩ | ⟨hl, -⟩
  · exact hd
  · exact isLine_of_mem_splitlines hl

theorem splitlines_rewritten (pattern d t : List Char) (hd : IsLine d) :
    splitlines (writeLines (replaceLines pattern d (splitlines t))) =
      replaceLines pattern d (splitlines t) :=
  splitlines_writeLines fun _ hl => isLine_of_mem_replaceLines hd hl

section Upsert
/- The properties below hold for the data every caller passes: one nonempty line after
`strip`, holding its own pattern. -/
variable {udevData pattern : List Char}

theorem isLine_rulePattern (hd : IsLine (strip udevData))
    (hpd : rulePattern udevData pattern <:+: strip udevData) :
    IsLine (rulePattern udevData pattern) :=
  fun c hc => hd c (hpd.subset hc)

theorem exists_line_rulePattern {t : List Char} (hd : IsLine (strip udevData))
    (hne : strip udevData ≠ []) (hpd : rulePattern udevData pattern <:+: strip udevData)
    (hp : rulePattern udevData pattern <:+: t) :
    ∃ l ∈ splitlines t, rulePattern udevData pattern <:+: l :=
  exists_line_of_infix_splitlines (isLine_rulePattern hd hpd) (rulePattern_ne_nil hne) hp

theorem mem_lines_ruleFileAfter {udevFile : Option (List Char)} (hd : IsLine (strip udevData))
    (hne : strip udevData ≠ []) (hpd : rulePattern udevData pattern <:+: strip udevData)
    (hend : ∀ t, udevFile = some t → EndsAtBoundary t) :
    ∃ t', ruleFileAfter udevData udevFile pattern = some t' ∧ strip udevData ∈ splitlines t' := by
  rcases udevFile with _ | t
  · exact ⟨_, by rw [ruleFileAfter, addUdevRule_absent, Option.or_some],
      by rw [splitlines_created hd]; simp⟩
  by_cases hp : rulePattern udevData pattern <:+: t
  · by_cases hdl : strip udevData ∈ splitlines t
    · exact ⟨t, by simp [ruleFileAfter, addUdevRule_present hp hdl], hdl⟩
    · refine ⟨_, by rw [ruleFileAfter, addUdevRule_rewrite hp hdl, Option.or_some], ?_⟩
      obtain ⟨l, hl, hpl⟩ := exists_line_rulePattern hd hne hpd hp
      rw [splitlines_rewritten _ _ _ hd, replaceLines, List.mem_map]
      exact ⟨l, hl, by simp [hpl]⟩
  · exact ⟨_, by rw [ruleFileAfter, addUdevRule_append hp, Option.or_some],
      by rw [splitlines_append_line (hend t rfl) hd hne]; simp⟩

theorem filter_sublist_ruleFileAfter {t t' : List Char} (hd : IsLine (strip udevData))
    (hne : strip udevData ≠ []) (hend : EndsAtBoundary t)
    (h : ruleFileAfter udevData (some t) pattern = some t') :
    ((splitlines t).filter fun l => ¬ rulePattern udevData pattern <:+: l).Sublist
      (splitlines t') := by
  by_cases hp : rulePattern udevData pattern <:+: t
  · by_cases hdl : strip udevData ∈ splitlines t
    · simp only [ruleFileAfter, addUdevRule_present hp hdl, Option.none_or,
        Option.some.injEq] at h
      exact h ▸ List.filter_sublist _
    · simp only [ruleFileAfter, addUdevRule_rewrite hp hdl, Option.or_some,
        Option.some.injEq] at h
      rw [← h, splitlines_rewritten _ _ _ hd]
      exact filter_sublist_replaceLines _ _ _
  · simp only [ruleFileAfter, addUdevRule_append hp, Option.or_some, Option.some.injEq] at h
    rw [← h, splitlines_append_line hend hd hne]
    exact (List.filter_sublist _).trans (List.sublist_append_left _ _)

theorem pattern_lines_of_write {udevFile : Option (List Char)} {t' l : List Char}
    (hd : IsLine (strip udevData)) (hne : strip udevData ≠ [])
    (hend : ∀ t, udevFile = some t → EndsAtBoundary t)
    (h : addUdevRule udevData udevFile pattern = some t') (hl : l ∈ splitlines t')
    (hpl : rulePattern udevData pattern <:+: l) :
    l = strip udevData ∨ (udevFile = none ∧ l = autogenHeader) := by
  rcases udevFile with _ | t
  · rw [addUdevRule_absent, Option.some.injEq] at h
    rw [← h, splitlines_created hd] at hl
    simp only [List.mem_cons, List.mem_singleton, List.not_mem_nil, or_false] at hl
    exact hl.elim (fun h => .inr ⟨rfl, h⟩) .inl
  by_cases hp : rulePattern udevData pattern <:+: t
  · by_cases hdl : strip udevData ∈ splitlines t
    · simp [addUdevRule_present hp hdl] at h
    · rw [addUdevRule_rewrite hp hdl, Option.some.injEq] at h
      rw [← h, splitlines_rewritten _ _ _ hd] at hl
      rcases mem_replaceLines hl with ⟨rfl, -⟩ | ⟨-, hl⟩
      · exact .inl rfl
      · exact absurd hpl hl
  · rw [addUdevRule_append hp, Option.some.injEq] at h
    rw [← h, splitlines_append_line (hend t rfl) hd hne, List.mem_append] at hl
    rcases hl with hl | hl
    · exact absurd (hpl.trans (infix_of_mem_splitlines hl)) hp
    · exact .inl (List.mem_singleton.mp hl)

theorem addUdevRule_isSome_iff {udevFile : Option (List Char)} (hd : IsLine (strip udevData))
    (hne : strip udevData ≠ []) (hpd : rulePattern udevData pattern <:+: strip udevData) :
    (addUdevRule udevData udevFile pattern).isSome ↔
      ruleFileAfter udevData udevFile pattern ≠ udevFile := by
  rcases udevFile with _ | t
  · simp [ruleFileAfter, addUdevRule_absent]
  by_cases hp : rulePattern udevData pattern <:+: t
  · by_cases hdl : strip udevData ∈ splitlines t
    · simp [ruleFileAfter, addUdevRule_present hp hdl]
    · simp only [ruleFileAfter, addUdevRule_rewrite hp hdl, Option.isSome_some, Option.or_some,
        ne_eq, Option.some.injEq, true_iff]
      intro heq
      obtain ⟨l, hl, hpl⟩ := exists_line_rulePattern hd hne hpd hp
      have hfix := congrArg splitlines heq
      rw [splitlines_rewritten _ _ _ hd] at hfix
      have hmem := List.mem_map_of_mem
        (fun m => if rulePattern udevData pattern <:+: m then strip udevData else m) hl
      rw [← replaceLines, hfix] at hmem
      exact hdl (by simpa [hpl] using hmem)
  · simp [ruleFileAfter, addUdevRule_append hp]

/-- What a call leaves in a file read as `before` before it and as `t'` after it, having
returned `b`. -/
structure Upserted (udevData pattern : List Char) (before : Option (List Char)) (t' : List Char)
    (b : Bool) : Prop where
  /-- the lines without the pattern are kept, unchanged and in order -/
  kept : ∀ t, before = some t →
    ((splitlines t).filter fun l => ¬ rulePattern udevData pattern <:+: l).Sublist (splitlines t')
  /-- the data is a line -/
  present : strip udevData ∈ splitlines t'
  /-- after a write, the data is the only line with the pattern, but for a new file's header -/
  only : b = true → ∀ l ∈ splitlines t', rulePattern udevData pattern <:+: l →
    l = strip udevData ∨ (before = none ∧ l = autogenHeader)
  /-- the call returns True exactly when the text changes -/
  changed : b = true ↔ some t' ≠ before

theorem ruleFileAfter_upserted {udevFile : Option (List Char)} (hd : IsLine (strip udevData))
    (hne : strip udevData ≠ []) (hpd : rulePattern udevData pattern <:+: strip udevData)
    (hend : ∀ t, udevFile = some t → EndsAtBoundary t) :
    ∃ t', ruleFileAfter udevData udevFile pattern = some t' ∧
      Upserted udevData pattern udevFile t' (addUdevRule udevData udevFile pattern).isSome := by
  obtain ⟨t', ht', hdl⟩ := mem_lines_ruleFileAfter hd hne hpd hend
  refine ⟨t', ht', ⟨fun t ht => filter_sublist_ruleFileAfter hd hne (hend t ht) (ht ▸ ht'), hdl,
    fun hb l hl hpl => ?_, ?_⟩⟩
  · obtain ⟨t'', h''⟩ := Option.isSome_iff_exists.mp hb
    obtain rfl : t'' = t' := by simpa [ruleFileAfter, h''] using ht'
    exact pattern_lines_of_write hd hne hend h'' hl hpl
  · rw [← ht']
    exact addUdevRule_isSome_iff hd hne hpd

end Upsert

end SriovConfig.UdevRule
