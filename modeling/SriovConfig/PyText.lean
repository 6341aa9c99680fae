import Mathlib.Data.List.Infix
import Mathlib.Data.List.DropRight

/-! Python's `str` operations the rule files go through, over `List Char`: `strip`,
`splitlines`, the substring test `in`, and the loop that writes lines back. -/
set_option autoImplicit false

namespace SriovConfig.PyText

/-- The boundaries `str.splitlines` splits at; `\r\n` is one boundary. -/
def isLineBreak (c : Char) : Bool :=
  c = '\n' || c = '\r' || c = '\x0b' || c = '\x0c' || c = '\x1c' || c = '\x1d' ||
    c = '\x1e' || c = '\x85' || c = '\u2028' || c = '\u2029'

/-- `str.isspace` on one character, the set `str.strip()` removes. -/
def isSpace (c : Char) : Bool :=
  ('\t' ≤ c && c ≤ '\r') || ('\x1c' ≤ c && c ≤ ' ') || c = '\x85' || c = '\xa0' ||
    c = '\u1680' || ('\u2000' ≤ c && c ≤ '\u200a') || c = '\u2028' || c = '\u2029' ||
    c = '\u202f' || c = '\u205f' || c = '\u3000'

/-- `str.strip()`. -/
def strip (s : List Char) : List Char := (s.dropWhile isSpace).rdropWhile isSpace

/-- `str.splitlines()` from the middle of a line: `cur` is the line read so far and
`afterCR` says the last character was a `\r`, so that a `\n` now closes nothing. -/
def splitlinesFrom (cur : List Char) (afterCR : Bool) : List Char → List (List Char)
  | [] => if cur = [] then [] else [cur]
  | c :: rest =>
    if afterCR && c = '\n' then splitlinesFrom [] false rest
    else if isLineBreak c then cur :: splitlinesFrom [] (c = '\r') rest
    else splitlinesFrom (cur ++ [c]) false rest

def splitlines (s : List Char) : List (List Char) := splitlinesFrom [] false s

/-- The text `for line in lines: f.write(line + "\n")` leaves in a file. -/
def writeLines (lines : List (List Char)) : List Char := lines.flatMap (· ++ ['\n'])

/-- A line in the sense of `splitlines`: no boundary inside. -/
def IsLine (l : List Char) : Prop := ∀ c ∈ l, isLineBreak c = false

instance (l : List Char) : Decidable (IsLine l) :=
  inferInstanceAs (Decidable (∀ c ∈ l, isLineBreak c = false))

@[simp] theorem isLineBreak_newline : isLineBreak '\n' = true := rfl

@[simp] theorem isLineBreak_cr : isLineBreak '\r' = true := rfl

theorem strip_of_ends {c d : Char} (hc : isSpace c = false) (hd : isSpace d = false)
    (s : List Char) : strip (c :: (s ++ [d])) = c :: (s ++ [d]) := by
  rw [strip, List.dropWhile_cons_of_neg (by simp [hc]), ← List.cons_append,
    List.rdropWhile_concat_neg _ _ _ (by simp [hd])]

theorem strip_of_forall {s : List Char} (h : ∀ c ∈ s, isSpace c = false) : strip s = s := by
  rw [strip, List.dropWhile_eq_self_iff.mpr fun hl => by simp [h _ (List.getElem_mem hl)],
    List.rdropWhile_eq_self_iff.mpr fun hl => by simp [h _ (List.getLast_mem hl)]]

@[simp] theorem writeLines_nil : writeLines [] = [] := rfl

@[simp] theorem writeLines_cons (l : List Char) (ls : List (List Char)) :
    writeLines (l :: ls) = l ++ '\n' :: writeLines ls := by
  simp [writeLines]

theorem writeLines_append (ls ms : List (List Char)) :
    writeLines (ls ++ ms) = writeLines ls ++ writeLines ms := by
  simp [writeLines]

@[simp] theorem IsLine.nil : IsLine [] := by simp [IsLine]

theorem isLine_append {a b : List Char} : IsLine (a ++ b) ↔ IsLine a ∧ IsLine b := by
  simp only [IsLine, List.mem_append]
  exact ⟨fun h => ⟨fun c hc => h c (.inl hc), fun c hc => h c (.inr hc)⟩,
    fun h c hc => hc.elim (h.1 c) (h.2 c)⟩

theorem isLine_cons {c : Char} {l : List Char} :
    IsLine (c :: l) ↔ isLineBreak c = false ∧ IsLine l := by
  simp [IsLine]

theorem isLineBreak_of_printable {c : Char} (h1 : ' ' ≤ c) (h2 : c ≤ '~') : isLineBreak c = false := by
  have h1 : 32 ≤ c.toNat := h1
  have h2 : c.toNat ≤ 126 := h2
  simp only [isLineBreak, Bool.or_eq_false_iff, decide_eq_false_iff_not, and_assoc]
  refine ⟨?_, ?_, ?_, ?_, ?_, ?_, ?_, ?_, ?_, ?_⟩ <;> rintro rfl <;> revert h1 h2 <;> decide

theorem IsLine.of_printable {l : List Char} (h : ∀ c ∈ l, ' ' ≤ c ∧ c ≤ '~') : IsLine l :=
  fun c hc => isLineBreak_of_printable (h c hc).1 (h c hc).2

theorem splitlinesFrom_append_of_isLine {l : List Char} (hl : IsLine l) (cur r : List Char) :
    splitlinesFrom cur false (l ++ r) = splitlinesFrom (cur ++ l) false r := by
  induction l generalizing cur with
  | nil => simp
  | cons c l ih =>
    obtain ⟨hc, hl⟩ := isLine_cons.mp hl
    have hn : c ≠ '\n' := by rintro rfl; exact absurd hc (by decide)
    simp [splitlinesFrom, hc, ih hl]

theorem splitlinesFrom_append_break {c : Char} (hc : isLineBreak c = true)
    (t r cur : List Char) (b : Bool) :
    splitlinesFrom cur b (t ++ c :: r) =
      splitlinesFrom cur b (t ++ [c]) ++ splitlinesFrom [] (c = '\r') r := by
  induction t generalizing cur b with
  | nil =>
    by_cases h : b && c = '\n'
    · have hcr : (decide (c = '\r')) = false := by
        simp only [Bool.and_eq_true, decide_eq_true_eq] at h; simp [h.2]
      simp [splitlinesFrom, h, hcr]
    · simp [splitlinesFrom, h, hc]
  | cons x t ih =>
    simp only [List.cons_append, splitlinesFrom]
    split_ifs <;> simp [ih]

theorem splitlines_writeLines {ls : List (List Char)} (h : ∀ l ∈ ls, IsLine l) :
    splitlines (writeLines ls) = ls := by
  induction ls with
  | nil => rfl
  | cons l ls ih =>
    have hl := h l (by simp)
    have hls := ih fun m hm => h m (by simp [hm])
    simp only [splitlines] at hls ⊢
    rw [writeLines_cons, splitlinesFrom_append_of_isLine hl]
    simp [splitlinesFrom, hls]

theorem splitlines_append_line {t d : List Char} (ht : t = [] ∨ ∃ t' c, t = t' ++ [c] ∧
    isLineBreak c = true) (hd : IsLine d) (hne : d ≠ []) :
    splitlines (t ++ d ++ ['\n']) = splitlines t ++ [d] := by
  have hfresh : ∀ b, splitlinesFrom [] b (d ++ ['\n']) = [d] := by
    obtain ⟨x, d', rfl⟩ := List.exists_cons_of_ne_nil hne
    obtain ⟨hx, hd'⟩ := isLine_cons.mp hd
    have hn : x ≠ '\n' := by rintro rfl; exact absurd hx (by decide)
    intro b
    simp [splitlinesFrom, hx, hn, splitlinesFrom_append_of_isLine hd']
  rcases ht with rfl | ⟨t', c, rfl, hc⟩
  · simpa [splitlines] using hfresh false
  · rw [List.append_assoc, List.append_assoc, List.singleton_append, splitlines,
      splitlinesFrom_append_break hc, hfresh, splitlines]

theorem append_cons_cancel_of_not_mem {c : Char} :
    ∀ {x y X Y : List Char}, c ∉ x → c ∉ y → x ++ c :: X = y ++ c :: Y → x = y ∧ X = Y
  | [], [], _, _, _, _, h => ⟨rfl, List.cons.inj h |>.2⟩
  | [], d :: y, _, _, _, hy, h => absurd (List.mem_cons_self d y) ((List.cons.inj h).1 ▸ hy)
  | d :: x, [], _, _, hx, _, h => absurd (List.mem_cons_self d x) ((List.cons.inj h).1 ▸ hx)
  | d :: x, e :: y, _, _, hx, hy, h => by
    simp only [List.cons_append, List.cons.injEq] at h
    obtain ⟨rfl, htail⟩ := h
    obtain ⟨rfl, rfl⟩ := append_cons_cancel_of_not_mem (fun hm => hx (List.mem_cons_of_mem d hm))
      (fun hm => hy (List.mem_cons_of_mem d hm)) htail
    exact ⟨rfl, rfl⟩

theorem append_eq_append_cons {c : Char} {k w : List Char} (hk : c ∉ k) :
    ∀ {s x y : List Char}, c ∉ x → s ++ (k ++ c :: w) = x ++ c :: y →
      (s ++ k = x ∧ w = y) ∨ ∃ s', s = x ++ c :: s' ∧ s' ++ (k ++ c :: w) = y
  | [], x, y, hx, h => .inl (append_cons_cancel_of_not_mem hk hx (by simpa using h))
  | d :: s, [], y, _, h => by
    simp only [List.cons_append, List.nil_append, List.cons.injEq] at h
    exact .inr ⟨s, by rw [h.1]; rfl, h.2⟩
  | d :: s, e :: x, y, hx, h => by
    simp only [List.cons_append, List.cons.injEq] at h
    obtain ⟨rfl, h⟩ := h
    rcases append_eq_append_cons hk (fun hm => hx (List.mem_cons_of_mem _ hm)) h with
      ⟨h₁, h₂⟩ | ⟨s', rfl, h₂⟩
    · exact .inl ⟨by rw [List.cons_append, h₁], h₂⟩
    · exact .inr ⟨s', rfl, h₂⟩

theorem prefix_append_cons_of_not_mem {c : Char} {p : List Char} (hc : c ∉ p) :
    ∀ {a b : List Char}, p <+: a ++ c :: b → p <+: a
  | [], b, h => by
    rcases List.prefix_cons_iff.mp h with rfl | ⟨t, rfl, -⟩
    · exact List.nil_prefix
    · exact absurd (List.mem_cons_self c t) hc
  | x :: a, b, h => by
    rcases List.prefix_cons_iff.mp h with rfl | ⟨t, rfl, ht⟩
    · exact List.nil_prefix
    · exact List.cons_prefix_cons.mpr
        ⟨rfl, prefix_append_cons_of_not_mem (fun h => hc (List.mem_cons_of_mem x h)) ht⟩

theorem infix_append_cons_iff {c : Char} {p : List Char} (hc : c ∉ p) {a b : List Char} :
    p <:+: a ++ c :: b ↔ p <:+: a ∨ p <:+: b := by
  refine ⟨fun h => ?_, ?_⟩
  · induction a with
    | nil =>
      refine (List.infix_cons_iff.mp h).imp (fun h => ?_) id
      rw [List.prefix_nil.mp (prefix_append_cons_of_not_mem hc (a := []) h)]
    | cons x a ih =>
      rcases List.infix_cons_iff.mp h with h | h
      · exact .inl (prefix_append_cons_of_not_mem hc (a := x :: a) h).isInfix
      · exact (ih h).imp_left List.infix_cons
  · rintro (h | h)
    · exact h.trans (List.prefix_append a _).isInfix
    · exact h.trans ((List.suffix_cons c b).trans (List.suffix_append a _)).isInfix

theorem infix_writeLines_iff {p : List Char} (hp : '\n' ∉ p) (hne : p ≠ [])
    (ls : List (List Char)) : p <:+: writeLines ls ↔ ∃ l ∈ ls, p <:+: l := by
  induction ls with
  | nil => simpa using hne
  | cons l ls ih => simp [infix_append_cons_iff hp, ih]

theorem exists_line_of_infix {p : List Char} (hp : IsLine p) (hne : p ≠ []) :
    ∀ (t cur : List Char) (b : Bool), (b = true → cur = []) → p <:+: cur ++ t →
      ∃ l ∈ splitlinesFrom cur b t, p <:+: l
  | [], cur, _, _, h => by
    have hcur : cur ≠ [] := by rintro rfl; exact hne (List.infix_nil.mp (by simpa using h))
    exact ⟨cur, by simp [splitlinesFrom, hcur], by simpa using h⟩
  | c :: t, cur, b, hb, h => by
    have hmem : ∀ {x}, isLineBreak x = true → x ∉ p := fun hx hx' => by
      simp [hp _ hx'] at hx
    simp only [splitlinesFrom]
    split_ifs with h1 h2
    · simp only [Bool.and_eq_true, decide_eq_true_eq] at h1
      obtain ⟨rfl, rfl⟩ := h1
      rw [hb rfl, List.nil_append, ← List.nil_append (_ :: t),
        infix_append_cons_iff (hmem isLineBreak_newline)] at h
      exact exists_line_of_infix hp hne t [] false (by simp)
        (h.resolve_left fun h' => hne (by simpa using h'))
    · rcases (infix_append_cons_iff (hmem h2)).mp h with h | h
      · exact ⟨cur, List.mem_cons_self _ _, h⟩
      · obtain ⟨l, hl, hpl⟩ := exists_line_of_infix hp hne t [] _ (fun _ => rfl) (by simpa using h)
        exact ⟨l, List.mem_cons_of_mem _ hl, hpl⟩
    · exact exists_line_of_infix hp hne t _ false (fun h => by simp at h) (by simpa using h)

theorem exists_line_of_infix_splitlines {p t : List Char} (hp : IsLine p) (hne : p ≠ [])
    (h : p <:+: t) : ∃ l ∈ splitlines t, p <:+: l :=
  exists_line_of_infix hp hne t [] false (by simp) (by simpa using h)

/-! ### Files in text mode, and `os.path` -/

/-- What `open(path).read()` returns for the content `s`: universal newlines read `\r\n` and
`\r` as `\n`. -/
def universalNewlines : List Char → List Char
  | [] => []
  | '\r' :: '\n' :: s => '\n' :: universalNewlines s
  | '\r' :: s => '\n' :: universalNewlines s
  | c :: s => c :: universalNewlines s

theorem universalNewlines_of_cr_not_mem {s : List Char} (h : '\r' ∉ s) : universalNewlines s = s := by
  induction s using universalNewlines.induct with
  | case1 => rfl
  | case2 s _ => simp at h
  | case3 s _ _ => simp at h
  | case4 c s h1 h2 ih =>
    rw [universalNewlines.eq_4 c s h1 h2, ih fun hs => h (List.mem_cons_of_mem _ hs)]

theorem cr_not_mem_universalNewlines (s : List Char) : '\r' ∉ universalNewlines s := by
  induction s using universalNewlines.induct with
  | case1 => simp [universalNewlines]
  | case2 s ih => rw [universalNewlines.eq_2]; simpa using ih
  | case3 s h ih => rw [universalNewlines.eq_3 s h]; simpa using ih
  | case4 c s h1 h2 ih => rw [universalNewlines.eq_4 c s h1 h2]; simpa [Ne.symm h2] using ih

theorem universalNewlines_append {x : List Char} (hx : '\r' ∉ x) (hh : x.head? ≠ some '\n')
    (raw : List Char) : universalNewlines (raw ++ x) = universalNewlines raw ++ x := by
  induction raw using universalNewlines.induct with
  | case1 => simpa using universalNewlines_of_cr_not_mem hx
  | case2 s ih => rw [List.cons_append, List.cons_append, universalNewlines.eq_2, ih]; rfl
  | case3 s hs ih =>
    have hsx : ∀ s₁, s ++ x = '\n' :: s₁ → False := fun s₁ h₁ => by
      cases s with
      | nil => exact hh (by rw [← List.nil_append x, h₁]; rfl)
      | cons d s =>
        obtain ⟨rfl, -⟩ := List.cons.inj h₁
        exact hs s rfl
    rw [List.cons_append, universalNewlines.eq_3 _ hsx, universalNewlines.eq_3 s hs, ih]; rfl
  | case4 c s h1 h2 ih =>
    rw [List.cons_append, universalNewlines.eq_4 c _ (fun _ hc => absurd hc h2) h2,
      universalNewlines.eq_4 c s h1 h2, ih]; rfl

theorem cr_not_mem_of_isLine {l : List Char} (h : IsLine l) : '\r' ∉ l := fun hl => by
  simpa using h _ hl

theorem cr_not_mem_writeLines {ls : List (List Char)} (h : ∀ l ∈ ls, IsLine l) :
    '\r' ∉ writeLines ls := by
  simp only [writeLines, List.mem_flatMap, List.mem_append, List.mem_singleton, not_exists, not_and]
  exact fun l hl => not_or.mpr ⟨cr_not_mem_of_isLine (h l hl), by decide⟩

/-- The lines `for line in f` yields from the text read, each with its `\n`. -/
def linesKeepEnds (cur : List Char) : List Char → List (List Char)
  | [] => if cur = [] then [] else [cur]
  | c :: s => if c = '\n' then (cur ++ [c]) :: linesKeepEnds [] s else linesKeepEnds (cur ++ [c]) s

/-- The chunks `for line in f` yields: each ends at its only `\n`, but the last may have none. -/
inductive KeepEnds : List (List Char) → Prop
  | nil : KeepEnds []
  | last {l : List Char} : l ≠ [] → '\n' ∉ l → KeepEnds [l]
  | cons {l : List Char} {ls : List (List Char)} : '\n' ∉ l → KeepEnds ls → KeepEnds ((l ++ ['\n']) :: ls)

theorem linesKeepEnds_append_of_not_mem {l : List Char} (hl : '\n' ∉ l) (cur r : List Char) :
    linesKeepEnds cur (l ++ r) = linesKeepEnds (cur ++ l) r := by
  induction l generalizing cur with
  | nil => simp
  | cons c l ih =>
    rw [List.cons_append, linesKeepEnds, if_neg (fun h : c = '\n' => hl (h ▸ List.mem_cons_self c l)),
      ih (fun h => hl (List.mem_cons_of_mem c h)), List.append_assoc, List.singleton_append]

theorem flatten_linesKeepEnds (cur s : List Char) : (linesKeepEnds cur s).flatten = cur ++ s := by
  induction s generalizing cur with
  | nil => by_cases h : cur = [] <;> simp [linesKeepEnds, h]
  | cons c s ih => by_cases h : c = '\n' <;> simp [linesKeepEnds, h, ih]

theorem keepEnds_linesKeepEnds {cur : List Char} (hcur : '\n' ∉ cur) (s : List Char) :
    KeepEnds (linesKeepEnds cur s) := by
  induction s generalizing cur with
  | nil =>
    by_cases h : cur = []
    · simpa [linesKeepEnds, h] using KeepEnds.nil
    · simpa [linesKeepEnds, h] using KeepEnds.last h hcur
  | cons c s ih =>
    by_cases h : c = '\n'
    · simpa [linesKeepEnds, h] using KeepEnds.cons hcur (ih (List.not_mem_nil _))
    · simpa [linesKeepEnds, h] using ih (by simp [hcur, Ne.symm h])

namespace KeepEnds

variable {ls : List (List Char)}

theorem linesKeepEnds_flatten (h : KeepEnds ls) : linesKeepEnds [] ls.flatten = ls := by
  induction h with
  | nil => rfl
  | last hne hl => simpa [linesKeepEnds, hne] using linesKeepEnds_append_of_not_mem hl [] []
  | cons hl _ ih =>
    rw [List.flatten_cons, List.append_assoc, linesKeepEnds_append_of_not_mem hl,
      List.singleton_append, List.nil_append, linesKeepEnds, if_pos rfl, ih]

theorem filter (h : KeepEnds ls) (q : List Char → Bool) : KeepEnds (ls.filter q) := by
  induction h with
  | nil => exact .nil
  | @last l hne hl => by_cases hq : q l <;> simp [List.filter, hq, KeepEnds.nil, KeepEnds.last hne hl]
  | @cons l _ hl _ ih =>
    by_cases hq : q (l ++ ['\n']) <;> simp [List.filter, hq, ih, KeepEnds.cons hl ih]

theorem exists_chunk {p : List Char} (h : KeepEnds ls) (hp : '\n' ∉ p) (hne : p ≠ [])
    (hi : p <:+: ls.flatten) : ∃ l ∈ ls, p <:+: l := by
  induction h with
  | nil => exact absurd (List.infix_nil.mp hi) hne
  | last => simpa using hi
  | cons _ _ ih =>
    rw [List.flatten_cons, List.append_assoc, List.singleton_append, infix_append_cons_iff hp] at hi
    rcases hi with hi | hi
    · exact ⟨_, List.mem_cons_self _ _, hi.trans (List.prefix_append _ _).isInfix⟩
    · obtain ⟨l, hl, hpl⟩ := ih hi
      exact ⟨l, List.mem_cons_of_mem _ hl, hpl⟩

end KeepEnds

theorem linesKeepEnds_flatten_filter (q : List Char → Bool) (t : List Char) :
    linesKeepEnds [] ((linesKeepEnds [] t).filter q).flatten = (linesKeepEnds [] t).filter q :=
  ((keepEnds_linesKeepEnds (List.not_mem_nil _) t).filter q).linesKeepEnds_flatten

/-- `os.path.basename`: what follows the last slash. -/
def basename (p : List Char) : List Char := (p.reverse.takeWhile (· ≠ '/')).reverse

/-- `os.path.join(a, b)`. -/
def pathJoin (a b : List Char) : List Char :=
  if b.head? = some '/' then b
  else if a = [] ∨ a.getLast? = some '/' then a ++ b
  else a ++ '/' :: b

/-- One component of the loop of `os.path.normpath`, `rooted` telling whether the path starts
with a slash. -/
def normpathComp (rooted : Bool) (comps : List (List Char)) (comp : List Char) : List (List Char) :=
  if comp = [] ∨ comp = ['.'] then comps
  else if comp ≠ ['.', '.'] ∨ (!rooted ∧ comps = []) ∨ comps.getLast? = some ['.', '.'] then
    comps ++ [comp]
  else comps.dropLast

/-- `os.path.normpath`: POSIX keeps two leading slashes and folds three or more into one. -/
def normpath (path : List Char) : List Char :=
  if path = [] then ['.'] else
    let initialSlashes : Nat :=
      if path.head? ≠ some '/' then 0
      else if path.take 2 = ['/', '/'] ∧ path.take 3 ≠ ['/', '/', '/'] then 2 else 1
    let comps := (path.splitOn '/').foldl (normpathComp (initialSlashes ≠ 0)) []
    let p := List.replicate initialSlashes '/' ++ List.intercalate ['/'] comps
    if p = [] then ['.'] else p

/-! ### Absolute paths of plain components -/

/-- The absolute path `/c₁/…/cₙ` of its components. -/
def absPath (comps : List (List Char)) : List Char := comps.flatMap ('/' :: ·)

/-- A component that `os.path.normpath` keeps as it is: not empty, not `.` or `..`, and with
no slash. -/
def PlainComp (c : List Char) : Prop := c ≠ [] ∧ c ≠ ['.'] ∧ c ≠ ['.', '.'] ∧ '/' ∉ c

instance (c : List Char) : Decidable (PlainComp c) :=
  inferInstanceAs (Decidable (_ ∧ _ ∧ _ ∧ _))

@[simp] theorem absPath_nil : absPath [] = [] := rfl

@[simp] theorem absPath_cons (c : List Char) (comps : List (List Char)) :
    absPath (c :: comps) = '/' :: (c ++ absPath comps) := rfl

@[simp] theorem absPath_append (xs ys : List (List Char)) :
    absPath (xs ++ ys) = absPath xs ++ absPath ys := List.flatMap_append _ _ _

theorem intercalate_slash : ∀ (c : List Char) (comps : List (List Char)),
    List.intercalate ['/'] (c :: comps) = c ++ absPath comps
  | c, [] => by simp [List.intercalate]
  | c, d :: rest => by
    have ih := intercalate_slash d rest
    simp only [List.intercalate] at ih ⊢
    simp [ih]

theorem splitOn_absPath {comps : List (List Char)} (h : ∀ c ∈ comps, '/' ∉ c) :
    (absPath comps).splitOn '/' = [] :: comps := by
  have := List.splitOn_intercalate ([] :: comps) '/' (by simpa using h) (List.cons_ne_nil _ _)
  rwa [intercalate_slash, List.nil_append] at this

theorem normpathComp_plain {c : List Char} (h : PlainComp c) (rooted : Bool)
    (comps : List (List Char)) : normpathComp rooted comps c = comps ++ [c] := by
  simp [normpathComp, h.1, h.2.1, h.2.2.1]

theorem foldl_normpathComp_plain (rooted : Bool) : ∀ {cs : List (List Char)},
    (∀ c ∈ cs, PlainComp c) → ∀ acc, cs.foldl (normpathComp rooted) acc = acc ++ cs
  | [], _, acc => by simp
  | c :: cs, h, acc => by
    rw [List.foldl_cons, normpathComp_plain (h c (List.mem_cons_self _ _)),
      foldl_normpathComp_plain rooted (fun d hd => h d (List.mem_cons_of_mem _ hd))]
    simp

theorem cons_intercalate_slash {comps : List (List Char)} (hne : comps ≠ []) :
    '/' :: List.intercalate ['/'] comps = absPath comps := by
  obtain ⟨c, comps, rfl⟩ := List.exists_cons_of_ne_nil hne
  rw [intercalate_slash, absPath_cons]

theorem pathJoin_absPath {pre : List (List Char)} {c : List Char} (hc : c ≠ []) (h : '/' ∉ c)
    {rel : List Char} (hrel : rel.head? ≠ some '/') :
    pathJoin (absPath (pre ++ [c])) rel = absPath (pre ++ [c]) ++ '/' :: rel := by
  obtain ⟨x, c', rfl⟩ := List.exists_cons_of_ne_nil hc
  simpa [pathJoin, hrel, List.getLast?_append] using fun h' => h (List.mem_of_getLast?_eq_some h')

theorem normpath_absPath {comps : List (List Char)} (hne : comps ≠ [])
    (h : ∀ d ∈ comps, d ≠ [] ∧ '/' ∉ d) :
    normpath (absPath comps) = '/' :: List.intercalate ['/'] (comps.foldl (normpathComp true) []) := by
  obtain ⟨c, comps, rfl⟩ := List.exists_cons_of_ne_nil hne
  obtain ⟨x, c', rfl⟩ := List.exists_cons_of_ne_nil (h _ (List.mem_cons_self _ _)).1
  have hx : x ≠ '/' := fun hx => (h _ (List.mem_cons_self _ _)).2 (hx ▸ List.mem_cons_self _ _)
  have hs : ¬ ('/' :: (x :: c' ++ absPath comps)).take 2 = ['/', '/'] := by simp [hx]
  rw [normpath, if_neg (by simp), splitOn_absPath fun d hd => (h d hd).2]
  simp only [absPath_cons, List.head?_cons, ne_eq, not_true_eq_false, if_false, hs, false_and]
  simp [normpathComp]

theorem basename_absPath_append (pre : List (List Char)) {c : List Char} (h : '/' ∉ c) :
    basename (absPath (pre ++ [c])) = c := by
  have hc : ∀ a ∈ c.reverse, decide (a ≠ '/') = true := fun a ha =>
    decide_eq_true fun h' : a = '/' => h (h' ▸ List.mem_reverse.mp ha)
  rw [basename, absPath_append, absPath_cons, absPath_nil, List.append_nil, List.reverse_append,
    List.reverse_cons, List.append_assoc, List.takeWhile_append_of_pos hc]
  simp

theorem normpath_pathJoin_absPath {dev rel : List (List Char)} (hdev : dev ≠ [])
    (h : ∀ c ∈ dev, PlainComp c) (hrel : ∀ d ∈ rel, d ≠ [] ∧ '/' ∉ d) {suffix : List Char}
    (hs : '/' :: suffix = absPath rel) (hs' : suffix.head? ≠ some '/') :
    normpath (pathJoin (absPath dev) suffix) =
      '/' :: List.intercalate ['/'] (rel.foldl (normpathComp true) dev) := by
  obtain ⟨pre, c, rfl⟩ : ∃ pre c, dev = pre ++ [c] :=
    ⟨_, _, (List.dropLast_append_getLast hdev).symm⟩
  have hc := h c (by simp)
  rw [pathJoin_absPath hc.1 hc.2.2.2 hs', hs, ← absPath_append,
    normpath_absPath (by simp) fun d hd => (List.mem_append.mp hd).elim
      (fun hd => ⟨(h d hd).1, (h d hd).2.2.2⟩) (hrel d),
    List.foldl_append, foldl_normpathComp_plain true h, List.nil_append]

end SriovConfig.PyText
