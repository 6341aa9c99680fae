import SriovConfig.PyText
import Mathlib.Tactic.Ring

/-! The regular expressions of `sriov_config.py`, each as the matcher it compiles to, with
`str()` and `int()` of integers. Python's `\d` and `\w` reach past ASCII through the Unicode
database, which the model takes as a parameter. -/
set_option autoImplicit false

namespace SriovConfig.PyRe
open PyText

/-- The Unicode database, read for characters outside ASCII. -/
structure UnicodeDb where
  /-- the value of a decimal digit (category Nd), `none` for any other character -/
  decimal : Char → Option Nat
  /-- `str.isalnum` -/
  alnum : Char → Bool

def isAsciiDigit (c : Char) : Bool := '0' ≤ c && c ≤ '9'

/-- `\d`. -/
def isDecimal (uni : UnicodeDb) (c : Char) : Bool :=
  if c.toNat < 128 then isAsciiDigit c else (uni.decimal c).isSome

/-- `\w`. -/
def isWordChar (uni : UnicodeDb) (c : Char) : Bool :=
  if c.toNat < 128 then c.isAlphanum || c = '_' else uni.alnum c

/-- The value `int()` gives a `\d` character. -/
def digitValue (uni : UnicodeDb) (c : Char) : Nat :=
  if c.toNat < 128 then c.toNat - '0'.toNat else (uni.decimal c).getD 0

/-- `int(s)` on a string of `\d` characters. -/
def decimalValue (uni : UnicodeDb) (s : List Char) : Nat :=
  s.foldl (fun n c => 10 * n + digitValue uni c) 0

/-- `str(n)` (and `f"{n}"`, `"%d" % n`) of an `int`. -/
def pyStr (n : Int) : List Char :=
  if n < 0 then '-' :: Nat.toDigits 10 n.natAbs else Nat.toDigits 10 n.toNat

/-- `lit` at the front of `s`: what follows it. -/
def dropPrefix? : List Char → List Char → Option (List Char)
  | [], s => some s
  | _ :: _, [] => none
  | c :: lit, d :: s => if c = d then dropPrefix? lit s else none

/-- `\d+` at the front of `s`: the longest nonempty run of digits, and what follows. -/
def digitsPlus (uni : UnicodeDb) (s : List Char) : Option (List Char × List Char) :=
  if s.takeWhile (isDecimal uni) = [] then none
  else some (s.takeWhile (isDecimal uni), s.dropWhile (isDecimal uni))

/-- `VF_PCI_RE = /[\d]{4}\:(\d+):(\d+)\.(\d+)/net/[^\/]+$` matched at the front of `s`. No
group can stop short of the separator after it, so the greedy runs are the only parse. -/
def vfPciMatch (uni : UnicodeDb) (s : List Char) : Option (List Char × List Char × List Char) := do
  let s ← dropPrefix? ['/'] s
  guard ((s.take 4).length = 4 ∧ (s.take 4).all (isDecimal uni))
  let s ← dropPrefix? [':'] (s.drop 4)
  let (bus, s) ← digitsPlus uni s
  let s ← dropPrefix? [':'] s
  let (dev, s) ← digitsPlus uni s
  let s ← dropPrefix? ['.'] s
  let (fn, s) ← digitsPlus uni s
  let name ← dropPrefix? "/net/".toList s
  guard (name ≠ [] ∧ '/' ∉ name)
  return (bus, dev, fn)

/-- `VF_PCI_RE.search(s)`: the groups of the leftmost match. -/
def vfPciSearch (uni : UnicodeDb) : List Char → Option (List Char × List Char × List Char)
  | [] => none
  | c :: s => (vfPciMatch uni (c :: s)).or (vfPciSearch uni s)

/-- `PF_FUNC_RE = \.(\d+)$` matched at the front of `s`; `$` also matches before a final
newline. -/
def pfFuncMatch (uni : UnicodeDb) (s : List Char) : Option (List Char) := do
  let s ← dropPrefix? ['.'] s
  let (fn, s) ← digitsPlus uni s
  guard (s = [] ∨ s = ['\n'])
  return fn

/-- `PF_FUNC_RE.search(s)`. -/
def pfFuncSearch (uni : UnicodeDb) : List Char → Option (List Char)
  | [] => none
  | c :: s => (pfFuncMatch uni (c :: s)).or (pfFuncSearch uni s)

/-- `re.search(r'PCI_SLOT_NAME=(.*)', s, re.MULTILINE).group(1)`; `none` where Python's
`.group` would be called on `None`. -/
def pciSlotNameSearch : List Char → Option (List Char)
  | [] => none
  | c :: s =>
    match dropPrefix? "PCI_SLOT_NAME=".toList (c :: s) with
    | some rest => some (rest.takeWhile (· ≠ '\n'))
    | none => pciSlotNameSearch s

/-- `re.match(r"^\w+:\d+$", s)`. -/
def numvfsArgMatch (uni : UnicodeDb) (s : List Char) : Bool :=
  match s.takeWhile (isWordChar uni), s.dropWhile (isWordChar uni) with
  | _ :: _, ':' :: s =>
    match digitsPlus uni s with
    | some (_, rest) => rest = [] || rest = ['\n']
    | none => false
  | _, _ => false

@[simp] theorem dropPrefix?_nil (s : List Char) : dropPrefix? [] s = some s := rfl

@[simp] theorem dropPrefix?_cons_self (c : Char) (lit s : List Char) :
    dropPrefix? (c :: lit) (c :: s) = dropPrefix? lit s := by
  simp [dropPrefix?]

@[simp] theorem dropPrefix?_append (lit s : List Char) : dropPrefix? lit (lit ++ s) = some s := by
  induction lit with
  | nil => rfl
  | cons c lit ih => simp [dropPrefix?, ih]

theorem eq_of_dropPrefix?_eq_some : ∀ {lit s r : List Char}, dropPrefix? lit s = some r →
    s = lit ++ r
  | [], s, r, h => by simpa using h
  | _ :: _, [], _, h => by simp [dropPrefix?] at h
  | c :: lit, d :: s, r, h => by
    simp only [dropPrefix?] at h
    split_ifs at h with hc
    · rw [hc, eq_of_dropPrefix?_eq_some h]; rfl

theorem eq_of_digitsPlus_eq_some {uni : UnicodeDb} {s d r : List Char}
    (h : digitsPlus uni s = some (d, r)) : s = d ++ r ∧ ∀ c ∈ d, isDecimal uni c = true := by
  simp only [digitsPlus] at h
  split_ifs at h
  simp only [Option.some.injEq, Prod.mk.injEq] at h
  obtain ⟨rfl, rfl⟩ := h
  exact ⟨(List.takeWhile_append_dropWhile _ _).symm, fun c hc => List.mem_takeWhile_imp hc⟩

theorem digitsPlus_append {uni : UnicodeDb} {d r : List Char} (hd : ∀ c ∈ d, isDecimal uni c)
    (hne : d ≠ []) (hr : ∀ c ∈ r.head?, isDecimal uni c = false) :
    digitsPlus uni (d ++ r) = some (d, r) := by
  have ht : r.takeWhile (isDecimal uni) = [] := by
    cases r with
    | nil => rfl
    | cons c r => simp [hr c rfl]
  have hdr : r.dropWhile (isDecimal uni) = r := by
    cases r with
    | nil => rfl
    | cons c r => simp [hr c rfl]
  simp [digitsPlus, List.takeWhile_append_of_pos hd, List.dropWhile_append_of_pos hd, ht, hdr,
    hne]

theorem infix_of_pfFuncSearch {uni : UnicodeDb} {fn : List Char} :
    ∀ {s : List Char}, pfFuncSearch uni s = some fn → fn <:+: s
  | [], h => by simp [pfFuncSearch] at h
  | c :: s, h => by
    rcases Option.or_eq_some.mp h with h | ⟨-, h⟩
    · obtain ⟨s1, h1, h⟩ := Option.bind_eq_some.mp h
      obtain ⟨⟨fn', s2⟩, h2, h⟩ := Option.bind_eq_some.mp h
      obtain ⟨_, -, h⟩ := Option.bind_eq_some.mp h
      cases h
      rw [eq_of_dropPrefix?_eq_some h1, (eq_of_digitsPlus_eq_some h2).1]
      exact List.infix_append' _ _ _
    · exact (infix_of_pfFuncSearch h).trans (List.suffix_cons c s).isInfix

theorem isDecimal_of_isAsciiDigit {uni : UnicodeDb} {c : Char} (h : isAsciiDigit c = true) :
    isDecimal uni c = true := by
  have : c.toNat < 128 := by
    simp only [isAsciiDigit, Bool.and_eq_true, decide_eq_true_eq] at h
    exact lt_of_le_of_lt (Char.le_def.mp h.2) (by decide)
  simp [isDecimal, this, h]

theorem isLineBreak_of_isAsciiDigit {c : Char} (h : isAsciiDigit c = true) :
    isLineBreak c = false := by
  simp only [isAsciiDigit, Bool.and_eq_true, decide_eq_true_eq] at h
  exact isLineBreak_of_printable (Char.le_trans (by decide) h.1) (Char.le_trans h.2 (by decide))

theorem digitValue_of_lt {uni : UnicodeDb} {c : Char} (h : c.toNat < 128) :
    digitValue uni c = c.toNat - 48 := by
  simp [digitValue, h]

theorem decimalValue_foldl (uni : UnicodeDb) (l : List Char) (acc : Nat) :
    l.foldl (fun n c => 10 * n + digitValue uni c) acc = acc * 10 ^ l.length + decimalValue uni l := by
  induction l generalizing acc with
  | nil => simp [decimalValue]
  | cons c l ih =>
    simp only [decimalValue, List.foldl_cons, List.length_cons] at ih ⊢
    rw [ih, ih (10 * 0 + digitValue uni c)]
    ring

theorem digitChar_spec : ∀ k < 10, isAsciiDigit (Nat.digitChar k) = true ∧
    (Nat.digitChar k).toNat < 128 ∧ (Nat.digitChar k).toNat - 48 = k := by
  decide

theorem toDigitsCore_succ (f n : Nat) (ds : List Char) :
    Nat.toDigitsCore 10 (f + 1) n ds = if n / 10 = 0 then Nat.digitChar (n % 10) :: ds
      else Nat.toDigitsCore 10 f (n / 10) (Nat.digitChar (n % 10) :: ds) := rfl

theorem toDigitsCore_spec (uni : UnicodeDb) :
    ∀ (f n : Nat) (ds : List Char), n < f →
      (∀ c ∈ Nat.toDigitsCore 10 f n ds, isAsciiDigit c ∨ c ∈ ds) ∧
      decimalValue uni (Nat.toDigitsCore 10 f n ds) = n * 10 ^ ds.length + decimalValue uni ds
  | 0, n, ds, h => absurd h (Nat.not_lt_zero n)
  | f + 1, n, ds, h => by
    obtain ⟨hdig, hlt, hval⟩ := digitChar_spec (n % 10) (Nat.mod_lt n (by decide))
    have hcons : decimalValue uni (Nat.digitChar (n % 10) :: ds) =
        n % 10 * 10 ^ ds.length + decimalValue uni ds := by
      rw [decimalValue, List.foldl_cons, decimalValue_foldl, digitValue_of_lt hlt, hval]
      simp
    have hhead : ∀ c ∈ Nat.digitChar (n % 10) :: ds, isAsciiDigit c ∨ c ∈ ds := fun c hc =>
      (List.mem_cons.mp hc).imp (fun h : c = _ => h ▸ hdig) id
    rw [toDigitsCore_succ]
    split_ifs with h0
    · exact ⟨hhead, by rw [hcons, Nat.mod_eq_of_lt (by omega)]⟩
    · obtain ⟨hmem, hv⟩ := toDigitsCore_spec uni f (n / 10) _ (by omega)
      refine ⟨fun c hc => (hmem c hc).elim .inl (hhead c), ?_⟩
      rw [hv, hcons, List.length_cons, pow_succ]
      have := Nat.div_add_mod n 10
      calc n / 10 * (10 ^ ds.length * 10) + (n % 10 * 10 ^ ds.length + decimalValue uni ds)
          = (10 * (n / 10) + n % 10) * 10 ^ ds.length + decimalValue uni ds := by ring
        _ = n * 10 ^ ds.length + decimalValue uni ds := by rw [this]

theorem decimalValue_toDigits (uni : UnicodeDb) (n : Nat) :
    decimalValue uni (Nat.toDigits 10 n) = n := by
  simpa [decimalValue] using (toDigitsCore_spec uni (n + 1) n [] (Nat.lt_succ_self n)).2

theorem isAsciiDigit_of_mem_toDigits {n : Nat} {c : Char} (h : c ∈ Nat.toDigits 10 n) :
    isAsciiDigit c = true := by
  simpa using (toDigitsCore_spec ⟨fun _ => none, fun _ => false⟩ (n + 1) n []
    (Nat.lt_succ_self n)).1 c h

theorem toDigitsCore_ne_nil : ∀ (f n : Nat) (ds : List Char), ds ≠ [] →
    Nat.toDigitsCore 10 f n ds ≠ []
  | 0, _, _, h => h
  | f + 1, n, ds, _ => by
    rw [toDigitsCore_succ]
    split_ifs
    · simp
    · exact toDigitsCore_ne_nil f _ _ (List.cons_ne_nil _ _)

theorem toDigits_ne_nil (n : Nat) : Nat.toDigits 10 n ≠ [] := by
  show Nat.toDigitsCore 10 (n + 1) n [] ≠ []
  rw [toDigitsCore_succ]
  split_ifs
  · simp
  · exact toDigitsCore_ne_nil n _ _ (List.cons_ne_nil _ _)

theorem mem_pyStr {n : Int} {c : Char} (h : c ∈ pyStr n) : c = '-' ∨ isAsciiDigit c = true := by
  unfold pyStr at h
  split_ifs at h
  · rcases List.mem_cons.mp h with rfl | h
    · exact .inl rfl
    · exact .inr (isAsciiDigit_of_mem_toDigits h)
  · exact .inr (isAsciiDigit_of_mem_toDigits h)

theorem minus_not_mem_toDigits (n : Nat) : '-' ∉ Nat.toDigits 10 n := fun h => by
  simpa [isAsciiDigit] using isAsciiDigit_of_mem_toDigits h

theorem pyStr_inj {x y : Int} (h : pyStr x = pyStr y) : x = y := by
  have hv := fun a b (hab : Nat.toDigits 10 a = Nat.toDigits 10 b) =>
    (decimalValue_toDigits ⟨fun _ => none, fun _ => false⟩ a).symm.trans
      (hab ▸ decimalValue_toDigits ⟨fun _ => none, fun _ => false⟩ b)
  unfold pyStr at h
  split_ifs at h with hx hy hy
  · have := hv _ _ (List.cons.inj h).2; omega
  · exact absurd (h ▸ List.mem_cons_self _ _) (minus_not_mem_toDigits _)
  · exact absurd (h ▸ List.mem_cons_self _ _) (minus_not_mem_toDigits _)
  · have := hv _ _ h; omega

theorem isSpace_of_isAsciiDigit {c : Char} (h : isAsciiDigit c = true) : isSpace c = false := by
  have key : ∀ n < 58, 48 ≤ n → isSpace (Char.ofNat n) = false := by decide
  simp only [isAsciiDigit, Bool.and_eq_true, decide_eq_true_eq, Char.le_def] at h
  simpa using key c.toNat (Nat.lt_succ_of_le h.2) h.1

theorem pyStr_of_nonneg {n : Int} (hn : 0 ≤ n) : pyStr n = Nat.toDigits 10 n.toNat :=
  if_neg (not_lt.mpr hn)

theorem decimalValue_strip_pyStr (uni : UnicodeDb) {n : Int} (hn : 0 ≤ n) :
    (decimalValue uni (strip (pyStr n)) : Int) = n := by
  rw [pyStr_of_nonneg hn,
    strip_of_forall fun c hc => isSpace_of_isAsciiDigit (isAsciiDigit_of_mem_toDigits hc),
    decimalValue_toDigits, Int.toNat_of_nonneg hn]

theorem isWordChar_colon {uni : UnicodeDb} : isWordChar uni ':' = false := rfl

theorem colon_not_mem_pyStr {n : Int} (hn : 0 ≤ n) : ':' ∉ pyStr n := fun h => by
  rw [pyStr_of_nonneg hn] at h
  simpa [isAsciiDigit] using isAsciiDigit_of_mem_toDigits h

theorem numvfsArgMatch_pyStr {uni : UnicodeDb} {name : List Char} (hne : name ≠ [])
    (hw : ∀ c ∈ name, isWordChar uni c = true) {n : Int} (hn : 0 ≤ n) :
    numvfsArgMatch uni (name ++ ':' :: pyStr n) = true := by
  have hd : digitsPlus uni (pyStr n) = some (pyStr n, []) := by
    rw [pyStr_of_nonneg hn]
    simpa using digitsPlus_append (r := [])
      (fun c hc => isDecimal_of_isAsciiDigit (isAsciiDigit_of_mem_toDigits hc)) (toDigits_ne_nil _)
      (by simp)
  have ht : (name ++ ':' :: pyStr n).takeWhile (isWordChar uni) = name := by
    simp [List.takeWhile_append_of_pos hw, isWordChar_colon]
  have hr : (name ++ ':' :: pyStr n).dropWhile (isWordChar uni) = ':' :: pyStr n := by
    simp [List.dropWhile_append_of_pos hw, isWordChar_colon]
  obtain ⟨c, name, rfl⟩ := List.exists_cons_of_ne_nil hne
  simp only [numvfsArgMatch, ht, hr, hd]
  rfl

theorem ne_nil_of_digitsPlus_eq_some {uni : UnicodeDb} {s d r : List Char}
    (h : digitsPlus uni s = some (d, r)) : d ≠ [] := by
  simp only [digitsPlus] at h
  split_ifs at h with hne
  obtain ⟨rfl, -⟩ := Prod.mk.inj (Option.some.inj h)
  exact hne

/-- What `^\w+:\d+$` accepts: a name of word characters, a colon, and digits with at most a final
line break, as `$` allows one. -/
theorem numvfsArgMatch_eq_true {uni : UnicodeDb} {s : List Char} (h : numvfsArgMatch uni s = true) :
    ∃ name digits, name ≠ [] ∧ (∀ c ∈ name, isWordChar uni c = true) ∧ digits ≠ [] ∧
      (∀ c ∈ digits, isDecimal uni c = true) ∧
      (s = name ++ ':' :: digits ∨ s = name ++ ':' :: (digits ++ ['\n'])) := by
  unfold numvfsArgMatch at h
  split at h
  · next x xs count hw hr =>
    split at h
    · next d rest hd =>
      obtain ⟨hcount, hdigits⟩ := eq_of_digitsPlus_eq_some hd
      have hs : s = x :: xs ++ ':' :: count := by
        rw [← List.takeWhile_append_dropWhile (isWordChar uni) s, hw, hr]
      refine ⟨x :: xs, d, List.cons_ne_nil _ _, fun c hc => List.mem_takeWhile_imp (hw ▸ hc),
        ne_nil_of_digitsPlus_eq_some hd, hdigits, ?_⟩
      have hrest : rest = [] ∨ rest = ['\n'] := by simpa using h
      rcases hrest with rfl | rfl
      · exact .inl (by rw [hs, hcount, List.append_nil])
      · exact .inr (by rw [hs, hcount])
    · exact absurd h Bool.false_ne_true
  · exact absurd h Bool.false_ne_true

/-! ### `PCI_SLOT_NAME` in a `uevent` file -/

theorem pciSlotNameSearch_key (x : List Char) :
    pciSlotNameSearch ("PCI_SLOT_NAME=".toList ++ x) = some (x.takeWhile (· ≠ '\n')) := by
  rw [show "PCI_SLOT_NAME=".toList ++ x = 'P' :: ("CI_SLOT_NAME=".toList ++ x) from rfl,
    pciSlotNameSearch, show 'P' :: ("CI_SLOT_NAME=".toList ++ x) = "PCI_SLOT_NAME=".toList ++ x
      from rfl, dropPrefix?_append]

theorem pciSlotNameSearch_skip_line :
    ∀ {l : List Char} (rest : List Char), '\n' ∉ l → ¬ "PCI_SLOT_NAME=".toList <:+: l →
      pciSlotNameSearch (l ++ '\n' :: rest) = pciSlotNameSearch rest
  | [], rest, _, _ => by
    rw [List.nil_append, pciSlotNameSearch,
      show dropPrefix? "PCI_SLOT_NAME=".toList ('\n' :: rest) = none from rfl]
  | c :: l, rest, hn, hk => by
    have hnone : dropPrefix? "PCI_SLOT_NAME=".toList (c :: l ++ '\n' :: rest) = none := by
      cases h : dropPrefix? "PCI_SLOT_NAME=".toList (c :: l ++ '\n' :: rest) with
      | none => rfl
      | some r =>
        have hp : "PCI_SLOT_NAME=".toList <+: c :: l ++ '\n' :: rest :=
          ⟨r, (eq_of_dropPrefix?_eq_some h).symm⟩
        exact absurd (prefix_append_cons_of_not_mem (by decide) hp).isInfix hk
    rw [List.cons_append, pciSlotNameSearch, ← List.cons_append, hnone]
    exact pciSlotNameSearch_skip_line rest (fun h => hn (List.mem_cons_of_mem _ h))
      fun h => hk (h.trans (List.suffix_cons c l).isInfix)

theorem pciSlotNameSearch_writeLines {v : List Char} (post : List (List Char)) (hv : '\n' ∉ v) :
    ∀ {pre : List (List Char)}, (∀ l ∈ pre, '\n' ∉ l ∧ ¬ "PCI_SLOT_NAME=".toList <:+: l) →
      pciSlotNameSearch (writeLines (pre ++ ("PCI_SLOT_NAME=".toList ++ v) :: post)) = some v
  | [], _ => by
    rw [List.nil_append, writeLines_cons, List.append_assoc, pciSlotNameSearch_key,
      List.takeWhile_append_of_pos (p := fun x => decide (x ≠ '\n'))
        fun a ha => decide_eq_true fun h : a = '\n' => hv (h ▸ ha)]
    simp
  | l :: pre, hpre => by
    rw [List.cons_append, writeLines_cons,
      pciSlotNameSearch_skip_line _ (hpre l (List.mem_cons_self _ _)).1
        (hpre l (List.mem_cons_self _ _)).2]
    exact pciSlotNameSearch_writeLines post hv fun l' hl' => hpre l' (List.mem_cons_of_mem _ hl')

end SriovConfig.PyRe
