import SriovConfig.System

/-! A program logic for the trace: what a run appends to the actions taken before it, whichever
way it ends. Each combinator of the two monads gets one rule, and each primitive one lemma. -/
set_option autoImplicit false

namespace SriovConfig.Trace
open System

/-- Every run of `x` appends to the trace a list of actions with `P`. -/
def Appends {α : Type} (P : List Effect → Prop) (x : SysM α) : Prop :=
  ∀ c s, ∃ l, (x c s).state.trace = s.trace ++ l ∧ P l

/-- Every run of `x` appends to the trace only actions with `Q`. -/
def Emits {α : Type} (Q : Effect → Prop) (x : SysM α) : Prop :=
  Appends (fun l => ∀ e ∈ l, Q e) x

/-- `Appends` for code that may write `sriov_numvfs`. -/
def AppendsM {α : Type} (P : List Effect → Prop) (x : M α) : Prop :=
  ∀ w, ∃ l, (x.run w).state.sys.trace = w.sys.trace ++ l ∧ P l

/-- `Emits` for code that may write `sriov_numvfs`. -/
def EmitsM {α : Type} (Q : Effect → Prop) (x : M α) : Prop :=
  AppendsM (fun l => ∀ e ∈ l, Q e) x

section Rules
variable {α β γ : Type} {P R S : List Effect → Prop} {Q : Effect → Prop} (env : Env)

theorem Appends.mono {x : SysM α} (h : Appends P x) (hP : ∀ l, P l → R l) : Appends R x :=
  fun c s =>
    let ⟨l, hl, hp⟩ := h c s
    ⟨l, hl, hP l hp⟩

/-- A run of `x >>= f` appends what `x` appends, then what `f` appends unless `x` raised. -/
theorem Appends.bind {x : SysM α} {f : α → SysM β} (hx : Appends P x) (hf : ∀ a, Appends R (f a))
    (hPR : ∀ l₁ l₂, P l₁ → R l₂ → S (l₁ ++ l₂)) (hP : ∀ l, P l → S l) : Appends S (x >>= f) :=
  fun c s => by
    obtain ⟨l₁, h₁, p₁⟩ := hx c s
    rw [sysM_bind]
    rcases hr : x c s with ⟨a, s₁⟩ | ⟨e, s₁⟩ <;> rw [hr] at h₁ <;>
      simp only [EStateM.Result.state_ok, EStateM.Result.state_error] at h₁
    · obtain ⟨l₂, h₂, r₂⟩ := hf a c s₁
      exact ⟨l₁ ++ l₂, by rw [EStateM.Result.andThen_ok, h₂, h₁, List.append_assoc], hPR _ _ p₁ r₂⟩
    · exact ⟨l₁, h₁, hP _ p₁⟩

theorem Appends.ite {p : Prop} [Decidable p] {x y : SysM α} (hx : Appends P x) (hy : Appends P y) :
    Appends P (if p then x else y) := by
  split
  · exact hx
  · exact hy

theorem Appends.perform (e : Effect) (exc : PyExc) : Appends (· = [e]) (System.perform env e exc) :=
  fun c s => ⟨[e], by rw [perform_run]; split <;> simp, rfl⟩

theorem Appends.callHelper (e : Effect) (fn : List Char) : Appends (· = [e]) (System.callHelper env e fn) :=
  fun c s =>
    let ⟨l, hl, hp⟩ := Appends.perform env e (.helper fn) c (helperWrites env e s)
    ⟨l, by rw [callHelper_run, hl, helperWrites_trace], hp⟩

theorem Appends.execute (argv : List (List Char)) :
    Appends (· = [.execute argv]) (System.execute env argv) := fun c s => by
  obtain ⟨l, hl, rfl⟩ := Appends.perform env (.execute argv) (.processExecution argv) c s
  refine ⟨_, ?_, rfl⟩
  rw [execute_run]
  cases hr : System.perform env (.execute argv) (.processExecution argv) c s <;> rw [hr] at hl <;>
    simpa using hl

theorem Emits.mono {Q' : Effect → Prop} {x : SysM α} (h : Emits Q x) (hQ : ∀ e, Q e → Q' e) :
    Emits Q' x :=
  Appends.mono h fun _ hl e he => hQ e (hl e he)

theorem Appends.of_state {x : SysM α} (h : ∀ c s, (x c s).state = s) : Appends (· = []) x :=
  fun c s => ⟨[], by simp [h], rfl⟩

theorem Emits.of_state {x : SysM α} (h : ∀ c s, (x c s).state = s) : Emits Q x :=
  (Appends.of_state h).mono fun _ hl => hl ▸ List.forall_mem_nil _

theorem Emits.pure (a : α) : Emits Q (pure a : SysM α) := Emits.of_state fun _ _ => rfl

theorem Emits.get : Emits Q (get : SysM Sys) := Emits.of_state fun _ _ => rfl

theorem Emits.throw (e : PyExc) : Emits Q (throw e : SysM α) := Emits.of_state fun _ _ => rfl

theorem Emits.modify_record {f : Sys → Sys} {e : Effect} (h : ∀ s, (f s).trace = s.trace ++ [e])
    (he : Q e) : Emits Q (modify f) :=
  fun _ s => ⟨[e], by simp [h], by simpa using he⟩

theorem Emits.modify {f : Sys → Sys} (h : ∀ s, (f s).trace = s.trace) : Emits Q (modify f) :=
  fun _ s => ⟨[], by simp [h], by simp⟩

theorem Emits.listdir (path : List Char) : Emits Q (System.listdir env path) :=
  Emits.of_state fun _ _ => by
    simp only [System.listdir]
    split <;> rfl

theorem Emits.bind {x : SysM α} {f : α → SysM β} (hx : Emits Q x) (hf : ∀ a, Emits Q (f a)) :
    Emits Q (x >>= f) :=
  Appends.bind hx hf (fun _ _ h₁ h₂ => List.forall_mem_append.mpr ⟨h₁, h₂⟩) fun _ h => h

theorem Emits.tryCatch {x : SysM α} {h : PyExc → SysM α} (hx : Emits Q x)
    (hh : ∀ e, Emits Q (h e)) : Emits Q (tryCatch x h) := fun c s => by
  obtain ⟨l₁, h₁, q₁⟩ := hx c s
  rw [sysM_tryCatch]
  rcases hr : x c s with ⟨a, s₁⟩ | ⟨e, s₁⟩ <;> rw [hr] at h₁ <;>
    simp only [EStateM.Result.state_ok, EStateM.Result.state_error] at h₁
  · exact ⟨l₁, h₁, q₁⟩
  · obtain ⟨l₂, h₂, q₂⟩ := hh e c s₁
    exact ⟨l₁ ++ l₂, by rw [EStateM.Result.handle_error, h₂, h₁, List.append_assoc],
      List.forall_mem_append.mpr ⟨q₁, q₂⟩⟩

theorem Emits.map {f : α → β} {x : SysM α} (h : Emits Q x) : Emits Q (f <$> x) := fun c s => by
  obtain ⟨l, hl, hq⟩ := h c s
  refine ⟨l, ?_, hq⟩
  rw [sysM_map]
  cases hr : x c s <;> rw [hr] at hl <;> exact hl

theorem Appends.bind_nil {x : SysM α} {f : α → SysM β} (hx : Appends P x)
    (hf : ∀ a, Emits (fun _ => False) (f a)) : Appends P (x >>= f) :=
  Appends.bind hx hf (fun _ _ h₁ h₂ => by rwa [List.eq_nil_iff_forall_not_mem.mpr h₂, List.append_nil])
    fun _ h => h

theorem Emits.ite {p : Prop} [Decidable p] {x y : SysM α} (hx : Emits Q x) (hy : Emits Q y) :
    Emits Q (if p then x else y) :=
  Appends.ite hx hy

theorem Emits.forM {f : γ → SysM PUnit} :
    ∀ (l : List γ), (∀ a ∈ l, Emits Q (f a)) → Emits Q (l.forM f)
  | [], _ => Emits.pure _
  | a :: l, h => by
    rw [List.forM_cons']
    exact (h a (List.mem_cons_self _ _)).bind fun _ =>
      Emits.forM l fun b hb => h b (List.mem_cons_of_mem _ hb)

theorem Emits.foldlM {f : β → γ → SysM β} :
    ∀ (l : List γ) (init : β), (∀ acc, ∀ a ∈ l, Emits Q (f acc a)) → Emits Q (l.foldlM f init)
  | [], _, _ => Emits.pure _
  | a :: l, init, h => by
    rw [List.foldlM_cons]
    exact (h init a (List.mem_cons_self _ _)).bind fun b =>
      Emits.foldlM l b fun acc c hc => h acc c (List.mem_cons_of_mem _ hc)

theorem Emits.perform {e : Effect} {exc : PyExc} (h : Q e) : Emits Q (System.perform env e exc) :=
  (Appends.perform env e exc).mono fun _ hl => by simpa [hl] using h

theorem Emits.callHelper {e : Effect} {fn : List Char} (h : Q e) : Emits Q (System.callHelper env e fn) :=
  (Appends.callHelper env e fn).mono fun _ hl => by simpa [hl] using h

theorem Emits.execute {argv : List (List Char)} (h : Q (.execute argv)) :
    Emits Q (System.execute env argv) :=
  (Appends.execute env argv).mono fun _ hl => by simpa [hl] using h

theorem Emits.pause {e : Effect} (h : Q e) : Emits Q (System.pause env e) :=
  fun _ _ => ⟨[e], by simp [System.pause], by simpa using h⟩

theorem Emits.writeFile {path content : List Char} (h : Q (.writeFile path content)) :
    Emits Q (writeFile env path content) :=
  (Emits.perform env h).bind fun _ => Emits.modify fun _ => rfl

theorem Emits.appendFile {path content : List Char} (h : Q (.appendFile path content)) :
    Emits Q (appendFile env path content) :=
  (Emits.perform env h).bind fun _ => Emits.modify fun _ => rfl

theorem Emits.removeFile {path : List Char} (h : Q (.removeFile path)) :
    Emits Q (removeFile env path) :=
  (Emits.perform env h).bind fun _ => Emits.modify fun _ => rfl

theorem AppendsM.liftSys {x : SysM α} (h : Appends P x) : AppendsM P (liftSys x) := fun w => by
  obtain ⟨l, hl, hp⟩ := h w.kernel.numvfs w.sys
  refine ⟨l, ?_, hp⟩
  rw [liftSys_run]
  cases hr : x w.kernel.numvfs w.sys <;> rw [hr] at hl <;> exact hl

theorem AppendsM.bind {x : M α} {f : α → M β} (hx : AppendsM P x) (hf : ∀ a, AppendsM R (f a))
    (hPR : ∀ l₁ l₂, P l₁ → R l₂ → S (l₁ ++ l₂)) (hP : ∀ l, P l → S l) : AppendsM S (x >>= f) :=
  fun w => by
    obtain ⟨l₁, h₁, p₁⟩ := hx w
    rw [m_run_bind]
    rcases hr : x.run w with ⟨a, w₁⟩ | ⟨e, w₁⟩ <;> rw [hr] at h₁ <;>
      simp only [EStateM.Result.state_ok, EStateM.Result.state_error] at h₁
    · obtain ⟨l₂, h₂, r₂⟩ := hf a w₁
      exact ⟨l₁ ++ l₂, by rw [EStateM.Result.andThen_ok, h₂, h₁, List.append_assoc], hPR _ _ p₁ r₂⟩
    · exact ⟨l₁, h₁, hP _ p₁⟩

theorem EmitsM.liftSys {x : SysM α} (h : Emits Q x) : EmitsM Q (liftSys x) := AppendsM.liftSys h

theorem EmitsM.mono {Q' : Effect → Prop} {x : M α} (h : EmitsM Q x) (hQ : ∀ e, Q e → Q' e) :
    EmitsM Q' x :=
  fun w =>
    let ⟨l, hl, hq⟩ := h w
    ⟨l, hl, fun e he => hQ e (hq e he)⟩

theorem EmitsM.pure (a : α) : EmitsM Q (pure a : M α) := fun _ => ⟨[], by simp, by simp⟩

theorem EmitsM.throw (e : PyExc) : EmitsM Q (throw e : M α) := fun _ => ⟨[], by simp, by simp⟩

theorem EmitsM.bind {x : M α} {f : α → M β} (hx : EmitsM Q x) (hf : ∀ a, EmitsM Q (f a)) :
    EmitsM Q (x >>= f) :=
  AppendsM.bind hx hf (fun _ _ h₁ h₂ => List.forall_mem_append.mpr ⟨h₁, h₂⟩) fun _ h => h

theorem EmitsM.ite {p : Prop} [Decidable p] {x y : M α} (hx : EmitsM Q x) (hy : EmitsM Q y) :
    EmitsM Q (if p then x else y) := by
  split
  · exact hx
  · exact hy

theorem EmitsM.tryCatch {x : M α} {h : PyExc → M α} (hx : EmitsM Q x)
    (hh : ∀ e, EmitsM Q (h e)) : EmitsM Q (tryCatch x h) := fun w => by
  obtain ⟨l₁, h₁, q₁⟩ := hx w
  rw [m_run_tryCatch]
  rcases hr : x.run w with ⟨a, w₁⟩ | ⟨e, w₁⟩ <;> rw [hr] at h₁ <;>
    simp only [EStateM.Result.state_ok, EStateM.Result.state_error] at h₁
  · exact ⟨l₁, h₁, q₁⟩
  · obtain ⟨l₂, h₂, q₂⟩ := hh e w₁
    exact ⟨l₁ ++ l₂, by rw [EStateM.Result.handle_error, h₂, h₁, List.append_assoc],
      List.forall_mem_append.mpr ⟨q₁, q₂⟩⟩

theorem EmitsM.writeNumvfs {ifname path : List Char} {numvfs : Int}
    (h : Q (.writeNumvfs ifname numvfs)) : EmitsM Q (writeNumvfs env ifname path numvfs) :=
  fun w => ⟨[.writeNumvfs ifname numvfs], by rw [writeNumvfs_run]; split <;> simp, by simpa using h⟩

theorem EmitsM.foldlM {f : β → γ → M β} :
    ∀ (l : List γ) (init : β), (∀ acc, ∀ a ∈ l, EmitsM Q (f acc a)) → EmitsM Q (l.foldlM f init)
  | [], _, _ => EmitsM.pure _
  | a :: l, init, h => by
    rw [List.foldlM_cons]
    exact (h init a (List.mem_cons_self _ _)).bind fun b =>
      EmitsM.foldlM l b fun acc c hc => h acc c (List.mem_cons_of_mem _ hc)

end Rules

/-! ### Runs that return

`Appends` speaks of every run. What a run appends when it returns normally can say more, such as
the last command it ran or how the value returned came about; `Returns` says that, `AppendsOk` is
its case that ignores the value, and `Since` carries both into triples over `M`. -/

/-- Every run of `x` that returns `a` appends to the trace a list of actions `l` with `R a l`. -/
def Returns {α : Type} (R : α → List Effect → Prop) (x : SysM α) : Prop :=
  ∀ c s, (x c s).Holds (fun a s' => ∃ l, s'.trace = s.trace ++ l ∧ R a l) fun _ _ => True

/-- Every run of `x` that returns appends to the trace a list of actions with `P`. -/
def AppendsOk {α : Type} (P : List Effect → Prop) (x : SysM α) : Prop := Returns (fun _ => P) x

/-- The actions appended to the trace since it was `t₀` have `P`. -/
def Since (t₀ : List Effect) (P : List Effect → Prop) (w : World) : Prop :=
  ∃ l, w.sys.trace = t₀ ++ l ∧ P l

section Ok
variable {α β : Type} {P R S : List Effect → Prop} {Q : Effect → Prop} (env : Env)
  {U V : α → List Effect → Prop}

theorem Returns.of_appends {x : SysM α} (h : Appends P x) : Returns (fun _ => P) x := fun c s => by
  obtain ⟨l, hl, hp⟩ := h c s
  revert hl
  cases x c s with
  | ok _ _ => exact fun hl => ⟨l, hl, hp⟩
  | error _ _ => exact fun _ => trivial

theorem Returns.mono {x : SysM α} (h : Returns U x) (hR : ∀ a l, U a l → V a l) : Returns V x :=
  fun c s => (h c s).mono (fun a _ ⟨l, hl, hr⟩ => ⟨l, hl, hR a l hr⟩) fun _ _ h => h

theorem Returns.bind {x : SysM α} {f : α → SysM β} {S : α → β → List Effect → Prop}
    {T : β → List Effect → Prop} (hx : Returns U x) (hf : ∀ a, Returns (S a) (f a))
    (hRS : ∀ a b l₁ l₂, U a l₁ → S a b l₂ → T b (l₁ ++ l₂)) : Returns T (x >>= f) := fun c s => by
  rw [sysM_bind, EStateM.Result.holds_andThen]
  exact (hx c s).mono (fun a s₁ ⟨l₁, h₁, r₁⟩ => (hf a c s₁).mono (fun b _ ⟨l₂, h₂, s₂⟩ =>
    ⟨l₁ ++ l₂, by rw [h₂, h₁, List.append_assoc], hRS a b _ _ r₁ s₂⟩) fun _ _ h => h) fun _ _ h => h

theorem Returns.pure {a : α} (h : U a []) : Returns U (pure a : SysM α) :=
  fun _ _ => ⟨[], (List.append_nil _).symm, h⟩

theorem Returns.throw (e : PyExc) : Returns U (throw e : SysM α) := fun _ _ => trivial

theorem Returns.ite {p : Prop} [Decidable p] {x y : SysM α} (hx : p → Returns U x)
    (hy : ¬p → Returns U y) : Returns U (if p then x else y) := by
  split
  · exact hx ‹_›
  · exact hy ‹_›

theorem AppendsOk.of_appends {x : SysM α} (h : Appends P x) : AppendsOk P x := Returns.of_appends h

theorem AppendsOk.mono {x : SysM α} (h : AppendsOk P x) (hP : ∀ l, P l → R l) : AppendsOk R x :=
  Returns.mono h fun _ => hP

theorem AppendsOk.bind {x : SysM α} {f : α → SysM β} (hx : AppendsOk P x)
    (hf : ∀ a, AppendsOk R (f a)) (hPR : ∀ l₁ l₂, P l₁ → R l₂ → S (l₁ ++ l₂)) :
    AppendsOk S (x >>= f) :=
  Returns.bind hx hf fun _ _ => hPR

theorem AppendsOk.ite {p : Prop} [Decidable p] {x y : SysM α} (hx : p → AppendsOk P x)
    (hy : ¬p → AppendsOk P y) : AppendsOk P (if p then x else y) :=
  Returns.ite hx hy

theorem Triple.since_returns {t₀ : List Effect} {P : List Effect → Prop} {x : SysM α}
    (he : Emits Q x) (hok : Returns U x) (hP : ∀ l l', P l → (∀ e ∈ l', Q e) → P (l ++ l'))
    (hR : ∀ a l l', P l → (∀ e ∈ l', Q e) → U a l' → V a (l ++ l')) :
    Triple (Since t₀ P) (liftSys x) (fun a => Since t₀ (V a)) (Since t₀ P) := by
  rintro w ⟨l, hl, hp⟩
  obtain ⟨l', hl', hq⟩ := he w.kernel.numvfs w.sys
  have h := hok w.kernel.numvfs w.sys
  rw [liftSys_run]
  revert hl' h
  cases x w.kernel.numvfs w.sys with
  | ok a s =>
    rintro hl' ⟨l'', hl'', hr⟩
    change s.trace = _ at hl'
    have := List.append_cancel_left (hl'.symm.trans hl'')
    subst this
    exact ⟨l ++ l', by show s.trace = _; rw [hl', hl, List.append_assoc], hR a l l' hp hq hr⟩
  | error _ s =>
    intro hl' _
    change s.trace = _ at hl'
    exact ⟨l ++ l', by show s.trace = _; rw [hl', hl, List.append_assoc], hP l l' hp hq⟩

theorem Triple.since_liftSys {t₀ : List Effect} {P S : List Effect → Prop} {x : SysM α}
    (he : Emits Q x) (hok : AppendsOk R x) (hP : ∀ l l', P l → (∀ e ∈ l', Q e) → P (l ++ l'))
    (hR : ∀ l l', P l → (∀ e ∈ l', Q e) → R l' → S (l ++ l')) :
    Triple (Since t₀ P) (liftSys x) (fun _ => Since t₀ S) (Since t₀ P) :=
  Triple.since_returns he hok hP fun _ => hR

theorem Triple.since_emitsM {t₀ : List Effect} {P S : List Effect → Prop} {x : M α}
    (h : EmitsM Q x) (hP : ∀ l l', P l → (∀ e ∈ l', Q e) → S (l ++ l')) :
    Triple (Since t₀ P) x (fun _ => Since t₀ S) (Since t₀ S) := by
  rintro w ⟨l, hl, hp⟩
  obtain ⟨l', hl', hq⟩ := h w
  have hs : Since t₀ S (x.run w).state := ⟨l ++ l', by rw [hl', hl, List.append_assoc], hP l l' hp hq⟩
  revert hs
  cases x.run w <;> exact id

end Ok

/-! ### Runs with known actions -/

/-- Every run of `x` takes exactly the actions `L` when it returns, and a prefix of them when it
raises. -/
def Takes {α : Type} (L : List Effect) (x : SysM α) : Prop :=
  ∀ c s, ∃ l, (x c s).state.trace = s.trace ++ l ∧ (x c s).Holds (fun _ _ => l = L) fun _ _ => l <+: L

section Takes
variable {α β γ : Type} {L L₁ L₂ : List Effect} (env : Env)

theorem Takes.pure (a : α) : Takes [] (pure a : SysM α) :=
  fun _ _ => ⟨[], (List.append_nil _).symm, rfl⟩

theorem Takes.execute (argv : List (List Char)) : Takes [.execute argv] (System.execute env argv) :=
  fun c s => by
    refine ⟨[.execute argv], ?_, ?_⟩ <;> rw [execute_run, perform_run] <;> split
    all_goals first | rfl | exact List.prefix_refl _

theorem Takes.bind {x : SysM α} {f : α → SysM β} (hx : Takes L₁ x) (hf : ∀ a, Takes L₂ (f a)) :
    Takes (L₁ ++ L₂) (x >>= f) := fun c s => by
  obtain ⟨l₁, h₁, r₁⟩ := hx c s
  rw [sysM_bind]
  rcases hr : x c s with ⟨a, s₁⟩ | ⟨e, s₁⟩ <;> rw [hr] at h₁ r₁ <;>
    simp only [EStateM.Result.state_ok, EStateM.Result.state_error] at h₁
  · obtain ⟨l₂, h₂, r₂⟩ := hf a c s₁
    refine ⟨l₁ ++ l₂, by rw [EStateM.Result.andThen_ok, h₂, h₁, List.append_assoc], ?_⟩
    have r₁ : l₁ = L₁ := r₁
    rw [EStateM.Result.andThen_ok, r₁]
    revert r₂
    cases f a c s₁ with
    | ok _ _ => exact congrArg (L₁ ++ ·)
    | error _ _ => exact (List.prefix_append_right_inj _).mpr
  · exact ⟨l₁, h₁, r₁.trans (List.prefix_append _ _)⟩

theorem Takes.ite {p : Prop} [Decidable p] {x y : SysM α} (hx : p → Takes L x)
    (hy : ¬p → Takes L y) : Takes L (if p then x else y) := by
  split
  · exact hx ‹_›
  · exact hy ‹_›

theorem Takes.forM {f : γ → SysM PUnit} {L : γ → List Effect} :
    ∀ (l : List γ), (∀ a ∈ l, Takes (L a) (f a)) → Takes (l.flatMap L) (l.forM f)
  | [], _ => Takes.pure _
  | a :: l, h => by
    rw [List.forM_cons', List.flatMap_cons]
    exact (h a (List.mem_cons_self _ _)).bind fun _ =>
      Takes.forM l fun b hb => h b (List.mem_cons_of_mem _ hb)

end Takes

/-! ### What comes before an action -/

/-- Every action `e` of `l`, at each place it occurs, has `G e` of the actions before it. -/
def Preceded (G : Effect → List Effect → Prop) (l : List Effect) : Prop :=
  ∀ pre e post, l = pre ++ e :: post → G e pre

section Preceded
variable {G : Effect → List Effect → Prop} {l l' : List Effect}

theorem preceded_nil : Preceded G [] := fun pre _ _ h => by simp at h

theorem Preceded.append (h : Preceded G l) (h' : ∀ e ∈ l', G e l)
    (hG : ∀ e pre l'', G e pre → G e (pre ++ l'')) : Preceded G (l ++ l') := by
  intro pre e post he
  rcases List.append_eq_append_iff.mp he with ⟨a, rfl, rfl⟩ | ⟨c, rfl, hc⟩
  · exact hG _ _ _ (h' e (List.mem_append_right _ (List.mem_cons_self _ _)))
  · rcases c with _ | ⟨x, c⟩
    · rw [List.nil_append] at hc
      simpa using h' e (hc ▸ List.mem_cons_self _ _)
    · obtain ⟨rfl, -⟩ := List.cons.inj hc
      exact h pre _ c rfl

end Preceded

end SriovConfig.Trace
