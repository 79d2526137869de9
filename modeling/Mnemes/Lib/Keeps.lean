import Mnemes.Lib.Proc

/-!
# What the actions of a process keep

`t.Keeps I G Q` says that, as long as the states it finds satisfy `I`, every action of the process
`t` changes the state within `G`, and that `t` ends with a result in `Q`. No memory of earlier
states is needed, so the judgement composes like a postcondition. In a run of a service whose calls
keep within guarantees of their own wherever `I` holds, every step from states that satisfy `I` is
within the guarantee of its call (`Service.Keepers.step`), and every result is one of its call
(`Service.Keepers.result`); and `I` is an invariant of the run where the guarantees preserve it
(`Service.Kept.invariant`).
-/

namespace Concurrency

variable {σ ι ε χ α β : Type}

namespace Proc

/-- As long as the states it finds satisfy `I`, the process changes them within `G`, and it ends
with a result in `Q`. -/
def Keeps (I : σ → Prop) (G : σ → σ → Prop) (Q : α → Prop) : Proc σ ι ε α → Prop
  | .done a => Q a
  | .act guard step next => ∀ s x, guard s = true → I s →
    G s (step s x).1 ∧ (next s x).Keeps I G Q

/-- The same of a process that may fail, with nothing said of its errors. -/
def KeepsOk (I : σ → Prop) (G : σ → σ → Prop) (Q : α → Prop) (t : ExceptT χ (Proc σ ι ε) α) :
    Prop :=
  t.run.Keeps I G fun r => ∀ a, r = .ok a → Q a

variable {I I' : σ → Prop} {G G' : σ → σ → Prop} {Q Q' : α → Prop} {R : β → Prop}

/-- The rule of consequence. -/
theorem Keeps.mono {t : Proc σ ι ε α} (ht : t.Keeps I G Q) (hI : ∀ s, I' s → I s)
    (hG : ∀ s s', I' s → G s s' → G' s s') (hQ : ∀ a, Q a → Q' a) : t.Keeps I' G' Q' := by
  induction t with
  | done a => exact hQ a ht
  | act guard step next ih =>
    intro s x hg hs
    obtain ⟨h1, h2⟩ := ht s x hg (hI s hs)
    exact ⟨hG s _ hs h1, ih s x h2⟩

/-- The rule of composition. -/
theorem Keeps.bind {t : Proc σ ι ε α} {f : α → Proc σ ι ε β} (ht : t.Keeps I G Q)
    (hf : ∀ a, Q a → (f a).Keeps I G R) : (t.bind f).Keeps I G R := by
  induction t with
  | done a => exact hf a ht
  | act guard step next ih =>
    intro s x hg hs
    obtain ⟨h1, h2⟩ := ht s x hg hs
    exact ⟨h1, ih s x h2⟩

/-- A finished process keeps anything. -/
theorem keeps_done {a : α} (ha : Q a) : (Proc.done a : Proc σ ι ε α).Keeps I G Q := ha

/-- One action. -/
theorem keeps_atomic {f : σ → ι → α × σ × List ε}
    (hf : ∀ s x, I s → G s (f s x).2.1 ∧ Q (f s x).1) : (Proc.atomic f).Keeps I G Q :=
  fun s x _ hs => hf s x hs

/-- The result of a process, with what is done with it. -/
theorem Keeps.map {t : Proc σ ι ε α} {f : α → β} (ht : t.Keeps I G Q) (hf : ∀ a, Q a → R (f a)) :
    (f <$> t).Keeps I G R :=
  ht.bind fun a ha => keeps_done (hf a ha)

section
variable {t : ExceptT χ (Proc σ ι ε) α} {f : α → ExceptT χ (Proc σ ι ε) β}

/-- The rule of consequence for a process that may fail. -/
theorem KeepsOk.mono (ht : KeepsOk I G Q t) (hI : ∀ s, I' s → I s)
    (hG : ∀ s s', I' s → G s s' → G' s s') (hQ : ∀ a, Q a → Q' a) : KeepsOk I' G' Q' t :=
  Keeps.mono ht hI hG fun _ hr a ha => hQ a (hr a ha)

/-- Sequencing: an error ends the whole. -/
theorem KeepsOk.bind (ht : KeepsOk I G Q t) (hf : ∀ a, Q a → KeepsOk I G R (f a)) :
    KeepsOk I G R (t >>= f) := by
  refine Keeps.bind ht fun r hr => ?_
  cases r with
  | ok a => exact hf a (hr a rfl)
  | error e => exact fun b hb => by cases hb

/-- A process that may fail is a process that ends with an error or a result. -/
theorem KeepsOk.keeps (ht : KeepsOk I G Q t) : t.run.Keeps I G fun _ => True :=
  Keeps.mono ht (fun _ h => h) (fun _ _ _ h => h) fun _ _ => trivial

/-- A result without an action keeps everything. -/
theorem keepsOk_pure {a : α} (ha : Q a) : KeepsOk I G Q (pure a : ExceptT χ (Proc σ ι ε) α) :=
  fun _ h => by cases h; exact ha

/-- An error without an action keeps everything. -/
theorem keepsOk_throw {e : χ} : KeepsOk I G Q (throw e : ExceptT χ (Proc σ ι ε) α) :=
  fun _ h => by cases h

/-- A value or an error. -/
theorem keepsOk_except {r : Except χ α} (hr : ∀ a, r = .ok a → Q a) :
    KeepsOk I G Q (liftM r : ExceptT χ (Proc σ ι ε) α) := hr

/-- A process that cannot fail. -/
theorem keepsOk_lift {t : Proc σ ι ε α} (ht : t.Keeps I G Q) :
    KeepsOk I G Q (liftM t : ExceptT χ (Proc σ ι ε) α) :=
  Keeps.bind ht fun _ ha _ h => by cases h; exact ha

/-- One action that may fail. -/
theorem keepsOk_atomic {f : σ → ι → Except χ α × σ × List ε}
    (hf : ∀ s x, I s → G s (f s x).2.1 ∧ ∀ a, (f s x).1 = .ok a → Q a) :
    KeepsOk I G Q (ExceptT.mk (Proc.atomic f)) :=
  keeps_atomic hf

/-- A process for each element of a list. -/
theorem keepsOk_mapM {γ : Type} {f : γ → ExceptT χ (Proc σ ι ε) α}
    (hf : ∀ c, KeepsOk I G Q (f c)) (cs : List γ) :
    KeepsOk I G (fun as => ∀ a ∈ as, Q a) (cs.mapM f) := by
  induction cs with
  | nil =>
    rw [List.mapM_nil]
    exact keepsOk_pure fun a ha => absurd ha List.not_mem_nil
  | cons c cs ih =>
    rw [List.mapM_cons]
    refine (hf c).bind fun a ha => ih.bind fun as has => keepsOk_pure fun b hb => ?_
    rcases List.mem_cons.1 hb with rfl | hb
    · exact ha
    · exact has b hb

/-- A call under a lock. -/
theorem keepsOk_locked {free : σ → Bool} {take give : σ → σ} (htake : ∀ s, I s → G s (take s))
    (hgive : ∀ s, I s → G s (give s)) (ht : KeepsOk I G Q t) :
    KeepsOk I G Q (ExceptT.mk (Proc.locked free take give t.run)) := by
  intro s x _ hs
  exact ⟨htake s hs, Keeps.bind ht fun r hr s' _ _ hs' => ⟨hgive s' hs', hr⟩⟩

end

end Proc

/-! ## Services -/

namespace Service

variable {κ : Type}

/-- Where `I` holds, the calls of `A` keep within their guarantees, dropped ones included, and end
with their results. -/
structure Keepers (S : Service κ σ ι ε α) (A : κ → Prop) (I : σ → Prop) (G : κ → σ → σ → Prop)
    (Q : κ → α → Prop) : Prop where
  body : ∀ i k, A k → (S.body i k).Keeps I (G k) (Q k)
  release : ∀ i k s, A k → I s → G k s (S.release i s)

/-- What is left of every call keeps within the guarantee of the call and ends with a result of it;
all calls are of `A`. -/
def Kept (A : κ → Prop) (I : σ → Prop) (G : κ → σ → σ → Prop) (Q : κ → α → Prop)
    (c : Config κ σ ι ε α) : Prop :=
  ∀ i k t, c.slots i = .live k t → A k ∧ t.Keeps I (G k) (Q k)

variable {S : Service κ σ ι ε α} {A : κ → Prop} {I : σ → Prop} {G : κ → σ → σ → Prop}
  {Q : κ → α → Prop} {c c' : Config κ σ ι ε α} {cmd : Command κ ι}

/-- A service without calls has kept everything. -/
theorem Kept.init {s : σ} : Kept A I G Q (Service.init s : Config κ σ ι ε α) :=
  fun _ _ _ h => by cases h

/-- A step from a state that satisfies `I` admits a call and changes nothing, or is within the
guarantee of its call. -/
theorem Kept.exec_step (hS : S.Keepers A I G Q) (hc : Kept A I G Q c) (hI : I c.hist.state)
    (h : S.exec c cmd = some c') :
    c'.hist.state = c.hist.state ∨
      ∃ k t, c.slots cmd.tid = .live k t ∧ A k ∧ G k c.hist.state c'.hist.state := by
  cases cmd with
  | start i k => exact .inl (by rw [(S.exec_start h).2.1])
  | run i x =>
    obtain ⟨k, guard, step, next, hslot, hg, hhist, -⟩ := S.exec_run h
    obtain ⟨hk, hkeeps⟩ := hc i k _ hslot
    refine .inr ⟨k, _, hslot, hk, ?_⟩
    rw [hhist]
    exact (hkeeps _ x hg hI).1
  | drop i =>
    obtain ⟨k, t, hslot, hhist, -⟩ := S.exec_drop h
    obtain ⟨hk, -⟩ := hc i k _ hslot
    refine .inr ⟨k, _, hslot, hk, ?_⟩
    rw [hhist]
    exact hS.release i k _ hk hI

/-- One command of a service of keepers leaves it kept. -/
theorem Kept.exec (hS : S.Keepers A I G Q) (hc : Kept A I G Q c) (hI : I c.hist.state)
    (hcmd : ∀ i k, cmd = .start i k → A k) (h : S.exec c cmd = some c') : Kept A I G Q c' := by
  intro i k t hslot
  by_cases hi : i = cmd.tid
  · subst hi
    cases cmd with
    | start j k' =>
      simp only [Command.tid, (S.exec_start h).2.2, Function.update_self] at hslot
      cases hslot
      exact ⟨hcmd j k rfl, hS.body j k (hcmd j k rfl)⟩
    | run j x =>
      obtain ⟨k', guard, step, next, hold, hg, hhist, hslots⟩ := S.exec_run h
      simp only [Command.tid, hslots, Function.update_self] at hslot
      cases hslot
      obtain ⟨hk, hkeeps⟩ := hc j k _ hold
      exact ⟨hk, (hkeeps _ x hg hI).2⟩
    | drop j =>
      obtain ⟨_, _, _, _, hslots⟩ := S.exec_drop h
      simp only [Command.tid, hslots, Function.update_self] at hslot
      cases hslot
  · rw [S.exec_slots_ne h hi] at hslot
    exact hc i k t hslot

/-- A stronger invariant, of fewer calls. -/
theorem Keepers.mono {A' : κ → Prop} {I' : σ → Prop} (hS : S.Keepers A I G Q)
    (hA : ∀ k, A' k → A k) (hI : ∀ s, I' s → I s) : S.Keepers A' I' G Q where
  body i k hk := (hS.body i k (hA k hk)).mono hI (fun _ _ _ h => h) fun _ h => h
  release i k s hk hs := hS.release i k s (hA k hk) (hI s hs)

/-- Where `I` holds in every state of a run but its last, what is left of the calls keeps on. -/
theorem Kept.run (hS : S.Keepers A I G Q) (hc : Kept A I G Q c) {cmds : List (Command κ ι)}
    (hI : ∀ pre post m, cmds = pre ++ post → post ≠ [] → S.run c pre = some m → I m.hist.state)
    (hcmds : ∀ i k, .start i k ∈ cmds → A k) (h : S.run c cmds = some c') : Kept A I G Q c' := by
  induction cmds generalizing c with
  | nil =>
    cases h
    exact hc
  | cons cmd cmds ih =>
    obtain ⟨m, hstep, hrest⟩ := S.run_cons.1 h
    have hm : Kept A I G Q m := hc.exec hS (hI [] _ c rfl (List.cons_ne_nil _ _) rfl)
      (fun i k hk => hcmds i k (hk ▸ List.mem_cons_self)) hstep
    refine ih hm (fun pre post m' hsplit hpost hpre => ?_)
      (fun i k hk => hcmds i k (List.mem_cons_of_mem _ hk)) hrest
    exact hI (cmd :: pre) post m' (by rw [hsplit]; rfl) hpost (S.run_cons.2 ⟨m, hstep, hpre⟩)

variable {s : σ} {cmds : List (Command κ ι)}

/-- A step of a run, where `I` holds in every state of the run before it. -/
theorem Keepers.step (hS : S.Keepers A I G Q)
    (hI : ∀ pre post m, cmds = pre ++ post → S.run (Service.init s) pre = some m → I m.hist.state)
    (hcmds : ∀ i k, .start i k ∈ cmds → A k) (h : S.run (Service.init s) cmds = some c)
    (hstep : S.exec c cmd = some c') :
    c'.hist.state = c.hist.state ∨
      ∃ k t, c.slots cmd.tid = .live k t ∧ A k ∧ G k c.hist.state c'.hist.state :=
  (Kept.init.run hS (fun pre post m hsplit _ => hI pre post m hsplit) hcmds h).exec_step hS
    (hI cmds [] c (List.append_nil _).symm h) hstep

/-- A run is related by every preorder that the guarantees are within, where `I` holds in every
state of it. -/
theorem Kept.along {R : σ → σ → Prop} (hS : S.Keepers A I G Q) (hrefl : ∀ s, R s s)
    (htrans : ∀ s s' s'', R s s' → R s' s'' → R s s'')
    (hR : ∀ k s s', A k → I s → G k s s' → R s s') (hc : Kept A I G Q c)
    (hI : ∀ pre post m, cmds = pre ++ post → S.run c pre = some m → I m.hist.state)
    (hcmds : ∀ i k, .start i k ∈ cmds → A k) (h : S.run c cmds = some c') :
    R c.hist.state c'.hist.state := by
  induction cmds generalizing c with
  | nil =>
    cases h
    exact hrefl _
  | cons cmd cmds ih =>
    obtain ⟨m, hstep, hrest⟩ := S.run_cons.1 h
    have hIc : I c.hist.state := hI [] _ c rfl rfl
    have hm : Kept A I G Q m :=
      hc.exec hS hIc (fun i k hk => hcmds i k (hk ▸ List.mem_cons_self)) hstep
    refine htrans _ _ _ ?_ (ih hm (fun pre post m' hsplit hpre => ?_)
      (fun i k hk => hcmds i k (List.mem_cons_of_mem _ hk)) hrest)
    · rcases hc.exec_step hS hIc hstep with hstate | ⟨k, t, -, hk, hg⟩
      · rw [hstate]
        exact hrefl _
      · exact hR k _ _ hk hIc hg
    · exact hI (cmd :: pre) post m' (by rw [hsplit]; rfl) (S.run_cons.2 ⟨m, hstep, hpre⟩)

/-- The result of a call in a run, where `I` holds in every state of the run. -/
theorem Keepers.result (hS : S.Keepers A I G Q)
    (hI : ∀ pre post m, cmds = pre ++ post → S.run (Service.init s) pre = some m → I m.hist.state)
    (hcmds : ∀ i k, .start i k ∈ cmds → A k) (h : S.run (Service.init s) cmds = some c) {i : Tid}
    {k : κ} {a : α} (hslot : c.slots i = .live k (.done a)) : Q k a :=
  (Kept.init.run hS (fun pre post m hsplit _ => hI pre post m hsplit) hcmds h i k _ hslot).2

section
variable (hS : S.Keepers A I G Q) (hG : ∀ k s s', A k → I s → G k s s' → I s')
include hS hG

/-- `I` is an invariant of the runs whose calls are of `A`, if the guarantees preserve it. -/
theorem Kept.invariant (hc : Kept A I G Q c) (hI : I c.hist.state)
    (hcmds : ∀ i k, .start i k ∈ cmds → A k) (h : S.run c cmds = some c') :
    Kept A I G Q c' ∧ I c'.hist.state := by
  induction cmds generalizing c with
  | nil =>
    cases h
    exact ⟨hc, hI⟩
  | cons cmd cmds ih =>
    obtain ⟨m, hstep, hrest⟩ := S.run_cons.1 h
    refine ih (hc.exec hS hI (fun i k hk => hcmds i k (hk ▸ List.mem_cons_self)) hstep) ?_
      (fun i k hk => hcmds i k (List.mem_cons_of_mem _ hk)) hrest
    rcases hc.exec_step hS hI hstep with hstate | ⟨k, t, -, hk, hg⟩
    · rw [hstate]
      exact hI
    · exact hG k _ _ hk hI hg

/-- The same, where `I` holds at the start and the guarantees preserve it. -/
theorem Kept.related {R : σ → σ → Prop} (hrefl : ∀ s, R s s)
    (htrans : ∀ s s' s'', R s s' → R s' s'' → R s s'')
    (hR : ∀ k s s', A k → I s → G k s s' → R s s') (hc : Kept A I G Q c) (hI : I c.hist.state)
    (hcmds : ∀ i k, .start i k ∈ cmds → A k) (h : S.run c cmds = some c') :
    R c.hist.state c'.hist.state := by
  refine hc.along hS hrefl htrans hR (fun pre post m hsplit hpre => ?_) hcmds h
  subst hsplit
  exact (hc.invariant hS hG hI
    (fun i k hk => hcmds i k (List.mem_append_left _ hk)) hpre).2

end

end Service

end Concurrency
