import Mnemes.Lib.Proc

/-!
# What each action of a process does

`Proc.Each R past t` says that every action the process `t` can come to, whatever the states it
finds, is one of `R`: the events the process recorded before it, the state it found and the choice
it drew, the state it left with the events it recorded, and the result if it was the last action.
What holds of each action of a call's process holds of each step of that call in every run
(`Service.Steps.exec_run`), and the result of a call is the result of its last step
(`Service.run_result`).
-/

namespace Concurrency

variable {σ ι ε α β : Type}

/-- One action of a process. -/
structure Action (σ ι ε α : Type) where
  past : List ε
  found : σ
  choice : ι
  left : σ
  events : List ε
  result : Option α

namespace Proc

/-- The result of a process that is finished. -/
def result? : Proc σ ι ε α → Option α
  | .done a => some a
  | .act .. => none

/-- Every action of the process, which recorded `past` so far, is one of `R`. -/
def Each (R : Action σ ι ε α → Prop) : List ε → Proc σ ι ε α → Prop
  | _, .done _ => True
  | past, .act guard step next => ∀ s x, guard s = true →
    R ⟨past, s, x, (step s x).1, (step s x).2, (next s x).result?⟩ ∧
      (next s x).Each R (past ++ (step s x).2)

variable {R : Action σ ι ε α → Prop} {past : List ε}

/-- A process that is done has no steps. -/
theorem each_done {a : α} : (Proc.done a : Proc σ ι ε α).Each R past := trivial

/-- One action of a process that may fail, followed by the rest. -/
theorem Each.attempt_atomic {χ : Type} {R : Action σ ι ε (Except χ β) → Prop}
    {f : σ → ι → Except χ α × σ × List ε} {k : α → ExceptT χ (Proc σ ι ε) β}
    (hf : ∀ s x, match (f s x).1 with
      | .ok a => R ⟨past, s, x, (f s x).2.1, (f s x).2.2, (k a).run.result?⟩ ∧
          (k a).run.Each R (past ++ (f s x).2.2)
      | .error e => R ⟨past, s, x, (f s x).2.1, (f s x).2.2, some (.error e)⟩) :
    (ExceptT.mk (Proc.atomic f) >>= k).run.Each R past := by
  intro s x _
  have h := hf s x
  revert h
  show _ → R ⟨past, s, x, _, _, (ExceptT.bindCont k (f s x).1).result?⟩ ∧
    Each R _ (ExceptT.bindCont k (f s x).1)
  cases (f s x).1 with
  | ok a => exact id
  | error e => exact fun h => ⟨h, each_done⟩

end Proc

/-- The events a call recorded. -/
def Hist.own (h : Hist σ ε) (i : Tid) : List ε := (h.trace.filter (·.1 = i)).map (·.2)

namespace Hist

variable {h : Hist σ ε} {i j : Tid} {p : σ × List ε}

/-- An event is a call's own exactly if the trace has it under the call. -/
theorem mem_own {e : ε} : e ∈ h.own i ↔ (i, e) ∈ h.trace := by
  simp only [own, List.mem_map, List.mem_filter, decide_eq_true_eq]
  constructor
  · rintro ⟨⟨j, e'⟩, ⟨hmem, rfl⟩, rfl⟩
    exact hmem
  · exact fun hmem => ⟨(i, e), ⟨hmem, rfl⟩, rfl⟩

/-- A step of a call adds its events to the call's own. -/
theorem own_after_self : (h.after i p).own i = h.own i ++ p.2 := by
  simp [own, List.filter_map, Function.comp_def]

/-- A step of another call adds nothing to a call's own events. -/
theorem own_after_of_ne (hij : i ≠ j) : (h.after j p).own i = h.own i := by
  simp [own, List.filter_map, Function.comp_def, hij.symm]

/-- A call without events has none of its own. -/
theorem Unseen.own_eq_nil (hu : h.Unseen i) : h.own i = [] := by
  simpa [own, List.filter_eq_nil_iff] using fun j e hp => hu (j, e) hp

end Hist

namespace Service

variable {κ : Type} {S : Service κ σ ι ε α} {c c' : Config κ σ ι ε α} {i : Tid}

/-- An identity that is unused after a step was unused before, and the step is not its own. -/
theorem exec_unused {cmd : Command κ ι} (h : S.exec c cmd = some c') (hi : c'.slots i = .unused) :
    i ≠ cmd.tid ∧ c.slots i = .unused := by
  have hne : i ≠ cmd.tid := by
    rintro rfl
    cases cmd with
    | start j k => simp [Command.tid, (S.exec_start h).2.2] at hi
    | run j x =>
      obtain ⟨_, _, _, _, _, _, _, hslots⟩ := S.exec_run h
      simp [Command.tid, hslots] at hi
    | drop j =>
      obtain ⟨_, _, _, _, hslots⟩ := S.exec_drop h
      simp [Command.tid, hslots] at hi
  exact ⟨hne, by rw [← S.exec_slots_ne h hne, hi]⟩

/-- A step records events of its own call. -/
theorem exec_own_ne {cmd : Command κ ι} (h : S.exec c cmd = some c') (hi : i ≠ cmd.tid) :
    c'.hist.own i = c.hist.own i := by
  cases cmd with
  | start j k => rw [(S.exec_start h).2.1]
  | run j x =>
    obtain ⟨_, _, _, _, _, _, hhist, -⟩ := S.exec_run h
    rw [hhist]
    exact Hist.own_after_of_ne hi
  | drop j =>
    obtain ⟨_, _, _, hhist, -⟩ := S.exec_drop h
    rw [hhist]
    exact Hist.own_after_of_ne hi

/-- What is left of every call does only actions of `R`, and an identity that is unused recorded
nothing. -/
structure Steps (R : Tid → κ → Action σ ι ε α → Prop) (c : Config κ σ ι ε α) : Prop where
  each : ∀ i k t, c.slots i = .live k t → t.Each (R i k) (c.hist.own i)
  unseen : ∀ i, c.slots i = .unused → c.hist.Unseen i

variable {R : Tid → κ → Action σ ι ε α → Prop}

/-- A service without calls has taken no steps. -/
theorem Steps.init {s : σ} : Steps R (Service.init s : Config κ σ ι ε α) := by
  refine ⟨fun i k t hslot => ?_, fun i _ p hp => absurd hp List.not_mem_nil⟩
  cases hslot

/-- What a step of a call did. -/
theorem Steps.exec_run (hc : Steps R c) {x : ι} (h : S.exec c (.run i x) = some c') :
    ∃ k t es, c.slots i = .live k t ∧ c'.hist.trace = c.hist.trace ++ es.map (i, ·) ∧
      R i k ⟨c.hist.own i, c.hist.state, x, c'.hist.state, es, c'.result? i⟩ := by
  obtain ⟨k, guard, step, next, hslot, hguard, hhist, hslots⟩ := S.exec_run h
  have hact := (hc.each i k _ hslot c.hist.state x hguard).1
  have hresult : c'.result? i = (next c.hist.state x).result? := by
    unfold Config.result?
    rw [hslots, Function.update_self]
    cases next c.hist.state x <;> rfl
  refine ⟨k, _, (step c.hist.state x).2, hslot, by rw [hhist]; rfl, ?_⟩
  rw [hresult, hhist]
  exact hact

/-- One command of a service adds steps of its process only. -/
theorem Steps.exec (hb : ∀ i k, (S.body i k).Each (R i k) []) (hc : Steps R c)
    {cmd : Command κ ι} (h : S.exec c cmd = some c') : Steps R c' := by
  refine ⟨fun i k t hslot => ?_, fun i hslot => ?_⟩
  · by_cases hi : i = cmd.tid
    · subst hi
      cases cmd with
      | start j k' =>
        obtain ⟨hunused, hhist, hslots⟩ := S.exec_start h
        simp only [Command.tid, hslots, Function.update_self] at hslot
        cases hslot
        show (S.body j k).Each (R j k) (c'.hist.own j)
        rw [hhist, (hc.unseen j hunused).own_eq_nil]
        exact hb j k
      | run j x =>
        obtain ⟨k', guard, step, next, hold, hguard, hhist, hslots⟩ := S.exec_run h
        simp only [Command.tid, hslots, Function.update_self] at hslot
        cases hslot
        rw [hhist, Command.tid, Hist.own_after_self]
        exact (hc.each j k _ hold c.hist.state x hguard).2
      | drop j =>
        obtain ⟨_, _, _, _, hslots⟩ := S.exec_drop h
        simp only [Command.tid, hslots, Function.update_self] at hslot
        cases hslot
    · rw [S.exec_slots_ne h hi] at hslot
      rw [exec_own_ne h hi]
      exact hc.each i k t hslot
  · obtain ⟨hi, hold⟩ := exec_unused h hslot
    exact S.exec_unseen h hi (hc.unseen i hold)

/-- So does every run of a service. -/
theorem Steps.run (hb : ∀ i k, (S.body i k).Each (R i k) []) (hc : Steps R c)
    {cmds : List (Command κ ι)} (h : S.run c cmds = some c') : Steps R c' := by
  induction cmds generalizing c with
  | nil =>
    cases h
    exact hc
  | cons cmd cmds ih =>
    obtain ⟨m, hstep, hrest⟩ := S.run_cons.1 h
    exact ih (hc.exec hb hstep) hrest

/-- The rule of invariants for a run, with the part of the run before each step. -/
theorem run_invariant {I : Config κ σ ι ε α → Prop} {cmds : List (Command κ ι)}
    (h : S.run c cmds = some c') (h0 : I c)
    (hstep : ∀ pre cmd post m m', cmds = pre ++ cmd :: post → S.run c pre = some m →
      S.exec m cmd = some m' → I m → I m') : I c' := by
  induction cmds generalizing c with
  | nil =>
    cases h
    exact h0
  | cons cmd cmds ih =>
    obtain ⟨m, hcmd, hrest⟩ := S.run_cons.1 h
    refine ih hrest (hstep [] cmd cmds c m rfl rfl hcmd h0) ?_
    intro pre cmd' post m₁ m₂ hsplit hpre
    exact hstep (cmd :: pre) cmd' post m₁ m₂ (by rw [hsplit]; rfl) (S.run_cons.2 ⟨m, hcmd, hpre⟩)

/-- The result of a call whose process is not finished at once is the result of one of its steps. -/
theorem run_result (hb : ∀ i k, (S.body i k).result? = none) {cmds : List (Command κ ι)}
    (h : S.run c cmds = some c') {a : α} (hresult : c'.result? i = some a) :
    c.result? i = some a ∨ ∃ pre x post m m', cmds = pre ++ .run i x :: post ∧
      S.run c pre = some m ∧ S.exec m (.run i x) = some m' ∧ m'.result? i = some a := by
  induction cmds generalizing c with
  | nil =>
    cases h
    exact .inl hresult
  | cons cmd cmds ih =>
    obtain ⟨m, hcmd, hrest⟩ := S.run_cons.1 h
    rcases ih hrest with hm | ⟨pre, x, post, m₁, m₂, rfl, hpre, hstep, hm⟩
    · by_cases hi : i = cmd.tid
      · subst hi
        cases cmd with
        | start j k =>
          unfold Config.result? at hm
          simp only [Command.tid, (S.exec_start hcmd).2.2, Function.update_self] at hm
          have := hb j k
          split at hm
          · next hslot =>
            obtain ⟨-, hbody⟩ := Slot.live.inj hslot
            rw [hbody] at this
            cases this
          · cases hm
        | run j x => exact .inr ⟨[], x, cmds, c, m, rfl, rfl, hcmd, hm⟩
        | drop j =>
          obtain ⟨_, _, _, _, hslots⟩ := S.exec_drop hcmd
          simp [Config.result?, Command.tid, hslots] at hm
      · rw [Config.result?, S.exec_slots_ne hcmd hi] at hm
        exact .inl hm
    · exact .inr ⟨cmd :: pre, x, post, m₁, m₂, rfl, S.run_cons.2 ⟨m, hcmd, hpre⟩, hstep, hm⟩

/-- A finished call records nothing more. -/
theorem run_own_of_done {k : κ} {a : α} {cmds : List (Command κ ι)} (h : S.run c cmds = some c')
    (hdone : c.slots i = .live k (.done a)) : c'.hist.own i = c.hist.own i := by
  induction cmds generalizing c with
  | nil =>
    cases h
    rfl
  | cons cmd cmds ih =>
    obtain ⟨m, hcmd, hrest⟩ := S.run_cons.1 h
    have hi : i ≠ cmd.tid := by
      rintro rfl
      cases cmd <;> simp [Service.exec, Command.tid] at hcmd hdone <;> simp [hdone] at hcmd
    rw [ih hrest (by rw [S.exec_slots_ne hcmd hi, hdone]), exec_own_ne hcmd hi]

/-- An identity that is admitted in a run was unused before it. -/
theorem run_start_unused {k : κ} {cmds : List (Command κ ι)} (h : S.run c cmds = some c')
    (hk : .start i k ∈ cmds) : c.slots i = .unused := by
  induction cmds generalizing c with
  | nil => exact absurd hk List.not_mem_nil
  | cons cmd cmds ih =>
    obtain ⟨m, hcmd, hrest⟩ := S.run_cons.1 h
    rcases List.mem_cons.1 hk with rfl | hk
    · exact (S.exec_start hcmd).1
    · exact (exec_unused hcmd (ih hrest hk)).2

/-- An identity is admitted once in a run. -/
theorem run_start_unique {k k' : κ} {cmds : List (Command κ ι)} (h : S.run c cmds = some c')
    (hk : .start i k ∈ cmds) (hk' : .start i k' ∈ cmds) : k = k' := by
  induction cmds generalizing c with
  | nil => exact absurd hk List.not_mem_nil
  | cons cmd cmds ih =>
    obtain ⟨m, hcmd, hrest⟩ := S.run_cons.1 h
    have hnot : ∀ k, cmd = .start i k → ∀ k', .start i k' ∉ cmds := by
      rintro k rfl k' hmem
      exact (exec_unused hcmd (run_start_unused hrest hmem)).1 rfl
    rcases List.mem_cons.1 hk with heq | hk
    · rcases List.mem_cons.1 hk' with heq' | hk'
      · exact (Command.start.inj (heq.trans heq'.symm)).2
      · exact absurd hk' (hnot k heq.symm k')
    · rcases List.mem_cons.1 hk' with heq' | hk'
      · exact absurd hk (hnot k' heq'.symm k)
      · exact ih hrest hk hk'

end Service

end Concurrency
