import Mathlib.Logic.Function.Basic

/-!
# Processes

A process is a call of a service whose work on a shared state is cut into atomic actions: one
critical section each, or one acquisition or release of a lock. Between two actions of a process
any other may act, and a process may be dropped before its next action. `Proc` is generic in the
shared state, in the choices the environment makes inside an action (a fault, the message a receive
returns), in the events an action records and in the result.

A service is a family of processes (`Service`); its configurations are the shared state with its
history and one slot per call, and `Service.exec` is one step of the scheduler.
-/

namespace Concurrency

/-- The identity of one call. -/
abbrev Tid := Nat

/-- A process over the shared state `σ`: finished with a result, or an action that is enabled where
`guard` holds, updates the state and records events, and continues with `next`, which sees the
state the action found. -/
inductive Proc (σ ι ε α : Type) where
  | done (result : α)
  | act (guard : σ → Bool) (step : σ → ι → σ × List ε) (next : σ → ι → Proc σ ι ε α)

namespace Proc

variable {σ ι ε α β : Type}

/-- Run `t` and then the process of its result. -/
def bind : Proc σ ι ε α → (α → Proc σ ι ε β) → Proc σ ι ε β
  | .done a, f => f a
  | .act guard step next, f => .act guard step fun s x => (next s x).bind f

instance : Monad (Proc σ ι ε) where
  pure := .done
  bind := Proc.bind

/-- One action that waits for `guard` and then computes a result, a state and events. -/
def await (guard : σ → Bool) (f : σ → ι → α × σ × List ε) : Proc σ ι ε α :=
  .act guard (fun s x => (f s x).2) fun s x => .done (f s x).1

/-- One action that is always enabled. -/
def atomic (f : σ → ι → α × σ × List ε) : Proc σ ι ε α :=
  .await (fun _ => true) f

/-- Run `t` while holding a lock: wait until it is free, take it, and give it back once `t` has its
result, whatever the result is. -/
def locked (free : σ → Bool) (take give : σ → σ) (t : Proc σ ι ε α) : Proc σ ι ε α :=
  .act free (fun s _ => (take s, [])) fun _ _ =>
    t.bind fun a => .act (fun _ => true) (fun s _ => (give s, [])) fun _ _ => .done a

/-- `t` over a larger state of which it sees and changes one component, with the events embedded
by `emb` and the choices read by `pick`. -/
def zoom {τ κ δ : Type} (get : τ → σ) (set : τ → σ → τ) (pick : κ → ι) (emb : ε → δ) :
    Proc σ ι ε α → Proc τ κ δ α
  | .done a => .done a
  | .act guard step next =>
    .act (fun s => guard (get s))
      (fun s x => let p := step (get s) (pick x); (set s p.1, p.2.map emb))
      fun s x => (next (get s) (pick x)).zoom get set pick emb

/-- The process run alone, one choice for each action, until it has its result or cannot go on
(the choices run out, or an action is not enabled): the result with the choices left over, if it was
reached, and the state. -/
def exec : Proc σ ι ε α → List ι → σ → Option (α × List ι) × σ
  | .done a, xs, s => (some (a, xs), s)
  | .act _ _ _, [], s => (none, s)
  | .act guard step next, x :: xs, s =>
    if guard s then (next s x).exec xs (step s x).1 else (none, s)

/-- The process run alone with the same choice for every action: its result, unless it waits for
ever, and the state it leaves. -/
def alone (x : ι) : Proc σ ι ε α → σ → Option α × σ
  | .done a, s => (some a, s)
  | .act guard step next, s => if guard s then (next s x).alone x (step s x).1 else (none, s)

@[simp] theorem done_bind (a : α) (f : α → Proc σ ι ε β) : (Proc.done a).bind f = f a := rfl

@[simp] theorem pure_eq (a : α) : (pure a : Proc σ ι ε α) = .done a := rfl

@[simp] theorem bind_eq (t : Proc σ ι ε α) (f : α → Proc σ ι ε β) : t >>= f = t.bind f := rfl

/-- Sequencing is associative, and finishing at once is its unit. -/
instance : LawfulMonad (Proc σ ι ε) :=
  LawfulMonad.mk' _
    (fun t => by
      induction t with
      | done a => rfl
      | act guard step next ih => exact congrArg (act guard step) (funext₂ fun s x => ih s x))
    (fun _ _ => rfl)
    (fun t f g => by
      induction t with
      | done a => rfl
      | act guard step next ih => exact congrArg (act guard step) (funext₂ fun s x => ih s x))

@[simp] theorem exec_done (a : α) (xs : List ι) (s : σ) :
    (Proc.done a : Proc σ ι ε α).exec xs s = (some (a, xs), s) := rfl

/-- Sequencing, alone. -/
theorem exec_bind (t : Proc σ ι ε α) (f : α → Proc σ ι ε β) (xs : List ι) (s : σ) :
    (t.bind f).exec xs s =
      match t.exec xs s with
      | (some (a, ys), s') => (f a).exec ys s'
      | (none, s') => (none, s') := by
  induction t generalizing xs s with
  | done a => rfl
  | act guard step next ih =>
    cases xs with
    | nil => rfl
    | cons x xs =>
      simp only [bind, exec]
      split
      · exact ih s x xs _
      · rfl

/-- A composed process that runs alone runs its parts one after the other. -/
theorem alone_bind (x : ι) (t : Proc σ ι ε α) (f : α → Proc σ ι ε β) (s : σ) :
    (t.bind f).alone x s =
      match t.alone x s with
      | (some a, s') => (f a).alone x s'
      | (none, s') => (none, s') := by
  induction t generalizing s with
  | done a => rfl
  | act guard step next ih =>
    simp only [bind, alone]
    split
    · exact ih s x _
    · rfl

/-- One action of a process that may fail, alone with one choice: an error ends the whole. -/
theorem alone_attempt {χ : Type} {f : σ → ι → Except χ α × σ × List ε}
    {k : α → ExceptT χ (Proc σ ι ε) β} (x : ι) (s : σ) :
    (ExceptT.mk (Proc.atomic f) >>= k).run.alone x s =
      match (f s x).1 with
      | .ok a => (k a).run.alone x (f s x).2.1
      | .error e => (some (.error e), (f s x).2.1) := by
  show ((Proc.atomic f).bind (ExceptT.bindCont k)).alone x s = _
  rw [alone_bind]
  simp only [atomic, await, alone, if_true]
  cases (f s x).1 <;> rfl

/-- One action of a process that may fail, alone: an error ends the whole. -/
theorem exec_attempt {χ : Type} {f : σ → ι → Except χ α × σ × List ε}
    {k : α → ExceptT χ (Proc σ ι ε) β} (x : ι) (xs : List ι) (s : σ) :
    (ExceptT.mk (Proc.atomic f) >>= k).run.exec (x :: xs) s =
      match (f s x).1 with
      | .ok a => (k a).run.exec xs (f s x).2.1
      | .error e => (some (.error e, xs), (f s x).2.1) := by
  show ((Proc.atomic f).bind (ExceptT.bindCont k)).exec (x :: xs) s = _
  rw [exec_bind]
  simp only [atomic, await, exec, if_true]
  cases (f s x).1 <;> rfl

/-- Without a choice left, no action happens. -/
theorem exec_attempt_nil {χ : Type} {f : σ → ι → Except χ α × σ × List ε}
    {k : α → ExceptT χ (Proc σ ι ε) β} (s : σ) :
    (ExceptT.mk (Proc.atomic f) >>= k).run.exec [] s = (none, s) := rfl

end Proc

/-! ## Configurations and their steps -/

/-- The shared state with the events recorded so far, each with the call that recorded it. No
action reads the trace. -/
structure Hist (σ ε : Type) where
  state : σ
  trace : List (Tid × ε)

namespace Hist

variable {σ ε : Type}

/-- The history after call `i` acted. -/
def after (h : Hist σ ε) (i : Tid) (p : σ × List ε) : Hist σ ε :=
  ⟨p.1, h.trace ++ p.2.map (i, ·)⟩

@[simp] theorem after_state (h : Hist σ ε) (i : Tid) (p : σ × List ε) :
    (h.after i p).state = p.1 := rfl

@[simp] theorem after_trace (h : Hist σ ε) (i : Tid) (p : σ × List ε) :
    (h.after i p).trace = h.trace ++ p.2.map (i, ·) := rfl

@[simp] theorem after_nil (h : Hist σ ε) (i : Tid) : h.after i (h.state, []) = h := by
  simp [Hist.after]

/-- What a call did is determined by the history it left. -/
theorem after_inj {h : Hist σ ε} {i : Tid} {p q : σ × List ε} (he : h.after i p = h.after i q) :
    p = q := by
  obtain ⟨s, es⟩ := p
  obtain ⟨s', es'⟩ := q
  simp only [after, mk.injEq, List.append_cancel_left_eq] at he
  obtain ⟨rfl, hes⟩ := he
  rw [(List.map_inj_right fun _ _ h => (Prod.mk.inj h).2).1 hes]

/-- A split of a trace that grew is a split of the old trace, or it is in the new events. -/
theorem append_eq_append_cons {γ : Type} {tr tr' pre post : List γ} {p : γ}
    (h : tr ++ tr' = pre ++ p :: post) :
    (∃ mid, tr = pre ++ p :: mid ∧ post = mid ++ tr') ∨
      ∃ mid, tr' = mid ++ p :: post ∧ pre = tr ++ mid := by
  rcases List.append_eq_append_iff.1 h with ⟨mid, rfl, h2⟩ | ⟨mid, rfl, h2⟩
  · exact .inr ⟨mid, h2, rfl⟩
  · cases mid with
    | nil => exact .inr ⟨[], by simpa using h2.symm, by simp⟩
    | cons q mid =>
      rw [List.cons_append, List.cons.injEq] at h2
      exact .inl ⟨mid, by rw [h2.1], h2.2⟩

/-- The same for one new event. -/
theorem append_singleton_eq_append_cons {γ : Type} {tr pre post : List γ} {p q : γ}
    (h : tr ++ [q] = pre ++ p :: post) :
    (∃ mid, tr = pre ++ p :: mid ∧ post = mid ++ [q]) ∨ p = q ∧ pre = tr ∧ post = [] := by
  rcases append_eq_append_cons h with hold | ⟨mid, hnew, rfl⟩
  · exact .inl hold
  · cases mid with
    | nil => cases hnew; exact .inr ⟨rfl, by simp, rfl⟩
    | cons _ mid => cases mid <;> simp at hnew

/-- Call `i` has recorded nothing. -/
def Unseen (h : Hist σ ε) (i : Tid) : Prop := ∀ p ∈ h.trace, p.1 ≠ i

end Hist

/-- What a scheduler knows of one call identity: unused, running the rest of a process, or dropped
before it finished. -/
inductive Slot (κ σ ι ε α : Type) where
  | unused
  | live (call : κ) (rest : Proc σ ι ε α)
  | dropped (call : κ)

/-- A configuration: the history of the shared state and the calls. -/
structure Config (κ σ ι ε α : Type) where
  hist : Hist σ ε
  slots : Tid → Slot κ σ ι ε α

/-- The call that a live identity runs. -/
def Config.call? {κ σ ι ε α : Type} (c : Config κ σ ι ε α) (i : Tid) : Option κ :=
  match c.slots i with
  | .live k _ => some k
  | _ => none

/-- The result of a finished call. -/
def Config.result? {κ σ ι ε α : Type} (c : Config κ σ ι ε α) (i : Tid) : Option α :=
  match c.slots i with
  | .live _ (.done a) => some a
  | _ => none

/-- A call has a result exactly if its process is done. -/
theorem Config.result?_eq_some {κ σ ι ε α : Type} {c : Config κ σ ι ε α} {i : Tid} {a : α} :
    c.result? i = some a ↔ ∃ k, c.slots i = .live k (.done a) := by
  unfold Config.result?
  split
  · next k b hs => simp [hs]
  · next hs =>
    constructor
    · intro h
      cases h
    · rintro ⟨k, hk⟩
      exact absurd hk (hs k a)

/-- One decision of the scheduler: admit a new call, let a call act with a choice of the
environment, or drop an unfinished call. -/
inductive Command (κ ι : Type) where
  | start (i : Tid) (call : κ)
  | run (i : Tid) (choice : ι)
  | drop (i : Tid)
  deriving DecidableEq

namespace Command

variable {κ ι : Type}

/-- The call a command is about. -/
def tid : Command κ ι → Tid
  | .start i _ => i
  | .run i _ => i
  | .drop i => i

end Command

/-- A service: the process of each call, and what dropping a call gives back (its locks). -/
structure Service (κ σ ι ε α : Type) where
  body : Tid → κ → Proc σ ι ε α
  release : Tid → σ → σ

namespace Service

variable {κ σ ι ε α : Type} (S : Service κ σ ι ε α)

/-- The initial configuration over the state `s`. -/
def init (s : σ) : Config κ σ ι ε α := ⟨⟨s, []⟩, fun _ => .unused⟩

/-- One step; `none` where the command is not enabled. -/
def exec (c : Config κ σ ι ε α) : Command κ ι → Option (Config κ σ ι ε α)
  | .start i k =>
    match c.slots i with
    | .unused => some { c with slots := Function.update c.slots i (.live k (S.body i k)) }
    | _ => none
  | .run i x =>
    match c.slots i with
    | .live k (.act guard step next) =>
      if guard c.hist.state then
        some ⟨c.hist.after i (step c.hist.state x),
          Function.update c.slots i (.live k (next c.hist.state x))⟩
      else none
    | _ => none
  | .drop i =>
    match c.slots i with
    | .live k (.act _ _ _) =>
      some ⟨c.hist.after i (S.release i c.hist.state, []),
        Function.update c.slots i (.dropped k)⟩
    | _ => none

/-- A run of the scheduler. -/
def run (c : Config κ σ ι ε α) : List (Command κ ι) → Option (Config κ σ ι ε α)
  | [] => some c
  | cmd :: cmds => (S.exec c cmd).bind fun c' => run c' cmds

@[simp] theorem run_nil (c : Config κ σ ι ε α) : S.run c [] = some c := rfl

/-- A run is its first command, and a run of the others. -/
theorem run_cons {c c' : Config κ σ ι ε α} {cmd : Command κ ι} {cmds : List (Command κ ι)} :
    S.run c (cmd :: cmds) = some c' ↔ ∃ m, S.exec c cmd = some m ∧ S.run m cmds = some c' := by
  simp [run, Option.bind_eq_some_iff]

/-- A run of two lists of commands goes through the state between them. -/
theorem run_append {c c' : Config κ σ ι ε α} {as bs : List (Command κ ι)} :
    S.run c (as ++ bs) = some c' ↔ ∃ m, S.run c as = some m ∧ S.run m bs = some c' := by
  induction as generalizing c with
  | nil => simp
  | cons cmd as ih =>
    simp only [List.cons_append, run_cons, ih]
    constructor
    · rintro ⟨m, h1, m', h2, h3⟩
      exact ⟨m', ⟨m, h1, h2⟩, h3⟩
    · rintro ⟨m', ⟨m, h1, h2⟩, h3⟩
      exact ⟨m, h1, m', h2, h3⟩

/-- The configurations a service reaches from the states of `Init`. -/
def Reachable (Init : σ → Prop) (c : Config κ σ ι ε α) : Prop :=
  ∃ s cmds, Init s ∧ S.run (Service.init s) cmds = some c

/-! ## What one step can do -/

/-- Inversion of an admission: the identity was unused, and nothing else changes. -/
theorem exec_start {c c' : Config κ σ ι ε α} {i : Tid} {k : κ}
    (h : S.exec c (.start i k) = some c') :
    c.slots i = .unused ∧ c'.hist = c.hist ∧
      c'.slots = Function.update c.slots i (.live k (S.body i k)) := by
  simp only [exec] at h
  split at h
  · next hs => cases h; exact ⟨hs, rfl, rfl⟩
  · cases h

/-- Inversion of an action: the call was at an enabled action, which happened. -/
theorem exec_run {c c' : Config κ σ ι ε α} {i : Tid} {x : ι}
    (h : S.exec c (.run i x) = some c') :
    ∃ k guard step next, c.slots i = .live k (.act guard step next) ∧
      guard c.hist.state = true ∧ c'.hist = c.hist.after i (step c.hist.state x) ∧
      c'.slots = Function.update c.slots i (.live k (next c.hist.state x)) := by
  simp only [exec] at h
  split at h
  · next k guard step next hs =>
    split at h
    · next hg => cases h; exact ⟨k, guard, step, next, hs, hg, rfl, rfl⟩
    · cases h
  · cases h

/-- Inversion of a drop: the call was unfinished, and only its locks are given back. -/
theorem exec_drop {c c' : Config κ σ ι ε α} {i : Tid} (h : S.exec c (.drop i) = some c') :
    ∃ k t, c.slots i = .live k t ∧ c'.hist = c.hist.after i (S.release i c.hist.state, []) ∧
      c'.slots = Function.update c.slots i (.dropped k) := by
  simp only [exec] at h
  split at h
  · next k g st nx hs => cases h; exact ⟨k, _, hs, rfl, rfl⟩
  · cases h

/-- A step changes the slot of its own call only. -/
theorem exec_slots_ne {c c' : Config κ σ ι ε α} {cmd : Command κ ι} (h : S.exec c cmd = some c')
    {j : Tid} (hj : j ≠ cmd.tid) : c'.slots j = c.slots j := by
  cases cmd with
  | start i k => rw [(S.exec_start h).2.2]; exact Function.update_of_ne hj _ _
  | run i x =>
    obtain ⟨_, _, _, _, _, _, _, hs⟩ := S.exec_run h
    rw [hs]; exact Function.update_of_ne hj _ _
  | drop i =>
    obtain ⟨_, _, _, _, hs⟩ := S.exec_drop h
    rw [hs]; exact Function.update_of_ne hj _ _

/-- A step only adds to the trace. -/
theorem exec_trace {c c' : Config κ σ ι ε α} {cmd : Command κ ι} (h : S.exec c cmd = some c') :
    c.hist.trace <+: c'.hist.trace := by
  cases cmd with
  | start i k => exact (S.exec_start h).2.1 ▸ List.prefix_rfl
  | run i x =>
    obtain ⟨_, _, _, _, _, _, hh, -⟩ := S.exec_run h
    rw [hh]; exact List.prefix_append _ _
  | drop i =>
    obtain ⟨_, _, _, hh, -⟩ := S.exec_drop h
    rw [hh]; exact List.prefix_append _ _

/-- The trace of a run only grows. -/
theorem run_trace {c c' : Config κ σ ι ε α} {cmds : List (Command κ ι)}
    (h : S.run c cmds = some c') : c.hist.trace <+: c'.hist.trace := by
  induction cmds generalizing c with
  | nil => cases h; exact List.prefix_rfl
  | cons cmd cmds ih =>
    obtain ⟨m, h1, h2⟩ := S.run_cons.1 h
    exact (S.exec_trace h1).trans (ih h2)

/-- A run changes the slots of its own calls only. -/
theorem run_slots_ne {c c' : Config κ σ ι ε α} {cmds : List (Command κ ι)}
    (h : S.run c cmds = some c') {j : Tid} (hj : ∀ cmd ∈ cmds, j ≠ cmd.tid) :
    c'.slots j = c.slots j := by
  induction cmds generalizing c with
  | nil => cases h; rfl
  | cons cmd cmds ih =>
    obtain ⟨m, h1, h2⟩ := S.run_cons.1 h
    rw [ih h2 fun cmd' hmem => hj cmd' (List.mem_cons_of_mem _ hmem)]
    exact S.exec_slots_ne h1 (hj cmd (by simp))

/-- The call of a live slot was admitted, or was live before the step. -/
theorem exec_live {c c' : Config κ σ ι ε α} {cmd : Command κ ι} (h : S.exec c cmd = some c')
    {i : Tid} {k : κ} {t : Proc σ ι ε α} (ht : c'.slots i = .live k t) :
    cmd = .start i k ∨ ∃ t, c.slots i = .live k t := by
  by_cases hi : i = cmd.tid
  · subst hi
    cases cmd with
    | start j k' =>
      simp only [Command.tid, (S.exec_start h).2.2, Function.update_self] at ht
      cases ht
      exact .inl rfl
    | run j x =>
      obtain ⟨k', _, _, _, hs, _, _, hs'⟩ := S.exec_run h
      simp only [Command.tid, hs', Function.update_self] at ht
      cases ht
      exact .inr ⟨_, hs⟩
    | drop j =>
      obtain ⟨_, _, _, _, hs'⟩ := S.exec_drop h
      simp only [Command.tid, hs', Function.update_self] at ht
      cases ht
  · exact .inr ⟨t, by rw [← S.exec_slots_ne h hi, ht]⟩

/-- The calls that are live after a run were admitted in it, or were live before. -/
theorem run_live {c c' : Config κ σ ι ε α} {cmds : List (Command κ ι)}
    (h : S.run c cmds = some c') {i : Tid} {k : κ} {t : Proc σ ι ε α}
    (ht : c'.slots i = .live k t) : .start i k ∈ cmds ∨ ∃ t, c.slots i = .live k t := by
  induction cmds generalizing c with
  | nil => cases h; exact .inr ⟨t, ht⟩
  | cons cmd cmds ih =>
    obtain ⟨m, h1, h2⟩ := S.run_cons.1 h
    rcases ih h2 with hmem | ⟨t', ht'⟩
    · exact .inl (List.mem_cons_of_mem _ hmem)
    · exact (S.exec_live h1 ht').imp_left fun hcmd => by simp [hcmd]

/-- A step records events of its own call only. -/
theorem exec_unseen {c c' : Config κ σ ι ε α} {cmd : Command κ ι} (h : S.exec c cmd = some c')
    {i : Tid} (hi : i ≠ cmd.tid) (hu : c.hist.Unseen i) : c'.hist.Unseen i := by
  have key : ∀ j p, i ≠ j → (c.hist.after j p).Unseen i := by
    intro j p hj q hq
    rcases List.mem_append.1 hq with hq | hq
    · exact hu q hq
    · obtain ⟨e, -, rfl⟩ := List.mem_map.1 hq
      exact fun he => hj he.symm
  cases cmd with
  | start j k => rw [(S.exec_start h).2.1]; exact hu
  | run j x =>
    obtain ⟨_, _, _, _, _, _, hh, -⟩ := S.exec_run h
    rw [hh]; exact key j _ hi
  | drop j =>
    obtain ⟨_, _, _, hh, -⟩ := S.exec_drop h
    rw [hh]; exact key j _ hi

/-- A call that is scheduled alone runs as its process does alone. -/
theorem run_alone {c : Config κ σ ι ε α} {i : Tid} {k : κ} {t : Proc σ ι ε α} {a : α}
    {xs ys : List ι} {s' : σ} (hs : c.slots i = .live k t)
    (h : t.exec xs c.hist.state = (some (a, ys), s')) :
    ∃ used c', xs = used ++ ys ∧ S.run c (used.map (.run i)) = some c' ∧
      c'.slots = Function.update c.slots i (.live k (.done a)) ∧ c'.hist.state = s' := by
  induction t generalizing c xs with
  | done b =>
    cases h
    refine ⟨[], c, rfl, rfl, ?_, rfl⟩
    rw [← hs, Function.update_eq_self]
  | act guard step next ih =>
    cases xs with
    | nil => cases h
    | cons x xs =>
      simp only [Proc.exec] at h
      split at h
      · next hg =>
        have hx : S.exec c (.run i x) = some ⟨c.hist.after i (step c.hist.state x),
            Function.update c.slots i (.live k (next c.hist.state x))⟩ := by
          simp only [exec, hs, hg, if_true]
        obtain ⟨used, c', h1, h2, h3, h4⟩ := ih c.hist.state x
          (c := ⟨c.hist.after i (step c.hist.state x),
            Function.update c.slots i (.live k (next c.hist.state x))⟩)
          (Function.update_self _ _ _) h
        refine ⟨x :: used, c', by rw [h1]; rfl, S.run_cons.2 ⟨_, hx, h2⟩, ?_, h4⟩
        rw [h3, Function.update_idem]
      · cases h

end Service

end Concurrency
