import Mathlib.Logic.Basic

/-!
# Programs of atomic actions

A program over a shared state is a tree of atomic actions. An action has a
label, and the environment decides how it goes: given the outcome, the action
changes the state and the rest of the program continues with what the state was.
Under a plan of outcomes a program is run to its end (`exec`), or stopped after some
of its actions (`after`).
-/

/-- `ω` labels actions, `ι` is how an action can go, `σ` is the state. -/
inductive Prog (ω ι σ α : Type) where
  | done (a : α)
  | act (label : ω) (effect : ι → σ → σ) (next : ι → σ → Prog ω ι σ α)

namespace Prog

variable {ω ι σ α β ε : Type}

def bind : Prog ω ι σ α → (α → Prog ω ι σ β) → Prog ω ι σ β
  | done a, f => f a
  | act label effect next, f => act label effect fun i s => (next i s).bind f

instance : Monad (Prog ω ι σ) where
  pure := done
  bind := bind

@[simp] theorem pure_eq (a : α) : (pure a : Prog ω ι σ α) = done a := rfl

@[simp] theorem done_bind (a : α) (f : α → Prog ω ι σ β) : (done a >>= f) = f a := rfl

@[simp] theorem act_bind (label : ω) (effect : ι → σ → σ) (next : ι → σ → Prog ω ι σ α)
    (f : α → Prog ω ι σ β) :
    (act label effect next >>= f) = act label effect fun i s => next i s >>= f := rfl

/-! ## Alone, to the end -/

/-- Run a program under a plan of outcomes. -/
def exec (plan : ω → ι) : Prog ω ι σ α → σ → α × σ
  | done a, s => (a, s)
  | act label effect next, s => exec plan (next (plan label) s) (effect (plan label) s)

variable {plan : ω → ι}

@[simp] theorem exec_done (a : α) (s : σ) : exec plan (done a : Prog ω ι σ α) s = (a, s) := rfl

@[simp] theorem exec_act (label : ω) (effect : ι → σ → σ) (next : ι → σ → Prog ω ι σ α) (s : σ) :
    exec plan (act label effect next) s =
      exec plan (next (plan label) s) (effect (plan label) s) := rfl

@[simp] theorem exec_bind (p : Prog ω ι σ α) (f : α → Prog ω ι σ β) (s : σ) :
    exec plan (p >>= f) s = exec plan (f (exec plan p s).1) (exec plan p s).2 := by
  induction p generalizing s with
  | done a => rfl
  | act label effect next ih =>
      rw [act_bind, exec_act, exec_act]
      exact ih _ _ _

/-- The rest of a program and the state after some of its actions. -/
def after (plan : ω → ι) : Nat → Prog ω ι σ α → σ → Prog ω ι σ α × σ
  | 0, p, s => (p, s)
  | _ + 1, done a, s => (done a, s)
  | n + 1, act label effect next, s =>
      after plan n (next (plan label) s) (effect (plan label) s)

/-- The actions of a run, each with the state it leaves. -/
def trace (plan : ω → ι) : Prog ω ι σ α → σ → List (ω × σ)
  | done _, _ => []
  | act label effect next, s =>
      (label, effect (plan label) s) ::
        trace plan (next (plan label) s) (effect (plan label) s)

/-- The last action of a run that stops after `n` actions. -/
def lastAction (plan : ω → ι) (n : Nat) (p : Prog ω ι σ α) (s : σ) : Option ω :=
  ((trace plan p s).take n).getLast?.map Prod.fst

@[simp] theorem trace_done (a : α) (s : σ) : trace plan (done a : Prog ω ι σ α) s = [] := rfl

@[simp] theorem trace_bind (p : Prog ω ι σ α) (f : α → Prog ω ι σ β) (s : σ) :
    trace plan (p >>= f) s =
      trace plan p s ++ trace plan (f (exec plan p s).1) (exec plan p s).2 := by
  induction p generalizing s with
  | done a => rfl
  | act label effect next ih =>
      rw [act_bind, trace, trace, exec_act, ih, List.cons_append]

theorem after_snd (n : Nat) (p : Prog ω ι σ α) (s : σ) :
    (after plan n p s).2 = ((trace plan p s).take n).getLast?.elim s Prod.snd := by
  induction n generalizing p s with
  | zero => rfl
  | succ n ih =>
      cases p with
      | done a => rfl
      | act label effect next =>
          rw [after, ih, trace, List.take_succ_cons, List.getLast?_cons]
          cases ((trace plan (next (plan label) s) (effect (plan label) s)).take n).getLast? <;>
            rfl

/-! ## Programs that can fail -/

/-- A program that ends in a value or an error. -/
abbrev Task (ω ι σ ε α : Type) : Type := ExceptT ε (Prog ω ι σ) α

def action (label : ω) (effect : ι → σ → σ) (respond : ι → σ → Except ε α) :
    Task ω ι σ ε α :=
  ExceptT.mk (act label effect fun i s => done (respond i s))

/-- A result known without an action. -/
def lift (result : Except ε α) : Task ω ι σ ε α := ExceptT.mk (done result)

/-- Run a task for its result, errors included. -/
def attempt (task : Task ω ι σ ε α) : Task ω ι σ ε (Except ε α) :=
  ExceptT.mk (task.run >>= fun result => done (.ok result))

/-- Run a task; when it fails, undo and fail with its error. An error of the
undoing takes the place of the first. -/
def rollingBack (task : Task ω ι σ ε α) (undo : ε → Task ω ι σ ε Unit) : Task ω ι σ ε α := do
  match ← attempt task with
  | .ok a => pure a
  | .error e =>
      undo e
      throw e

section Exec

variable (s : σ)

/-- A task that runs alone: its errors stop it. -/
@[simp] theorem exec_task_bind (p : Task ω ι σ ε α) (f : α → Task ω ι σ ε β) :
    exec plan (p >>= f).run s =
      match exec plan p.run s with
      | (.ok a, s') => exec plan (f a).run s'
      | (.error e, s') => (.error e, s') := by
  change exec plan (p.run >>= ExceptT.bindCont f) s = _
  rw [exec_bind]
  cases exec plan p.run s with
  | mk result s' => cases result <;> rfl

theorem exec_task_bind_eq_ok {p : Task ω ι σ ε α} {f : α → Task ω ι σ ε β} {s s'' : σ} {b : β} :
    exec plan (p >>= f).run s = (.ok b, s'') ↔
      ∃ a s', exec plan p.run s = (.ok a, s') ∧ exec plan (f a).run s' = (.ok b, s'') := by
  rw [exec_task_bind]
  cases hrun : exec plan p.run s with
  | mk result s' =>
      cases result with
      | ok a =>
          refine ⟨fun h => ⟨a, s', rfl, h⟩, ?_⟩
          rintro ⟨_, _, h, hnext⟩
          cases h
          exact hnext
      | error e => exact ⟨nofun, fun ⟨_, _, h, _⟩ => nomatch h⟩

@[simp] theorem exec_task_pure (a : α) :
    exec plan (pure a : Task ω ι σ ε α).run s = (.ok a, s) := rfl

@[simp] theorem exec_throw (e : ε) :
    exec plan (throw e : Task ω ι σ ε α).run s = (.error e, s) := rfl

@[simp] theorem exec_lift (result : Except ε α) :
    exec plan (lift result : Task ω ι σ ε α).run s = (result, s) := rfl

@[simp] theorem exec_action (label : ω) (effect : ι → σ → σ) (respond : ι → σ → Except ε α) :
    exec plan (action label effect respond).run s =
      (respond (plan label) s, effect (plan label) s) := rfl

@[simp] theorem exec_attempt (task : Task ω ι σ ε α) :
    exec plan (attempt task).run s =
      (.ok (exec plan task.run s).1, (exec plan task.run s).2) := by
  rw [attempt, ExceptT.run_mk, exec_bind]
  rfl

@[simp] theorem exec_rollingBack (task : Task ω ι σ ε α) (undo : ε → Task ω ι σ ε Unit) :
    exec plan (rollingBack task undo).run s =
      match exec plan task.run s with
      | (.ok a, s') => (.ok a, s')
      | (.error e, s') =>
          match exec plan (undo e).run s' with
          | (.ok _, s'') => (.error e, s'')
          | (.error e', s'') => (.error e', s'') := by
  rw [rollingBack, exec_task_bind, exec_attempt]
  cases exec plan task.run s with
  | mk result s' =>
      cases result with
      | ok a => rfl
      | error e =>
          simp only [exec_task_bind]
          cases exec plan (undo e).run s' with
          | mk undone s'' => cases undone <;> rfl

@[simp] theorem trace_task_bind (p : Task ω ι σ ε α) (f : α → Task ω ι σ ε β) :
    trace plan (p >>= f).run s = trace plan p.run s ++
      match exec plan p.run s with
      | (.ok a, s') => trace plan (f a).run s'
      | (.error _, _) => [] := by
  change trace plan (p.run >>= ExceptT.bindCont f) s = _
  rw [trace_bind]
  cases exec plan p.run s with
  | mk result s' => cases result <;> rfl

@[simp] theorem trace_task_pure (a : α) :
    trace plan (pure a : Task ω ι σ ε α).run s = [] := rfl

@[simp] theorem trace_lift (result : Except ε α) :
    trace plan (lift result : Task ω ι σ ε α).run s = [] := rfl

@[simp] theorem trace_action (label : ω) (effect : ι → σ → σ) (respond : ι → σ → Except ε α) :
    trace plan (action label effect respond).run s = [(label, effect (plan label) s)] := rfl

@[simp] theorem trace_attempt (task : Task ω ι σ ε α) :
    trace plan (attempt task).run s = trace plan task.run s := by
  rw [attempt, ExceptT.run_mk, trace_bind, trace_done, List.append_nil]

theorem trace_rollingBack {task : Task ω ι σ ε α} {undo : ε → Task ω ι σ ε Unit} {a : α}
    {s s' : σ} (h : exec plan task.run s = (.ok a, s')) :
    trace plan (rollingBack task undo).run s = trace plan task.run s := by
  rw [rollingBack, trace_task_bind, exec_attempt, trace_attempt, h]
  exact List.append_nil _

end Exec

/-! ## All or nothing -/

/-- From `s` the task succeeds exactly under `c`, with `a` and in `s'`, and
fails in `base`. -/
structure Settles (plan : ω → ι) (task : Task ω ι σ ε α) (s : σ) (c : Prop) (a : α)
    (s' base : σ) : Prop where
  ok : c → exec plan task.run s = (.ok a, s')
  error : ¬ c → ∃ e, exec plan task.run s = (.error e, base)

variable {task : Task ω ι σ ε α}

section Settles

variable {s s' s'' base : σ} {c c' : Prop} {a : α} {b : β}

section

variable (h : Settles plan task s c a s' base)

include h

theorem Settles.congr (hc : c ↔ c') : Settles plan task s c' a s' base :=
  ⟨fun hc' => h.ok (hc.mpr hc'), fun hc' => h.error fun hcc => hc' (hc.mp hcc)⟩

theorem Settles.exec_bind_ok (hc : c) (f : α → Task ω ι σ ε β) :
    exec plan (task >>= f).run s = exec plan (f a).run s' := by
  rw [exec_task_bind, h.ok hc]

theorem Settles.exec_bind_error (hc : ¬ c) (f : α → Task ω ι σ ε β) :
    ∃ e, exec plan (task >>= f).run s = (.error e, base) := by
  obtain ⟨e, he⟩ := h.error hc
  exact ⟨e, by rw [exec_task_bind, he]⟩

theorem Settles.bind {f : α → Task ω ι σ ε β} (hf : c → Settles plan (f a) s' c' b s'' base) :
    Settles plan (task >>= f) s (c ∧ c') b s'' base := by
  constructor
  · rintro ⟨hc, hc'⟩
    rw [h.exec_bind_ok hc, (hf hc).ok hc']
  · intro hcc
    by_cases hc : c
    · obtain ⟨e, he⟩ := (hf hc).error fun hc' => hcc ⟨hc, hc'⟩
      exact ⟨e, by rw [h.exec_bind_ok hc, he]⟩
    · exact h.exec_bind_error hc f

end

theorem Settles.rollingBack (h : Settles plan task s c a s' s'') {undo : ε → Task ω ι σ ε Unit}
    (hundo : ∀ e, exec plan (undo e).run s'' = (.ok (), base)) :
    Settles plan (rollingBack task undo) s c a s' base := by
  constructor
  · intro hc
    rw [exec_rollingBack, h.ok hc]
  · intro hc
    obtain ⟨e, he⟩ := h.error hc
    exact ⟨e, by rw [exec_rollingBack, he]; simp only [hundo]⟩

end Settles

/-! ## Safe at every stop -/

/-- Wherever a run stops, `inv` holds, and `post` does at its end, as long as every
action has an outcome that is `possible` for it. -/
def Safe (possible : ω → ι → Prop) (inv : σ → Prop) (post : α → σ → Prop) :
    Prog ω ι σ α → σ → Prop
  | done a, s => inv s ∧ post a s
  | act label effect next, s => inv s ∧
      ∀ i, possible label i → Safe possible inv post (next i s) (effect i s)

variable {possible : ω → ι → Prop} {inv : σ → Prop}

section Safe

variable {post post' : α → σ → Prop} {s : σ}

theorem Safe.holds {p : Prog ω ι σ α} (h : Safe possible inv post p s) : inv s := by
  cases p with
  | done a => exact h.1
  | act label effect next => exact h.1

theorem Safe.after {p : Prog ω ι σ α} (h : Safe possible inv post p s)
    (hplan : ∀ label, possible label (plan label)) (n : Nat) :
    Safe possible inv post (after plan n p s).1 (after plan n p s).2 := by
  induction n generalizing p s with
  | zero => exact h
  | succ n ih =>
      cases p with
      | done a => exact h
      | act label effect next => exact ih (h.2 _ (hplan label))

theorem Safe.exec {p : Prog ω ι σ α} (h : Safe possible inv post p s)
    (hplan : ∀ label, possible label (plan label)) :
    inv (exec plan p s).2 ∧ post (exec plan p s).1 (exec plan p s).2 := by
  induction p generalizing s with
  | done a => exact h
  | act label effect next ih => exact ih _ _ (h.2 _ (hplan label))

theorem Safe.bind {p : Prog ω ι σ α} {f : α → Prog ω ι σ β} {post : β → σ → Prop}
    (h : Safe possible inv (fun a s => Safe possible inv post (f a) s) p s) :
    Safe possible inv post (p >>= f) s := by
  induction p generalizing s with
  | done a => exact h.2
  | act label effect next ih => exact ⟨h.1, fun i hi => ih _ _ (h.2 i hi)⟩

theorem Safe.mono {p : Prog ω ι σ α} (h : Safe possible inv post p s)
    (hpost : ∀ a s, inv s → post a s → post' a s) : Safe possible inv post' p s := by
  induction p generalizing s with
  | done a => exact ⟨h.1, hpost a s h.1 h.2⟩
  | act label effect next ih => exact ⟨h.1, fun i hi => ih _ _ (h.2 i hi)⟩

theorem Safe.weaken {inv' : σ → Prop} {p : Prog ω ι σ α} (h : Safe possible inv post p s)
    (hinv : ∀ s, inv s → inv' s) : Safe possible inv' post p s := by
  induction p generalizing s with
  | done a => exact ⟨hinv s h.1, h.2⟩
  | act label effect next ih => exact ⟨hinv s h.1, fun i hi => ih _ _ (h.2 i hi)⟩

end Safe

/-- What holds at the end of a task, of its value or of its error. -/
def outcomeOf (ok : α → σ → Prop) (fail : ε → σ → Prop) (result : Except ε α) (s : σ) : Prop :=
  match result with
  | .ok a => ok a s
  | .error e => fail e s

/-- A safe task: `ok` holds of a value it ends in, `fail` of an error. -/
def SafeTask (possible : ω → ι → Prop) (inv : σ → Prop) (ok : α → σ → Prop)
    (fail : ε → σ → Prop) (task : Task ω ι σ ε α) (s : σ) : Prop :=
  Safe possible inv (outcomeOf ok fail) task.run s

namespace SafeTask

variable {ok ok' : α → σ → Prop} {fail fail' : ε → σ → Prop} {s : σ}

theorem pure {a : α} (hinv : inv s) (h : ok a s) :
    SafeTask possible inv ok fail (Pure.pure a : Task ω ι σ ε α) s := ⟨hinv, h⟩

theorem throw {e : ε} (hinv : inv s) (h : fail e s) :
    SafeTask possible inv ok fail (MonadExcept.throw e : Task ω ι σ ε α) s := ⟨hinv, h⟩

theorem lift {result : Except ε α} (hinv : inv s) (h : outcomeOf ok fail result s) :
    SafeTask possible inv ok fail (lift result : Task ω ι σ ε α) s := ⟨hinv, h⟩

theorem bind {f : α → Task ω ι σ ε β} {ok' : β → σ → Prop} (ok : α → σ → Prop)
    (h : SafeTask possible inv ok fail task s)
    (hf : ∀ a s, inv s → ok a s → SafeTask possible inv ok' fail (f a) s) :
    SafeTask possible inv ok' fail (task >>= f) s := by
  refine Safe.bind (Safe.mono h fun result s hinv hresult => ?_)
  cases result with
  | ok a => exact hf a s hinv hresult
  | error e => exact ⟨hinv, hresult⟩

theorem attempt {ok' : Except ε α → σ → Prop} (ok : α → σ → Prop) (fail : ε → σ → Prop)
    (h : SafeTask possible inv ok fail task s)
    (hok : ∀ result s, inv s → outcomeOf ok fail result s → ok' result s) :
    SafeTask possible inv ok' fail' (attempt task) s := by
  exact Safe.bind (Safe.mono h fun result s hinv hresult => ⟨hinv, hok result s hinv hresult⟩)

theorem mono (h : SafeTask possible inv ok fail task s) (hok : ∀ a s, inv s → ok a s → ok' a s)
    (hfail : ∀ e s, inv s → fail e s → fail' e s) : SafeTask possible inv ok' fail' task s := by
  refine Safe.mono h fun result s hinv hresult => ?_
  cases result with
  | ok a => exact hok a s hinv hresult
  | error e => exact hfail e s hinv hresult

end SafeTask

end Prog
