import Mathlib.Tactic

/-!
# Resumptions: programs that wait between atomic operations

A coroutine that talks to a shared server is a tree: it either returns, or performs one atomic
operation and waits for the reply.  Between two operations anything may happen to the shared
state, so the meaning of a program is not a function but the set of outcomes it can reach
against every interference the environment is allowed.

* `Proc I α` — the tree, over an interface `I` of operations and their replies.
* `Proc.run` — the run that nobody disturbs.  Computable.
* `Proc.Reaches` — the outcomes over all interleavings with an environment `R`.
* `Proc.Passes` — the same, with the shared states on the way.
* `Proc.wp` — the weakest precondition.  **`Proc.wp_iff_forall_reaches`** says it is exactly "every
  reachable outcome satisfies the postcondition", and `Proc.wp_bind` is the composition law.
* `Proc.Only` — a program that keeps to some of the operations.  **`Proc.wp_of_only`** says what
  such a program can have done to the shared state, whatever the environment does.

The second half lifts the calculus through `ExceptT`, for programs that raise and catch, and
gives the rule for a loop over a list (`wp_foldlM`): what one iteration preserves, the loop
preserves.
-/

namespace Resumption

/-- The atomic operations of a server, each with the type of its reply. -/
structure Interface where
  Op : Type
  Reply : Op → Type

/-- A program that performs atomic operations one at a time. -/
inductive Proc (I : Interface) (α : Type) : Type
  | ret (a : α) : Proc I α
  | call (op : I.Op) (k : I.Reply op → Proc I α) : Proc I α

/-- What an operation does to the caller's local state and to the shared state. -/
abbrev Machine (I : Interface) (Local Shared : Type) :=
  (op : I.Op) → Local → Shared → I.Reply op × Local × Shared

namespace Proc

variable {I : Interface} {α β : Type}

/-- Sequencing: graft `f` at the leaves. -/
protected def bind : Proc I α → (α → Proc I β) → Proc I β
  | ret a, f => f a
  | call op k, f => call op fun r => (k r).bind f

/-- One operation, returning its reply. -/
def perform (op : I.Op) : Proc I (I.Reply op) := call op ret

instance : Monad (Proc I) where
  pure := ret
  bind := Proc.bind

variable {Local Shared : Type} (M : Machine I Local Shared)

/-- The undisturbed run. -/
def run : Proc I α → Local → Shared → α × Local × Shared
  | ret a, l, s => (a, l, s)
  | call op k, l, s => run (k (M op l s).1) (M op l s).2.1 (M op l s).2.2

variable (R : Local → Shared → Shared → Prop)

/-- `p.Reaches M R l s o`: some interleaving with an environment that respects `R` takes `p`
from `(l, s)` to the outcome `o`. -/
def Reaches : Proc I α → Local → Shared → α × Local × Shared → Prop
  | ret a, l, s, o => o = (a, l, s)
  | call op k, l, s, o =>
      ∃ s', R l s s' ∧ Reaches (k (M op l s').1) (M op l s').2.1 (M op l s').2.2 o

/-- The weakest precondition of `p` for the postcondition `Q`, against an environment `R`. -/
def wp : Proc I α → (α → Local → Shared → Prop) → Local → Shared → Prop
  | ret a, Q, l, s => Q a l s
  | call op k, Q, l, s =>
      ∀ s', R l s s' → wp (k (M op l s').1) Q (M op l s').2.1 (M op l s').2.2

variable {M R}

/-- **The calculus is exact**: the weakest precondition says neither more nor less than "every
outcome over every interleaving satisfies `Q`". -/
theorem wp_iff_forall_reaches (p : Proc I α) (Q : α → Local → Shared → Prop) (l : Local)
    (s : Shared) :
    p.wp M R Q l s ↔ ∀ o, p.Reaches M R l s o → Q o.1 o.2.1 o.2.2 := by
  induction p generalizing l s with
  | ret a => simp [wp, Reaches]
  | call op k ih =>
      simp only [wp, Reaches, ih]
      constructor
      · rintro h o ⟨s', hR, ho⟩
        exact h s' hR o ho
      · intro h s' hR o ho
        exact h o ⟨s', hR, ho⟩

/-- The composition law. -/
theorem wp_bind (p : Proc I α) (f : α → Proc I β) (Q : β → Local → Shared → Prop) (l : Local)
    (s : Shared) :
    (p.bind f).wp M R Q l s ↔ p.wp M R (fun a l s => (f a).wp M R Q l s) l s := by
  induction p generalizing l s with
  | ret a => rfl
  | call op k ih =>
      simp only [Proc.bind, wp]
      exact forall_congr' fun s' => imp_congr_right fun _ => ih _ _ _

/-- A weaker postcondition is easier to reach. -/
theorem wp_mono {p : Proc I α} {Q Q' : α → Local → Shared → Prop} {l : Local} {s : Shared}
    (h : p.wp M R Q l s) (hQ : ∀ a l s, Q a l s → Q' a l s) : p.wp M R Q' l s := by
  induction p generalizing l s with
  | ret a => exact hQ _ _ _ h
  | call op k ih => exact fun s' hR => ih _ (h s' hR)

/-- When the environment may also do nothing, the undisturbed run is one of the interleavings. -/
theorem reaches_run (hR : ∀ l s, R l s s) (p : Proc I α) (l : Local) (s : Shared) :
    p.Reaches M R l s (p.run M l s) := by
  induction p generalizing l s with
  | ret a => rfl
  | call op k ih => exact ⟨s, hR l s, ih _ _ _⟩

/-- `path` lists the states from `s` to `s'`, both included, one atomic step of the environment
apart. -/
inductive Path (step : Shared → Shared → Prop) : Shared → List Shared → Shared → Prop
  | done (s : Shared) : Path step s [s] s
  | cons {s s₁ s' : Shared} {path : List Shared} (h : step s s₁) (rest : Path step s₁ path s') :
      Path step s (s :: path) s'

variable (M) in
/-- `p.Passes M step l s states o`: some interleaving of `p` with atomic steps of the environment
takes it from `(l, s)` to `o`, and `states` are the shared states on the way. -/
def Passes (step : Shared → Shared → Prop) :
    Proc I α → Local → Shared → List Shared → α × Local × Shared → Prop
  | ret a, l, s, states, o => ∃ s', Path step s states s' ∧ o = (a, l, s')
  | call op k, l, s, states, o => ∃ path s' rest, states = path ++ rest ∧ Path step s path s'
      ∧ Passes step (k (M op l s').1) (M op l s').2.1 (M op l s').2.2 rest o

lemma Path.head_eq {step : Shared → Shared → Prop} {s s' : Shared} {path : List Shared}
    (h : Path step s path s') : path.head? = some s := by
  cases h <;> rfl

lemma Path.last_eq {step : Shared → Shared → Prop} {s s' : Shared} {path : List Shared}
    (h : Path step s path s') : path.getLast? = some s' := by
  induction h with
  | done s => rfl
  | cons hs rest ih =>
      rw [List.getLast?_cons, ih]
      rfl

/-- A reflexive and transitive relation that holds over every step holds along a path, from its
start to every state on it and from there to its end. -/
theorem Path.along {step R : Shared → Shared → Prop} (hrefl : ∀ s, R s s)
    (htrans : ∀ {s s₁ s₂}, R s s₁ → R s₁ s₂ → R s s₂) (hstep : ∀ {s s'}, step s s' → R s s')
    {s s' : Shared} {path : List Shared} (h : Path step s path s') :
    ∀ u ∈ path, R s u ∧ R u s' := by
  induction h with
  | done s => simp [hrefl]
  | cons hs rest ih =>
      intro u hu
      rcases List.mem_cons.mp hu with rfl | hu
      · exact ⟨hrefl _, htrans (hstep hs) (ih _ (List.mem_of_head? rest.head_eq)).2⟩
      · exact ⟨htrans (hstep hs) (ih u hu).1, (ih u hu).2⟩

/-- The undisturbed run of a composition. -/
lemma run_bind (p : Proc I α) (f : α → Proc I β) (l : Local) (s : Shared) :
    (p.bind f).run M l s
      = (f (p.run M l s).1).run M (p.run M l s).2.1 (p.run M l s).2.2 := by
  induction p generalizing l s with
  | ret a => rfl
  | call op k ih => exact ih _ _ _

/-- What one environment can do, a more permissive one can do as well. -/
lemma Reaches.mono {R' : Local → Shared → Shared → Prop} (hR : ∀ l s s', R l s s' → R' l s s')
    {p : Proc I α} {l : Local} {s : Shared} {o : α × Local × Shared} (h : p.Reaches M R l s o) :
    p.Reaches M R' l s o := by
  induction p generalizing l s with
  | ret a => exact h
  | call op k ih =>
      obtain ⟨s', hs, h⟩ := h
      exact ⟨s', hR l s s' hs, ih _ h⟩

/-- Every operation that the program can perform satisfies `P`. -/
def Only (P : I.Op → Prop) : Proc I α → Prop
  | ret _ => True
  | call op k => P op ∧ ∀ r, Only P (k r)

lemma Only.bind {P : I.Op → Prop} {p : Proc I α} {f : α → Proc I β} (hp : p.Only P)
    (hf : ∀ a, (f a).Only P) : (p.bind f).Only P := by
  induction p with
  | ret a => exact hf a
  | call op k ih => exact ⟨hp.1, fun r => ih r (hp.2 r)⟩

/-- One step of a run: the environment's, or a write of the program. -/
def Moves (R : Local → Shared → Shared → Prop) (G : Shared → Shared → Prop) (s s' : Shared) : Prop :=
  (∃ l, R l s s') ∨ G s s'

/-- **What a program can have done**: if every operation that it keeps to leaves the local state in
`Inv` and changes the shared state as `G` allows, then its runs are made of steps of the
environment and steps that `G` allows. -/
theorem wp_of_only {P : I.Op → Prop} {Inv : Local → Prop} {G : Shared → Shared → Prop}
    (step : ∀ op l s, P op → Inv l → Inv (M op l s).2.1 ∧ G s (M op l s).2.2)
    {p : Proc I α} (hp : p.Only P) {l : Local} {s : Shared} (hl : Inv l) :
    p.wp M R (fun _ l' s' => Inv l' ∧ Relation.ReflTransGen (Moves R G) s s') l s := by
  induction p generalizing l s with
  | ret a => exact ⟨hl, .refl⟩
  | call op k ih =>
      intro s₁ hR
      obtain ⟨hl₁, hG⟩ := step op l s₁ hp.1 hl
      refine wp_mono (ih _ (hp.2 _) hl₁) ?_
      rintro a l' s' ⟨hl', hmoves⟩
      exact ⟨hl', .head (Or.inl ⟨l, hR⟩) (.head (Or.inr hG) hmoves)⟩

end Proc

/-! ## Programs that raise

`Task I ε α` is a resumption that returns a value or raises an `ε`.  Its postconditions see
the whole `Except`, since a program that raises has still changed the state.
-/

/-- A resumption that may raise. -/
abbrev Task (I : Interface) (ε α : Type) := ExceptT ε (Proc I) α

namespace Task

variable {I : Interface} {ε α β Local Shared : Type}

/-- One operation, as a task. -/
def perform (op : I.Op) : Task I ε (I.Reply op) := ExceptT.lift (Proc.perform op)

/-- A value that was computed without waiting, or the exception it raised. -/
def ofExcept (r : Except ε α) : Task I ε α := ExceptT.mk (Proc.ret r)

/-- The postcondition that asks `ok` of a value and `error` of an exception. -/
def outcome (ok : α → Local → Shared → Prop) (error : ε → Local → Shared → Prop) :
    Except ε α → Local → Shared → Prop
  | .ok a => ok a
  | .error e => error e

variable (M : Machine I Local Shared) (R : Local → Shared → Shared → Prop)

/-- The undisturbed run of a task. -/
def run (p : Task I ε α) (l : Local) (s : Shared) : Except ε α × Local × Shared :=
  Proc.run M (ExceptT.run p) l s

/-- The outcomes of a task over all interleavings. -/
def Reaches (p : Task I ε α) (l : Local) (s : Shared) (o : Except ε α × Local × Shared) : Prop :=
  Proc.Reaches M R (ExceptT.run p) l s o

/-- The weakest precondition of a task. -/
def wp (p : Task I ε α) (Q : Except ε α → Local → Shared → Prop) (l : Local) (s : Shared) :
    Prop :=
  Proc.wp M R (ExceptT.run p) Q l s

variable {M R}

theorem wp_iff_forall_reaches {p : Task I ε α} {Q : Except ε α → Local → Shared → Prop}
    {l : Local} {s : Shared} :
    p.wp M R Q l s ↔ ∀ o, p.Reaches M R l s o → Q o.1 o.2.1 o.2.2 :=
  Proc.wp_iff_forall_reaches _ _ _ _

theorem wp_mono {p : Task I ε α} {Q Q' : Except ε α → Local → Shared → Prop} {l : Local}
    {s : Shared} (h : p.wp M R Q l s) (hQ : ∀ r l s, Q r l s → Q' r l s) : p.wp M R Q' l s :=
  Proc.wp_mono h hQ

/-- Two postconditions hold together. -/
theorem wp_and {p : Task I ε α} {Q Q' : Except ε α → Local → Shared → Prop} {l : Local} {s : Shared}
    (h : p.wp M R Q l s) (h' : p.wp M R Q' l s) : p.wp M R (fun r l s => Q r l s ∧ Q' r l s) l s :=
  wp_iff_forall_reaches.mpr fun o ho =>
    ⟨wp_iff_forall_reaches.mp h o ho, wp_iff_forall_reaches.mp h' o ho⟩

theorem reaches_run (hR : ∀ l s, R l s s) (p : Task I ε α) (l : Local) (s : Shared) :
    p.Reaches M R l s (p.run M l s) :=
  Proc.reaches_run hR _ l s

@[simp] lemma wp_pure (a : α) (Q : Except ε α → Local → Shared → Prop) (l : Local)
    (s : Shared) : wp M R (pure a : Task I ε α) Q l s ↔ Q (.ok a) l s := Iff.rfl

@[simp] lemma wp_throw (e : ε) (Q : Except ε α → Local → Shared → Prop) (l : Local)
    (s : Shared) : wp M R (throw e : Task I ε α) Q l s ↔ Q (.error e) l s := Iff.rfl

@[simp] lemma wp_ofExcept (r : Except ε α) (Q : Except ε α → Local → Shared → Prop)
    (l : Local) (s : Shared) : wp M R (ofExcept r : Task I ε α) Q l s ↔ Q r l s := Iff.rfl

@[simp] lemma wp_perform (op : I.Op) (Q : Except ε (I.Reply op) → Local → Shared → Prop)
    (l : Local) (s : Shared) :
    wp M R (perform op : Task I ε (I.Reply op)) Q l s
      ↔ ∀ s', R l s s' → Q (.ok (M op l s').1) (M op l s').2.1 (M op l s').2.2 := Iff.rfl

/-- Sequencing: the second program runs only when the first returned. -/
@[simp] theorem wp_bind (p : Task I ε α) (f : α → Task I ε β)
    (Q : Except ε β → Local → Shared → Prop) (l : Local) (s : Shared) :
    wp M R (p >>= f) Q l s
      ↔ p.wp M R (outcome (fun a => wp M R (f a) Q) fun e => Q (.error e)) l s := by
  refine (Proc.wp_bind _ _ _ _ _).trans ?_
  constructor
  all_goals
    intro h
    refine Proc.wp_mono h ?_
    intro r l' s' hr
    cases r with
    | ok a => exact hr
    | error e => exact hr

/-- `try p except: h` — the handler runs on the state the failed program left behind. -/
@[simp] theorem wp_tryCatch (p : Task I ε α) (h : ε → Task I ε α)
    (Q : Except ε α → Local → Shared → Prop) (l : Local) (s : Shared) :
    wp M R (tryCatch p h) Q l s
      ↔ p.wp M R (outcome (fun a => Q (.ok a)) fun e => wp M R (h e) Q) l s := by
  refine (Proc.wp_bind _ _ _ _ _).trans ?_
  constructor
  all_goals
    intro hp
    refine Proc.wp_mono hp ?_
    intro r l' s' hr
    cases r with
    | ok a => exact hr
    | error e => exact hr

/-- The undisturbed run of a sequence whose first program returns. -/
lemma run_bind_of_ok {p : Task I ε α} {f : α → Task I ε β} {l l' : Local} {s s' : Shared} {a : α}
    (hp : p.run M l s = (.ok a, l', s')) : (p >>= f).run M l s = (f a).run M l' s' := by
  refine (Proc.run_bind _ _ _ _).trans ?_
  rw [show Proc.run M p l s = (.ok a, l', s') from hp]
  rfl

/-- The undisturbed run of a sequence whose first program raises. -/
lemma run_bind_of_error {p : Task I ε α} {f : α → Task I ε β} {l l' : Local} {s s' : Shared}
    {e : ε} (hp : p.run M l s = (.error e, l', s')) :
    (p >>= f).run M l s = (.error e, l', s') := by
  refine (Proc.run_bind _ _ _ _).trans ?_
  rw [show Proc.run M p l s = (.error e, l', s') from hp]
  rfl

/-- What one environment can do, a more permissive one can do as well. -/
lemma Reaches.mono {R' : Local → Shared → Shared → Prop} (hR : ∀ l s s', R l s s' → R' l s s')
    {p : Task I ε α} {l : Local} {s : Shared} {o : Except ε α × Local × Shared}
    (h : p.Reaches M R l s o) : p.Reaches M R' l s o :=
  Proc.Reaches.mono hR h

/-- Every operation that the task can perform satisfies `P`. -/
def Only (P : I.Op → Prop) (p : Task I ε α) : Prop := Proc.Only P (ExceptT.run p)

lemma only_pure (P : I.Op → Prop) (a : α) : Only P (pure a : Task I ε α) := trivial

lemma only_throw (P : I.Op → Prop) (e : ε) : Only P (throw e : Task I ε α) := trivial

lemma only_ofExcept (P : I.Op → Prop) (r : Except ε α) : Only P (ofExcept r : Task I ε α) := trivial

lemma only_perform {P : I.Op → Prop} {op : I.Op} (h : P op) :
    Only P (perform op : Task I ε (I.Reply op)) := ⟨h, fun _ => trivial⟩

lemma Only.bind {P : I.Op → Prop} {p : Task I ε α} {f : α → Task I ε β} (hp : p.Only P)
    (hf : ∀ a, (f a).Only P) : (p >>= f).Only P := by
  refine Proc.Only.bind hp fun r => ?_
  cases r with
  | ok a => exact hf a
  | error e => trivial

lemma Only.foldlM {σ : Type} {P : I.Op → Prop} {f : σ → α → Task I ε σ}
    (hf : ∀ acc x, (f acc x).Only P) (xs : List α) : ∀ acc, Only P (xs.foldlM f acc) := by
  induction xs with
  | nil => exact fun acc => only_pure P acc
  | cons x xs ih => exact fun acc => (hf acc x).bind ih

/-- **The loop rule.**  If every iteration over an element of `xs` keeps the invariant `Inv` or
raises into `E`, so does the whole loop. -/
theorem wp_foldlM {σ : Type} (f : σ → α → Task I ε σ) (Inv : σ → Local → Shared → Prop)
    (E : ε → Local → Shared → Prop) (xs : List α)
    (step : ∀ x ∈ xs, ∀ acc l s, Inv acc l s → (f acc x).wp M R (outcome Inv E) l s) :
    ∀ acc l s, Inv acc l s → wp M R (xs.foldlM f acc) (outcome Inv E) l s := by
  induction xs with
  | nil => intro acc l s h; exact h
  | cons x xs ih =>
      intro acc l s h
      rw [List.foldlM_cons, wp_bind]
      refine wp_mono (step x (by simp) acc l s h) ?_
      intro r l' s' hr
      cases r with
      | ok acc' => exact ih (fun y hy => step y (by simp [hy])) acc' l' s' hr
      | error e => exact hr

end Task

end Resumption
