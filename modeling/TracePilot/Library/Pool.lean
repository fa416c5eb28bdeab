import Mathlib.Logic.Relation
import TracePilot.Library.Resumption

/-!
# Pools of programs over one shared state

Any number of programs run against one shared state, one atomic operation at a time and in any
order.  New ones start at any time, and a running one may be stopped for good between two of its
operations.  An operation may have several outcomes (`Behaviour`), so that failures are among them.

* `Pool.Step` — one step of the system.
* `Proc.Keeps` — a program keeps an invariant of the shared state, and changes it only as `T`
  allows, as long as the others do the same.
* **`Pool.invariant`** — a pool whose programs all keep the invariant satisfies it in every
  reachable state.
-/

namespace Resumption

/-- The outcomes an operation may have: its reply, the caller's state and the shared state. -/
abbrev Behaviour (I : Interface) (Local Shared : Type) :=
  (op : I.Op) → Local → Shared → I.Reply op → Local → Shared → Prop

/-- A program at work: what it has still to do, and its own state. -/
structure Worker (I : Interface) (Local : Type) where
  rest : Proc I Unit
  state : Local

/-- The programs at work, and the state they share. -/
structure Pool (I : Interface) (Local Shared : Type) where
  workers : List (Worker I Local)
  shared : Shared

variable {I : Interface} {α β Local Shared : Type}

/-- A program whose outcome nobody waits for. -/
def Worker.ofTask {ε : Type} (p : Task I ε α) (l : Local) : Worker I Local :=
  ⟨(ExceptT.run p).bind fun _ => .ret (), l⟩

/-- One step: of the environment, the start of a program, an operation of one, or its end. -/
inductive Pool.Step (B : Behaviour I Local Shared) (start : Shared → Worker I Local → Prop)
    (env : Shared → Shared → Prop) : Pool I Local Shared → Pool I Local Shared → Prop
  | env {workers : List (Worker I Local)} {s s' : Shared} (h : env s s') :
      Step B start env ⟨workers, s⟩ ⟨workers, s'⟩
  | start {workers : List (Worker I Local)} {s : Shared} {w : Worker I Local} (h : start s w) :
      Step B start env ⟨workers, s⟩ ⟨workers ++ [w], s⟩
  | act {before after : List (Worker I Local)} {op : I.Op} {k : I.Reply op → Proc I Unit}
      {l l' : Local} {s s' : Shared} {r : I.Reply op} (h : B op l s r l' s') :
      Step B start env ⟨before ++ ⟨.call op k, l⟩ :: after, s⟩ ⟨before ++ ⟨k r, l'⟩ :: after, s'⟩
  | stop {before after : List (Worker I Local)} {w : Worker I Local} {s : Shared} :
      Step B start env ⟨before ++ w :: after, s⟩ ⟨before ++ after, s⟩

/-- The states that a pool can reach. -/
abbrev Pool.Reaches (B : Behaviour I Local Shared) (start : Shared → Worker I Local → Prop)
    (env : Shared → Shared → Prop) : Pool I Local Shared → Pool I Local Shared → Prop :=
  Relation.ReflTransGen (Pool.Step B start env)

namespace Proc

variable (B : Behaviour I Local Shared) (Inv : Shared → Prop) (T : Shared → Shared → Prop)

/-- `p` keeps `Inv` and makes only changes of the kind `T`, while the others do so too, and it ends
with `Q`. -/
def Keeps : Proc I α → (α → Local → Shared → Prop) → Local → Shared → Prop
  | ret a, Q, l, s => Q a l s
  | call op k, Q, l, s => ∀ s₁, T s s₁ → Inv s₁ → ∀ r l' s', B op l s₁ r l' s' →
      T s₁ s' ∧ Inv s' ∧ Keeps (k r) Q l' s'

variable {B Inv T}

/-- The composition law. -/
theorem keeps_bind (p : Proc I α) (f : α → Proc I β) (Q : β → Local → Shared → Prop) (l : Local)
    (s : Shared) :
    (p.bind f).Keeps B Inv T Q l s
      ↔ p.Keeps B Inv T (fun a l s => (f a).Keeps B Inv T Q l s) l s := by
  induction p generalizing l s with
  | ret a => rfl
  | call op k ih =>
      simp only [Proc.bind, Keeps]
      exact forall_congr' fun s₁ => imp_congr_right fun _ => imp_congr_right fun _ =>
        forall_congr' fun r => forall_congr' fun l' => forall_congr' fun s' =>
          imp_congr_right fun _ => and_congr_right fun _ => and_congr_right fun _ => ih _ _ _

/-- A weaker postcondition is easier to reach.  What holds at the end is known to lie behind the
start. -/
theorem Keeps.mono [Std.Refl T] [IsTrans Shared T]
    {p : Proc I α} {Q Q' : α → Local → Shared → Prop} {l : Local} {s : Shared}
    (h : p.Keeps B Inv T Q l s) (hQ : ∀ a l' s', T s s' → Q a l' s' → Q' a l' s') :
    p.Keeps B Inv T Q' l s := by
  induction p generalizing l s with
  | ret a => exact hQ _ _ _ (Std.Refl.refl s) h
  | call op k ih =>
      intro s₁ h₁ hinv r l' s' hB
      obtain ⟨hT, hinv', hk⟩ := h s₁ h₁ hinv r l' s' hB
      refine ⟨hT, hinv', ih r hk fun a l'' s'' hT' => hQ a l'' s'' ?_⟩
      exact IsTrans.trans _ _ _ (IsTrans.trans _ _ _ h₁ hT) hT'

/-- Changes of the others do not disturb a program. -/
theorem Keeps.stable [IsTrans Shared T] {p : Proc I α} {l : Local}
    {s s' : Shared} (h : p.Keeps B Inv T (fun _ _ _ => True) l s) (hT : T s s') :
    p.Keeps B Inv T (fun _ _ _ => True) l s' := by
  cases p with
  | ret a => trivial
  | call op k => exact fun s₁ h₁ => h s₁ (IsTrans.trans _ _ _ hT h₁)

/-- **What every program keeps**: if each operation that it keeps to preserves an assertion `P`
about its own state and the shared one, so does the program. -/
theorem keeps_of_only {Ops : I.Op → Prop} {P : Local → Shared → Prop}
    (hstable : ∀ l s s₁, P l s → T s s₁ → P l s₁)
    (step : ∀ op l s r l' s', Ops op → P l s → Inv s → B op l s r l' s' →
      T s s' ∧ Inv s' ∧ P l' s')
    {p : Proc I α} (hp : p.Only Ops) {l : Local} {s : Shared} (hl : P l s) :
    p.Keeps B Inv T (fun _ l' s' => P l' s') l s := by
  induction p generalizing l s with
  | ret a => exact hl
  | call op k ih =>
      intro s₁ h₁ hinv r l' s' hB
      obtain ⟨hT, hinv', hP⟩ := step op l s₁ r l' s' hp.1 (hstable _ _ _ hl h₁) hinv hB
      exact ⟨hT, hinv', ih r (hp.2 r) hP⟩

end Proc

/-! ## Programs that raise -/

namespace Task

variable {ε : Type} (B : Behaviour I Local Shared) (Inv : Shared → Prop)
  (T : Shared → Shared → Prop)

/-- The task keeps `Inv` and makes only changes of the kind `T`, while the others do so too, and it
ends with `Q`. -/
def Keeps (p : Task I ε α) (Q : Except ε α → Local → Shared → Prop) (l : Local) (s : Shared) :
    Prop :=
  Proc.Keeps B Inv T (ExceptT.run p) Q l s

variable {B Inv T}

/-- Sequencing: the second program runs only when the first returned. -/
theorem keeps_bind (p : Task I ε α) (f : α → Task I ε β)
    (Q : Except ε β → Local → Shared → Prop) (l : Local) (s : Shared) :
    Keeps B Inv T (p >>= f) Q l s
      ↔ p.Keeps B Inv T (outcome (fun a => (f a).Keeps B Inv T Q) fun e => Q (.error e)) l s := by
  refine (Proc.keeps_bind _ _ _ _ _).trans (iff_of_eq (congrArg (Proc.Keeps B Inv T _ · l s) ?_))
  funext r
  cases r with
  | ok a => rfl
  | error e => rfl

/-- `try p except: h`. -/
theorem keeps_tryCatch (p : Task I ε α) (h : ε → Task I ε α)
    (Q : Except ε α → Local → Shared → Prop) (l : Local) (s : Shared) :
    Keeps B Inv T (tryCatch p h) Q l s
      ↔ p.Keeps B Inv T (outcome (fun a => Q (.ok a)) fun e => (h e).Keeps B Inv T Q) l s := by
  refine (Proc.keeps_bind _ _ _ _ _).trans (iff_of_eq (congrArg (Proc.Keeps B Inv T _ · l s) ?_))
  funext r
  cases r with
  | ok a => rfl
  | error e => rfl

/-- **The loop rule**: what one iteration keeps, the loop keeps. -/
theorem keeps_foldlM [Std.Refl T] [IsTrans Shared T] {σ : Type} (f : σ → α → Task I ε σ)
    (P : σ → Local → Shared → Prop) (E : ε → Local → Shared → Prop) (xs : List α)
    (step : ∀ x ∈ xs, ∀ acc l s, P acc l s → (f acc x).Keeps B Inv T (outcome P E) l s) :
    ∀ acc l s, P acc l s → Keeps B Inv T (xs.foldlM f acc) (outcome P E) l s := by
  induction xs with
  | nil => exact fun acc l s h => h
  | cons x xs ih =>
      intro acc l s h
      rw [List.foldlM_cons, keeps_bind]
      refine Proc.Keeps.mono (step x List.mem_cons_self acc l s h) ?_
      intro r l' s' _ hr
      cases r with
      | ok acc' => exact ih (fun y hy => step y (List.mem_cons_of_mem _ hy)) acc' l' s' hr
      | error e => exact hr

end Task

/-- **The invariant of a pool**: the environment and the programs that start keep it, so it holds in
every reachable state, and every program at work goes on keeping it. -/
theorem Pool.invariant {B : Behaviour I Local Shared} {start : Shared → Worker I Local → Prop}
    {env : Shared → Shared → Prop} {Inv : Shared → Prop} {T : Shared → Shared → Prop}
    [Std.Refl T] [IsTrans Shared T]
    (henv : ∀ s s', Inv s → env s s' → T s s' ∧ Inv s')
    (hstart : ∀ s w, Inv s → start s w → w.rest.Keeps B Inv T (fun _ _ _ => True) w.state s)
    {s₀ : Shared} (hinit : Inv s₀) {x : Pool I Local Shared}
    (h : Pool.Reaches B start env ⟨[], s₀⟩ x) :
    Inv x.shared ∧ ∀ w ∈ x.workers, w.rest.Keeps B Inv T (fun _ _ _ => True) w.state x.shared := by
  induction h with
  | refl => exact ⟨hinit, by simp⟩
  | tail _ hstep ih =>
      obtain ⟨hinv, hworkers⟩ := ih
      cases hstep with
      | env h =>
          obtain ⟨hT, hinv'⟩ := henv _ _ hinv h
          exact ⟨hinv', fun w hw => (hworkers w hw).stable hT⟩
      | start h =>
          refine ⟨hinv, fun w hw => ?_⟩
          rcases List.mem_append.mp hw with hw | hw
          · exact hworkers w hw
          · obtain rfl := List.mem_singleton.mp hw
            exact hstart _ _ hinv h
      | act h =>
          have hown := hworkers _ (List.mem_append_right _ List.mem_cons_self)
          obtain ⟨hT, hinv', hrest⟩ := hown _ (Std.Refl.refl _) hinv _ _ _ h
          refine ⟨hinv', fun w hw => ?_⟩
          rcases List.mem_append.mp hw with hw | hw
          · exact (hworkers w (List.mem_append_left _ hw)).stable hT
          · rcases List.mem_cons.mp hw with rfl | hw
            · exact hrest
            · exact (hworkers w (List.mem_append_right _ (List.mem_cons_of_mem _ hw))).stable hT
      | stop =>
          refine ⟨hinv, fun w hw => hworkers w ?_⟩
          rcases List.mem_append.mp hw with hw | hw
          · exact List.mem_append_left _ hw
          · exact List.mem_append_right _ (List.mem_cons_of_mem _ hw)

/-- **What every program does**: a reflexive and transitive relation that holds over every operation
and over the steps of the environment holds between any two states of a pool. -/
theorem Pool.rel {B : Behaviour I Local Shared} {start : Shared → Worker I Local → Prop}
    {env : Shared → Shared → Prop} {T : Shared → Shared → Prop} [Std.Refl T] [IsTrans Shared T]
    (henv : ∀ s s', env s s' → T s s')
    (hop : ∀ op l s r l' s', B op l s r l' s' → T s s') {x x' : Pool I Local Shared}
    (h : Pool.Reaches B start env x x') : T x.shared x'.shared := by
  induction h with
  | refl => exact Std.Refl.refl _
  | tail _ hstep ih =>
      refine IsTrans.trans _ _ _ ih ?_
      cases hstep with
      | env h => exact henv _ _ h
      | start h => exact Std.Refl.refl _
      | act h => exact hop _ _ _ _ _ _ h
      | stop => exact Std.Refl.refl _

/-- The undisturbed run of the last program is one of the runs of its pool. -/
theorem Pool.reaches_run {B : Behaviour I Local Shared} {start : Shared → Worker I Local → Prop}
    {env : Shared → Shared → Prop} {M : Machine I Local Shared}
    (hB : ∀ op l s, B op l s (M op l s).1 (M op l s).2.1 (M op l s).2.2)
    (before : List (Worker I Local)) (p : Proc I Unit) (l : Local) (s : Shared) :
    Pool.Reaches B start env ⟨before ++ [⟨p, l⟩], s⟩
      ⟨before ++ [⟨.ret (), (p.run M l s).2.1⟩], (p.run M l s).2.2⟩ := by
  induction p generalizing l s with
  | ret a => exact .refl
  | call op k ih => exact .head (.act (hB op l s)) (ih _ _ _)

end Resumption
