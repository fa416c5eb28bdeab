import TracePilot.Library.Pool

/-!
# Contracts between programs

`Proc.Keeps` gives all programs of a pool one rely and one guarantee.  Here they depend on the state
of the program: each owns a part of the shared state, relies on the others to leave it alone, and
guarantees to leave theirs alone.

* `Contract` — what a program holds, relies on and guarantees, with the laws that make guarantees
  imply relies for programs that own nothing in common.
* `Proc.Meets` — a program honours its contract, as long as the others do.
* **`Pool.Isolated.reaches`** — in a pool whose programs meet the contract, they own nothing in
  common in any reachable state.
* **`Beside.Aims.reaches`** — what a program meets alone, against its rely, holds when it ends
  beside such a pool.
-/

namespace Resumption

/-- What programs promise each other.  `Holds` is what a program knows of its own state and the
shared one, `Rely` is what it lets the others do, `Guarantee` is what it does in one operation, and
programs are `Apart` when they own nothing in common. -/
structure Contract (Local Shared : Type) where
  Holds : Local → Shared → Prop
  Rely : Local → Shared → Shared → Prop
  Guarantee : Local → Shared → Local → Shared → Prop
  Apart : Local → Local → Prop
  rely_refl : ∀ l s, Rely l s s
  rely_trans : ∀ {l s s₁ s₂}, Rely l s s₁ → Rely l s₁ s₂ → Rely l s s₂
  symm : ∀ {l m}, Apart l m → Apart m l
  stable : ∀ {l s s'}, Holds l s → Rely l s s' → Holds l s'
  kept : ∀ {l s l' s'}, Holds l s → Guarantee l s l' s' → Holds l' s'
  respects : ∀ {l m s l' s'}, Holds l s → Holds m s → Apart l m → Guarantee l s l' s' →
    Rely m s s' ∧ Apart l' m

variable {I : Interface} {α β Local Shared : Type}

/-! ## Programs that meet a contract -/

namespace Proc

variable (B : Behaviour I Local Shared) (C : Contract Local Shared)

/-- `p` gives its guarantee in every operation, while the others respect its rely, and it ends with
`Q`. -/
def Meets : Proc I α → (α → Local → Shared → Prop) → Local → Shared → Prop
  | ret a, Q, l, s => Q a l s
  | call op k, Q, l, s => ∀ s₁, C.Rely l s s₁ → ∀ r l' s', B op l s₁ r l' s' →
      C.Guarantee l s₁ l' s' ∧ Meets (k r) Q l' s'

variable {B C}

/-- The composition law. -/
theorem meets_bind (p : Proc I α) (f : α → Proc I β) (Q : β → Local → Shared → Prop) (l : Local)
    (s : Shared) :
    (p.bind f).Meets B C Q l s ↔ p.Meets B C (fun a l s => (f a).Meets B C Q l s) l s := by
  induction p generalizing l s with
  | ret a => rfl
  | call op k ih =>
      simp only [Proc.bind, Meets]
      exact forall_congr' fun s₁ => imp_congr_right fun _ => forall_congr' fun r =>
        forall_congr' fun l' => forall_congr' fun s' => imp_congr_right fun _ =>
          and_congr_right fun _ => ih _ _ _

/-- A weaker postcondition is easier to reach. -/
theorem Meets.mono {p : Proc I α} {Q Q' : α → Local → Shared → Prop} {l : Local} {s : Shared}
    (h : p.Meets B C Q l s) (hQ : ∀ a l s, Q a l s → Q' a l s) : p.Meets B C Q' l s := by
  induction p generalizing l s with
  | ret a => exact hQ _ _ _ h
  | call op k ih =>
      intro s₁ h₁ r l' s' hB
      obtain ⟨hG, hk⟩ := h s₁ h₁ r l' s' hB
      exact ⟨hG, ih r hk⟩

/-- The others do not disturb a program. -/
theorem Meets.stable {p : Proc I α} {l : Local} {s s' : Shared}
    (h : p.Meets B C (fun _ _ _ => True) l s) (hR : C.Rely l s s') :
    p.Meets B C (fun _ _ _ => True) l s' := by
  cases p with
  | ret a => trivial
  | call op k => exact fun s₁ h₁ => h s₁ (C.rely_trans hR h₁)

/-- **What every program meets**: if each operation that it keeps to gives the guarantee and
preserves an assertion `P`, then the program meets the contract and preserves `P`. -/
theorem meets_of_only {Ops : I.Op → Prop} {P : Local → Shared → Prop}
    (hstable : ∀ l s s₁, P l s → C.Rely l s s₁ → P l s₁)
    (step : ∀ op l s r l' s', Ops op → P l s → B op l s r l' s' → C.Guarantee l s l' s' ∧ P l' s')
    {p : Proc I α} (hp : p.Only Ops) {l : Local} {s : Shared} (hl : P l s) :
    p.Meets B C (fun _ l' s' => P l' s') l s := by
  induction p generalizing l s with
  | ret a => exact hl
  | call op k ih =>
      intro s₁ h₁ r l' s' hB
      obtain ⟨hG, hP⟩ := step op l s₁ r l' s' hp.1 (hstable _ _ _ hl h₁) hB
      exact ⟨hG, ih r (hp.2 r) hP⟩

end Proc

namespace Task

variable {ε : Type} (B : Behaviour I Local Shared) (C : Contract Local Shared)

/-- The task gives its guarantee in every operation, and it ends with `Q`. -/
def Meets (p : Task I ε α) (Q : Except ε α → Local → Shared → Prop) (l : Local) (s : Shared) :
    Prop :=
  Proc.Meets B C (ExceptT.run p) Q l s

variable {B C}

/-- Sequencing: the second program runs only when the first returned. -/
theorem meets_bind (p : Task I ε α) (f : α → Task I ε β) (Q : Except ε β → Local → Shared → Prop)
    (l : Local) (s : Shared) :
    Meets B C (p >>= f) Q l s
      ↔ p.Meets B C (outcome (fun a => (f a).Meets B C Q) fun e => Q (.error e)) l s := by
  refine (Proc.meets_bind _ _ _ _ _).trans (iff_of_eq (congrArg (Proc.Meets B C _ · l s) ?_))
  funext r
  cases r with
  | ok a => rfl
  | error e => rfl

/-- `try p except: h`. -/
theorem meets_tryCatch (p : Task I ε α) (h : ε → Task I ε α)
    (Q : Except ε α → Local → Shared → Prop) (l : Local) (s : Shared) :
    Meets B C (tryCatch p h) Q l s
      ↔ p.Meets B C (outcome (fun a => Q (.ok a)) fun e => (h e).Meets B C Q) l s := by
  refine (Proc.meets_bind _ _ _ _ _).trans (iff_of_eq (congrArg (Proc.Meets B C _ · l s) ?_))
  funext r
  cases r with
  | ok a => rfl
  | error e => rfl

/-- A task that meets its contract does so as a worker. -/
theorem Meets.ofTask {p : Task I ε α} {Q : Except ε α → Local → Shared → Prop} {l : Local}
    {s : Shared} (h : p.Meets B C Q l s) :
    (Worker.ofTask p l).rest.Meets B C (fun _ _ _ => True) (Worker.ofTask p l).state s :=
  (Proc.meets_bind _ _ _ _ _).mpr (Proc.Meets.mono h fun _ _ _ _ => trivial)

end Task

/-! ## Pools whose programs meet a contract -/

section Isolation

variable (B : Behaviour I Local Shared) (C : Contract Local Shared)

/-- A worker that goes on meeting its contract. -/
structure Worker.Guarded (s : Shared) (w : Worker I Local) : Prop where
  holds : C.Holds w.state s
  meets : w.rest.Meets B C (fun _ _ _ => True) w.state s

/-- **Isolation**: the programs at work meet the contract and own nothing in common. -/
structure Pool.Isolated (x : Pool I Local Shared) : Prop where
  guarded : ∀ w ∈ x.workers, w.Guarded B C x.shared
  apart : x.workers.Pairwise fun v w => C.Apart v.state w.state

variable {B C} {start : Shared → Worker I Local → Prop} {env : Shared → Shared → Prop}

lemma Worker.Guarded.stable {w : Worker I Local} {s s' : Shared} (h : w.Guarded B C s)
    (hR : C.Rely w.state s s') : w.Guarded B C s' :=
  ⟨C.stable h.holds hR, h.meets.stable hR⟩

/-- An operation of a program that is apart from all workers leaves them guarded and apart. -/
lemma Pool.Isolated.guarantee {workers : List (Worker I Local)} {l l' : Local} {s s' : Shared}
    (hx : Pool.Isolated B C ⟨workers, s⟩) (hl : C.Holds l s)
    (hapart : ∀ w ∈ workers, C.Apart l w.state) (hG : C.Guarantee l s l' s') :
    Pool.Isolated B C ⟨workers, s'⟩ ∧ ∀ w ∈ workers, C.Apart l' w.state := by
  have hrespects : ∀ w ∈ workers, C.Rely w.state s s' ∧ C.Apart l' w.state :=
    fun w hw => C.respects hl (hx.guarded w hw).holds (hapart w hw) hG
  exact ⟨⟨fun w hw => (hx.guarded w hw).stable (hrespects w hw).1, hx.apart⟩,
    fun w hw => (hrespects w hw).2⟩

/-- In front of the list or inside it, a worker is apart from the same others. -/
lemma Pool.isolated_middle {before after : List (Worker I Local)} {w : Worker I Local}
    {s : Shared} :
    Pool.Isolated B C ⟨before ++ w :: after, s⟩ ↔ w.Guarded B C s
      ∧ (∀ v ∈ before ++ after, C.Apart w.state v.state)
      ∧ Pool.Isolated B C ⟨before ++ after, s⟩ := by
  have hpairwise : (before ++ w :: after).Pairwise (fun v w => C.Apart v.state w.state)
      ↔ (w :: (before ++ after)).Pairwise fun v w => C.Apart v.state w.state :=
    List.pairwise_middle C.symm
  rw [List.pairwise_cons] at hpairwise
  constructor
  · intro h
    obtain ⟨hw, hrest⟩ := hpairwise.mp h.apart
    refine ⟨h.guarded w (by simp), hw, fun v hv => h.guarded v ?_, hrest⟩
    rcases List.mem_append.mp hv with hv | hv
    · exact List.mem_append_left _ hv
    · exact List.mem_append_right _ (List.mem_cons_of_mem _ hv)
  · rintro ⟨hw, hapart, hrest⟩
    refine ⟨fun v hv => ?_, hpairwise.mpr ⟨hapart, hrest.apart⟩⟩
    rcases List.mem_append.mp hv with hv | hv
    · exact hrest.guarded v (List.mem_append_left _ hv)
    · rcases List.mem_cons.mp hv with rfl | hv
      · exact hw
      · exact hrest.guarded v (List.mem_append_right _ hv)

/-- What the environment and new programs owe the pool. -/
structure Contract.Admits (C : Contract Local Shared) (B : Behaviour I Local Shared)
    (start : Shared → Worker I Local → Prop) (env : Shared → Shared → Prop) : Prop where
  rely : ∀ {l s s'}, C.Holds l s → env s s' → C.Rely l s s'
  guarded : ∀ {s w}, start s w → w.Guarded B C s
  apart : ∀ {s w m}, start s w → C.Holds m s → C.Apart w.state m

/-- One step of the pool keeps it isolated, and it is a step that every program apart from the
pool lets the others do. -/
theorem Pool.Isolated.step (hC : C.Admits B start env) {x x' : Pool I Local Shared}
    (hx : x.Isolated B C) (h : Pool.Step B start env x x') :
    x'.Isolated B C ∧ ∀ l, C.Holds l x.shared → (∀ w ∈ x.workers, C.Apart l w.state) →
      C.Rely l x.shared x'.shared ∧ ∀ w ∈ x'.workers, C.Apart l w.state := by
  cases h with
  | env h =>
      refine ⟨⟨fun w hw => ?_, hx.apart⟩, fun l hl hapart => ⟨hC.rely hl h, hapart⟩⟩
      exact (hx.guarded w hw).stable (hC.rely (hx.guarded w hw).holds h)
  | @start workers s w h =>
      refine ⟨Pool.isolated_middle.mpr ⟨hC.guarded h, fun v hv => ?_, by simpa using hx⟩,
        fun l hl hapart => ⟨C.rely_refl _ _, fun v hv => ?_⟩⟩
      · rw [List.append_nil] at hv
        exact hC.apart h (hx.guarded v hv).holds
      · rcases List.mem_append.mp hv with hv | hv
        · exact hapart v hv
        · obtain rfl := List.mem_singleton.mp hv
          exact C.symm (hC.apart h hl)
  | @act before after op k l l' s s' r h =>
      obtain ⟨hw, hwapart, hrest⟩ := Pool.isolated_middle.mp hx
      obtain ⟨hG, hk⟩ := hw.meets s (C.rely_refl _ _) r l' s' h
      obtain ⟨hrest', hwapart'⟩ := hrest.guarantee hw.holds hwapart hG
      refine ⟨Pool.isolated_middle.mpr ⟨⟨C.kept hw.holds hG, hk⟩, hwapart', hrest'⟩, ?_⟩
      intro m hm hapart
      obtain ⟨hR, hapart'⟩ := C.respects hw.holds hm (C.symm (hapart _ (by simp))) hG
      refine ⟨hR, fun v hv => ?_⟩
      rcases List.mem_append.mp hv with hv | hv
      · exact hapart v (List.mem_append_left _ hv)
      · rcases List.mem_cons.mp hv with rfl | hv
        · exact C.symm hapart'
        · exact hapart v (List.mem_append_right _ (List.mem_cons_of_mem _ hv))
  | @stop before after w s =>
      obtain ⟨-, -, hrest⟩ := Pool.isolated_middle.mp hx
      refine ⟨hrest, fun l _ hapart => ⟨C.rely_refl _ _, fun v hv => hapart v ?_⟩⟩
      rcases List.mem_append.mp hv with hv | hv
      · exact List.mem_append_left _ hv
      · exact List.mem_append_right _ (List.mem_cons_of_mem _ hv)

/-- **The programs of a pool stay isolated.** -/
theorem Pool.Isolated.reaches (hC : C.Admits B start env) {x x' : Pool I Local Shared}
    (hx : x.Isolated B C) (h : Pool.Reaches B start env x x') : x'.Isolated B C := by
  induction h with
  | refl => exact hx
  | tail _ hstep ih => exact (ih.step hC hstep).1

/-- An empty pool is isolated. -/
lemma Pool.isolated_nil (s : Shared) : Pool.Isolated B C (⟨[], s⟩ : Pool I Local Shared) :=
  ⟨by simp, .nil⟩

/-- **What a contract says about runs**: a reflexive and transitive relation that the guarantee
implies, and that the environment keeps, holds between any two states of an isolated pool. -/
theorem Pool.Isolated.rel {T : Shared → Shared → Prop} [Std.Refl T] [IsTrans Shared T]
    (hC : C.Admits B start env) (henv : ∀ s s', env s s' → T s s')
    (hG : ∀ l s l' s', C.Holds l s → C.Guarantee l s l' s' → T s s') {x x' : Pool I Local Shared}
    (hx : x.Isolated B C) (h : Pool.Reaches B start env x x') : T x.shared x'.shared := by
  induction h with
  | refl => exact Std.Refl.refl _
  | @tail y z hrun hstep ih =>
      have hy := hx.reaches hC hrun
      refine IsTrans.trans _ _ _ ih ?_
      cases hstep with
      | env h => exact henv _ _ h
      | start h => exact Std.Refl.refl _
      | stop => exact Std.Refl.refl _
      | @act before after op k l l' s s' r h =>
          have hw := (Pool.isolated_middle.mp hy).1
          exact hG l s l' s' hw.holds (hw.meets s (C.rely_refl _ _) r l' s' h).1

end Isolation

/-! ## One program beside a pool -/

/-- A program at work beside others. -/
structure Beside (I : Interface) (α Local Shared : Type) where
  rest : Proc I α
  state : Local
  others : Pool I Local Shared

/-- What a machine does is the only outcome. -/
def Behaviour.ofMachine (M : Machine I Local Shared) : Behaviour I Local Shared :=
  fun op l s r l' s' => (r, l', s') = M op l s

section Beside

variable (B' B : Behaviour I Local Shared) (start : Shared → Worker I Local → Prop)
  (env : Shared → Shared → Prop)

/-- One step: of the others, or an operation of the program, with a behaviour of its own. -/
inductive Beside.Step : Beside I α Local Shared → Beside I α Local Shared → Prop
  | others {p : Proc I α} {l : Local} {x x' : Pool I Local Shared}
      (h : Pool.Step B start env x x') : Step ⟨p, l, x⟩ ⟨p, l, x'⟩
  | own {op : I.Op} {k : I.Reply op → Proc I α} {l l' : Local} {workers : List (Worker I Local)}
      {s s' : Shared} {r : I.Reply op} (h : B' op l s r l' s') :
      Step ⟨.call op k, l, ⟨workers, s⟩⟩ ⟨k r, l', ⟨workers, s'⟩⟩

/-- The states that a program and the others reach. -/
abbrev Beside.Reaches : Beside I α Local Shared → Beside I α Local Shared → Prop :=
  Relation.ReflTransGen (Beside.Step B' B start env)

variable {B' B start env} {C : Contract Local Shared}

variable (B' B C) in
/-- The program met its contract with the aim `Q` before the others did what they did last. -/
structure Beside.Aims (Q : α → Local → Shared → Prop) (y : Beside I α Local Shared) : Prop where
  isolated : y.others.Isolated B C
  holds : C.Holds y.state y.others.shared
  apart : ∀ w ∈ y.others.workers, C.Apart y.state w.state
  meets : ∃ s, C.Rely y.state s y.others.shared ∧ y.rest.Meets B' C Q y.state s

lemma Beside.Aims.step (hC : C.Admits B start env) {Q : α → Local → Shared → Prop}
    {y y' : Beside I α Local Shared} (hy : y.Aims B' B C Q)
    (h : Beside.Step B' B start env y y') : y'.Aims B' B C Q := by
  obtain ⟨s₀, hR₀, hmeets⟩ := hy.meets
  cases h with
  | others h =>
      obtain ⟨hothers', hrest⟩ := hy.isolated.step hC h
      obtain ⟨hR, hapart'⟩ := hrest _ hy.holds hy.apart
      exact ⟨hothers', C.stable hy.holds hR, hapart', s₀, C.rely_trans hR₀ hR, hmeets⟩
  | @own op k l l' workers s s' r h =>
      obtain ⟨hG, hk⟩ := hmeets s hR₀ r l' s' h
      obtain ⟨hothers', hapart'⟩ := hy.isolated.guarantee hy.holds hy.apart hG
      exact ⟨hothers', C.kept hy.holds hG, hapart', s', C.rely_refl _ _, hk⟩

/-- **What a program aims at holds when it ends beside others**, up to what they did since its last
operation. -/
theorem Beside.Aims.reaches (hC : C.Admits B start env) {Q : α → Local → Shared → Prop}
    {y : Beside I α Local Shared} (hy : y.Aims B' B C Q) {a : α} {l' : Local}
    {x' : Pool I Local Shared} (h : Beside.Reaches B' B start env y ⟨.ret a, l', x'⟩) :
    ∃ s', Q a l' s' ∧ C.Rely l' s' x'.shared := by
  have hend : Beside.Aims B' B C Q ⟨.ret a, l', x'⟩ := by
    generalize (⟨.ret a, l', x'⟩ : Beside I α Local Shared) = z at h
    induction h with
    | refl => exact hy
    | tail _ hstep ih => exact ih.step hC hstep
  obtain ⟨s', hR, hQ⟩ := hend.meets
  exact ⟨s', hQ, hR⟩

/-- A program that meets its contract on a machine ends as it can end against its rely. -/
lemma Proc.Meets.reaches {M : Machine I Local Shared} {p : Proc I α} {l : Local} {s : Shared}
    (h : p.Meets (.ofMachine M) C (fun _ _ _ => True) l s) :
    p.Meets (.ofMachine M) C (fun a l' s' => p.Reaches M C.Rely l s (a, l', s')) l s := by
  induction p generalizing l s with
  | ret a => rfl
  | call op k ih =>
      intro s₁ h₁ r l' s' hM
      obtain ⟨hG, hk⟩ := h s₁ h₁ r l' s' hM
      refine ⟨hG, (ih r hk).mono fun a l'' s'' hreach => ⟨s₁, h₁, ?_⟩⟩
      rw [← show (r, l', s') = M op l s₁ from hM]
      exact hreach

/-- A program whose operations may do more meets its contract when they do less. -/
lemma Proc.Meets.of_le (hB : ∀ op l s r l' s', B' op l s r l' s' → B op l s r l' s')
    {Q : α → Local → Shared → Prop} {p : Proc I α} {l : Local} {s : Shared}
    (h : p.Meets B C Q l s) : p.Meets B' C Q l s := by
  induction p generalizing l s with
  | ret a => exact h
  | call op k ih =>
      intro s₁ h₁ r l' s' hstep
      obtain ⟨hG, hk⟩ := h s₁ h₁ r l' s' (hB _ _ _ _ _ _ hstep)
      exact ⟨hG, ih r hk⟩

/-- **The invariant of a program beside others**: what its own operations preserve, and the others
do not disturb. -/
theorem Beside.invariant {P : Local → Shared → Prop}
    (hothers : ∀ l x x', Pool.Step B start env x x' → P l x.shared → P l x'.shared)
    (hown : ∀ op l s r l' s', B' op l s r l' s' → P l s → P l' s') {y y' : Beside I α Local Shared}
    (h : Beside.Reaches B' B start env y y') (hy : P y.state y.others.shared) :
    P y'.state y'.others.shared := by
  induction h with
  | refl => exact hy
  | tail _ hstep ih =>
      cases hstep with
      | others h => exact hothers _ _ _ h ih
      | own h => exact hown _ _ _ _ _ _ h ih

/-- The undisturbed run of a program is one of its runs beside others. -/
lemma Beside.reaches_run {M : Machine I Local Shared}
    (hB : ∀ op l s, B' op l s (M op l s).1 (M op l s).2.1 (M op l s).2.2) (p : Proc I α)
    (workers : List (Worker I Local)) (l : Local) (s : Shared) :
    Beside.Reaches B' B start env ⟨p, l, ⟨workers, s⟩⟩
      ⟨.ret (p.run M l s).1, (p.run M l s).2.1, ⟨workers, (p.run M l s).2.2⟩⟩ := by
  induction p generalizing l s with
  | ret a => exact .refl
  | call op k ih => exact .head (.own (hB op l s)) (ih _ _ _)

end Beside

end Resumption
