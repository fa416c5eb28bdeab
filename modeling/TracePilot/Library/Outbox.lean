import Mathlib.Tactic

/-!
# Outboxes

An outbox keeps items until a receiver has acknowledged them.  It posts the front of its queue,
at most `limit` items at a time, and removes what it posted when the acknowledgement comes; on
anything else it keeps the queue and posts it again later.

* **The queue** — what the outbox itself sees.  **`Run.conservation`**: what was acknowledged,
  followed by what is queued, is what was captured.  **`Run.length_acknowledged_le`**: without new
  items a queue of `n` is empty after `⌈n / limit⌉` acknowledgements.
* **The ledger** — what happens to the posts.  A post may be committed by the receiver and its
  acknowledgement lost; then it is posted again and committed again.  **`Ledger.Ok.copies_le`**: of
  one item the receiver stores at most one copy more than acknowledgements for it were lost.
-/

namespace Outbox

variable {ε : Type}

/-! ## The queue -/

/-- What an outbox does, as an observer records it. -/
inductive Event (ε : Type)
  | captured (e : ε)
  | posted (batch : List ε)
  | acknowledged (batch : List ε)
  deriving DecidableEq

/-- The items captured in a history, in order. -/
def captured (history : List (Event ε)) : List ε :=
  history.filterMap fun
    | .captured e => some e
    | _ => none

/-- The batches posted in a history, in order. -/
def posted (history : List (Event ε)) : List (List ε) :=
  history.filterMap fun
    | .posted batch => some batch
    | _ => none

/-- The batches acknowledged in a history, in order. -/
def acknowledged (history : List (Event ε)) : List (List ε) :=
  history.filterMap fun
    | .acknowledged batch => some batch
    | _ => none

@[simp] lemma captured_append (h h' : List (Event ε)) :
    captured (h ++ h') = captured h ++ captured h' := List.filterMap_append
@[simp] lemma acknowledged_append (h h' : List (Event ε)) :
    acknowledged (h ++ h') = acknowledged h ++ acknowledged h' := List.filterMap_append

@[simp] lemma captured_map (events : List ε) : captured (events.map .captured) = events := by
  induction events with
  | nil => rfl
  | cons e events ih => exact congrArg (e :: ·) ih

@[simp] lemma acknowledged_map (events : List ε) :
    acknowledged (events.map .captured) = [] := by
  induction events with
  | nil => rfl
  | cons e events ih => exact ih

/-- What an event does to the queue, and when it can happen. -/
inductive Step (limit : ℕ) : List ε → Event ε → List ε → Prop
  | capture (queue : List ε) (e : ε) : Step limit queue (.captured e) (queue ++ [e])
  | post {queue : List ε} (h : queue ≠ []) : Step limit queue (.posted (queue.take limit)) queue
  | acknowledge {queue : List ε} (h : queue ≠ []) :
      Step limit queue (.acknowledged (queue.take limit)) (queue.drop limit)

/-- A history that leads from one queue to another. -/
inductive Run (limit : ℕ) : List ε → List (Event ε) → List ε → Prop
  | nil (queue : List ε) : Run limit queue [] queue
  | cons {queue queue' queue'' : List ε} {event : Event ε} {history : List (Event ε)} :
      Step limit queue event queue' → Run limit queue' history queue'' →
      Run limit queue (event :: history) queue''

variable {limit : ℕ} {queue queue' queue'' : List ε} {history history' : List (Event ε)}

lemma Run.single {event : Event ε} (h : Step limit queue event queue') :
    Run limit queue [event] queue' := .cons h (.nil _)

lemma Run.append (h : Run limit queue history queue') (h' : Run limit queue' history' queue'') :
    Run limit queue (history ++ history') queue'' := by
  induction h with
  | nil => exact h'
  | cons hstep _ ih => exact .cons hstep (ih h')

/-- Captured events go to the back of the queue, one after the other. -/
lemma Run.captures (queue events : List ε) :
    Run limit queue (events.map .captured) (queue ++ events) := by
  induction events generalizing queue with
  | nil => simpa using Run.nil queue
  | cons e events ih => simpa using Run.cons (.capture queue e) (ih (queue ++ [e]))

/-- **Conservation**: nothing is lost, repeated or reordered among what was acknowledged. -/
theorem Run.conservation (h : Run limit queue history queue') :
    (acknowledged history).flatten ++ queue' = queue ++ captured history := by
  induction h with
  | nil => simp [acknowledged, captured]
  | @cons q q' q'' event history hstep _ ih =>
      cases hstep with
      | capture e =>
          change (acknowledged history).flatten ++ q'' = q ++ e :: captured history
          rw [ih, List.append_assoc, List.singleton_append]
      | post => exact ih
      | acknowledge =>
          change q.take limit ++ (acknowledged history).flatten ++ q'' = q ++ captured history
          rw [List.append_assoc, ih, ← List.append_assoc, List.take_append_drop]

/-- Every post carries something, and no more than the limit. -/
theorem Run.length_posted (hlimit : 0 < limit) (h : Run limit queue history queue') :
    ∀ batch ∈ posted history, 1 ≤ batch.length ∧ batch.length ≤ limit := by
  induction h with
  | nil => simp [posted]
  | @cons q q' q'' event history hstep _ ih =>
      cases hstep with
      | capture e => exact ih
      | acknowledge => exact ih
      | post hne =>
          intro batch hbatch
          rcases List.mem_cons.mp hbatch with rfl | hbatch
          · have hpos := List.length_pos_iff.mpr hne
            rw [List.length_take]
            omega
          · exact ih batch hbatch

/-- How many batches of at most `limit` items a queue of `n` takes. -/
def batches (limit n : ℕ) : ℕ := (n + limit - 1) / limit

/-- One batch less is left after one batch. -/
lemma batches_sub (hlimit : 0 < limit) {n : ℕ} (hn : 0 < n) :
    batches limit n = batches limit (n - limit) + 1 := by
  unfold batches
  rcases Nat.lt_or_ge n (limit + 1) with hle | hlt
  · have h₁ : n - limit + limit - 1 < limit := by omega
    rw [Nat.div_eq_of_lt h₁, Nat.div_eq_iff hlimit]
    omega
  · rw [← Nat.add_div_right _ hlimit]
    congr 1
    omega

/-- Without new items, a queue is worth no more acknowledgements than it has batches. -/
theorem Run.length_acknowledged_le (hlimit : 0 < limit) (h : Run limit queue history queue')
    (hcaptured : captured history = []) :
    (acknowledged history).length + batches limit queue'.length ≤ batches limit queue.length := by
  induction h with
  | nil => simp [acknowledged]
  | @cons q q' q'' event history hstep _ ih =>
      cases hstep with
      | capture e => cases hcaptured
      | post => exact ih hcaptured
      | acknowledge hne =>
          have hrest := ih hcaptured
          rw [List.length_drop] at hrest
          have hsub := batches_sub hlimit (List.length_pos_iff.mpr hne)
          change (acknowledged history).length + 1 + _ ≤ _
          omega

/-! ## The ledger

Items are numbered in the order of their capture.  As the queue is a suffix of what was captured,
a post covers an interval of numbers that starts where the acknowledged ones end.
-/

/-- A post: the number of its first item, its items, whether the receiver committed it, and
whether the outbox learned so. -/
structure Post (ε : Type) where
  start : ℕ
  batch : List ε
  committed : Bool
  acknowledged : Bool
  deriving DecidableEq

/-- The post carries item `i`. -/
def Post.covers (p : Post ε) (i : ℕ) : Bool := p.start ≤ i && i < p.start + p.batch.length

/-- The number of acknowledged items, all posts, newest first, and the numbers of the items that
the receiver has stored. -/
structure Ledger (ε : Type) where
  delivered : ℕ
  posts : List (Post ε)
  store : List ℕ

namespace Ledger

/-- The outbox posts a batch. -/
def post (l : Ledger ε) (batch : List ε) : Ledger ε :=
  { l with posts := ⟨l.delivered, batch, false, false⟩ :: l.posts }

/-- The receiver commits post `k`. -/
def commit (l : Ledger ε) (k : ℕ) (p : Post ε) : Ledger ε :=
  { l with
    posts := l.posts.set k { p with committed := true }
    store := l.store ++ List.range' p.start p.batch.length }

/-- The outbox learns that its newest post was committed. -/
def acknowledge (l : Ledger ε) (p : Post ε) : Ledger ε :=
  { l with
    delivered := l.delivered + p.batch.length
    posts := l.posts.set 0 { p with acknowledged := true } }

/-- The ledger follows what the outbox does. -/
def record (l : Ledger ε) : Event ε → Ledger ε
  | .captured _ => l
  | .posted batch => l.post batch
  | .acknowledged _ =>
      match l.posts with
      | [] => l
      | p :: _ => l.acknowledge p

/-- Captures do not concern the ledger. -/
lemma foldl_record_captured (l : Ledger ε) (events : List ε) :
    (events.map .captured).foldl record l = l := by
  induction events with
  | nil => rfl
  | cons e events ih => exact ih

/-- An acknowledgement is for the newest post. -/
lemma record_acknowledged {l : Ledger ε} {p : Post ε} (hp : l.posts[0]? = some p) (batch : List ε) :
    l.record (.acknowledged batch) = l.acknowledge p := by
  unfold record
  cases hposts : l.posts with
  | nil => simp [hposts] at hp
  | cons q posts =>
      obtain rfl : q = p := by simpa [hposts] using hp
      rfl

/-- How many copies of item `i` the receiver has stored. -/
def copies (l : Ledger ε) (i : ℕ) : ℕ := l.store.count i

/-- How many acknowledgements for item `i` did not reach the outbox. -/
def unlearned (l : Ledger ε) (i : ℕ) : ℕ :=
  l.posts.countP fun p => p.committed && !p.acknowledged && p.covers i

/-- **The invariant**: the store holds the items of the committed posts, only these were
acknowledged, and of these exactly one covers each delivered item. -/
structure Ok (l : Ledger ε) : Prop where
  stored : ∀ i, l.copies i = l.posts.countP fun p => p.committed && p.covers i
  sound : ∀ p ∈ l.posts, p.acknowledged = true → p.committed = true
  once : ∀ i, (l.posts.countP fun p => p.acknowledged && p.covers i)
    = if i < l.delivered then 1 else 0

lemma Ok.empty : Ok (⟨0, [], []⟩ : Ledger ε) where
  stored _ := rfl
  sound _ hp := by cases hp
  once _ := rfl

variable {l : Ledger ε} {p : Post ε} {k : ℕ}

lemma Ok.post (h : l.Ok) (batch : List ε) : (l.post batch).Ok where
  stored i := by simpa [Ledger.post, copies] using h.stored i
  sound q hq := by
    rcases List.mem_cons.mp hq with rfl | hq
    · intro hack
      cases hack
    · exact h.sound q hq
  once i := (List.countP_cons_of_neg (by simp)).trans (h.once i)

/-- The items of a post, counted one by one. -/
lemma count_range'_covers (p : Post ε) (i : ℕ) :
    (List.range' p.start p.batch.length).count i = if p.covers i then 1 else 0 := by
  rw [(List.nodup_range' ..).count]
  simp [Post.covers, List.mem_range'_1]

/-- Exchanging one post, in a count. -/
lemma countP_set {q : Post ε} (hp : l.posts[k]? = some p) (f : Post ε → Bool) :
    (l.posts.set k q).countP f + (if f p then 1 else 0)
      = l.posts.countP f + if f q then 1 else 0 := by
  obtain ⟨hk, rfl⟩ := List.getElem?_eq_some_iff.mp hp
  have hle : (if f l.posts[k] then 1 else 0) ≤ l.posts.countP f := by
    split
    · exact List.countP_pos_iff.mpr ⟨_, List.getElem_mem hk, ‹_›⟩
    · exact Nat.zero_le _
  rw [List.countP_set hk]
  omega

lemma Ok.commit (h : l.Ok) (hp : l.posts[k]? = some p) (hnot : p.committed = false) :
    (l.commit k p).Ok where
  stored i := by
    have hset := countP_set (q := { p with committed := true }) hp
      fun p => p.committed && p.covers i
    have hrange := count_range'_covers p i
    have hold := h.stored i
    simp only [hnot, Bool.false_and, Bool.false_eq_true, if_false, Bool.true_and] at hset
    simp only [Ledger.commit, copies, List.count_append] at hold ⊢
    change _ = _ + if p.covers i = true then 1 else 0 at hset
    omega
  sound q hq := by
    rcases List.mem_or_eq_of_mem_set hq with hq | rfl
    · exact h.sound q hq
    · exact fun _ => rfl
  once i := by
    have hset := countP_set (q := { p with committed := true }) hp
      fun p => p.acknowledged && p.covers i
    change _ + (if _ then 1 else 0) = _ + (if (p.acknowledged && p.covers i) = true then 1 else 0)
      at hset
    have hold := h.once i
    change (l.posts.set k _).countP _ = if i < l.delivered then 1 else 0
    omega

/-- A commit changes no post but for its flag. -/
lemma getElem?_commit (hp : l.posts[k]? = some p) {j : ℕ} {q : Post ε}
    (hq : l.posts[j]? = some q) :
    ∃ q', (l.commit k p).posts[j]? = some q' ∧ q'.start = q.start ∧ q'.batch = q.batch
      ∧ q'.acknowledged = q.acknowledged := by
  by_cases hkj : k = j
  · subst hkj
    obtain rfl : p = q := Option.some.inj (hp.symm.trans hq)
    obtain ⟨hk, -⟩ := List.getElem?_eq_some_iff.mp hp
    exact ⟨_, List.getElem?_set_self hk, rfl, rfl, rfl⟩
  · exact ⟨q, (List.getElem?_set_ne hkj).trans hq, rfl, rfl, rfl⟩

/-- The newest post is acknowledged at most once, and only from where the delivered items end. -/
lemma Ok.acknowledge (h : l.Ok) (hp : l.posts[0]? = some p) (hcommitted : p.committed = true)
    (hnot : p.acknowledged = false) (hstart : p.start = l.delivered) :
    (l.acknowledge p).Ok where
  stored i := by
    have hset := countP_set (q := { p with acknowledged := true }) hp
      fun p => p.committed && p.covers i
    change _ + (if _ then 1 else 0) = _ + (if (p.committed && p.covers i) = true then 1 else 0)
      at hset
    have hold := h.stored i
    simp only [Ledger.acknowledge, copies] at hold ⊢
    omega
  sound q hq := by
    rcases List.mem_or_eq_of_mem_set hq with hq | rfl
    · exact h.sound q hq
    · exact fun _ => hcommitted
  once i := by
    have hset := countP_set (q := { p with acknowledged := true }) hp
      fun p => p.acknowledged && p.covers i
    have hold := h.once i
    have hcovers : p.covers i = true ↔ l.delivered ≤ i ∧ i < l.delivered + p.batch.length := by
      simp [Post.covers, hstart]
    simp only [hnot, Bool.false_and, Bool.false_eq_true, if_false, Bool.true_and] at hset
    change _ = _ + (if p.covers i = true then 1 else 0) at hset
    change (l.posts.set 0 _).countP _ = if i < l.delivered + p.batch.length then 1 else 0
    by_cases hi : p.covers i = true
    · have hrange := hcovers.mp hi
      rw [if_pos hi] at hset
      rw [if_neg (by omega)] at hold
      rw [if_pos (by omega)]
      omega
    · have hrange : ¬ (l.delivered ≤ i ∧ i < l.delivered + p.batch.length) := fun hc =>
        hi (hcovers.mpr hc)
      rw [if_neg hi] at hset
      split_ifs at hold ⊢ <;> omega

/-- **At least once, and how often more**: one copy, and one for each lost acknowledgement. -/
theorem Ok.copies_le (h : l.Ok) (i : ℕ) : l.copies i ≤ 1 + l.unlearned i := by
  have hsplit : (l.posts.countP fun p => p.committed && p.covers i)
      ≤ (l.posts.countP fun p => p.acknowledged && p.covers i) + l.unlearned i := by
    unfold unlearned
    generalize l.posts = posts
    induction posts with
    | nil => simp
    | cons p posts ih =>
        simp only [List.countP_cons]
        cases p.committed <;> cases p.acknowledged <;> cases p.covers i <;> simp <;> omega
  have honce := h.once i
  rw [h.stored i]
  split_ifs at honce <;> omega

end Ledger

end Outbox
