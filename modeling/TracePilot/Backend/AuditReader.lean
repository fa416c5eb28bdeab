import TracePilot.Backend.Containment

/-!
# Reading the audit trail

`GET /investigations/{id}/tool-calls` returns the audit records of an investigation, each through
the response model `AgentToolCallResponse`, which wants dictionaries for arguments and result.  A
record that the model rejects makes the whole response fail.

* **`getInvestigationToolCalls_eq_records`** — the response is complete when the model takes every
  record.
* **`trailReadable_iff`** — over every run of an agent, the trail stays readable exactly when the
  requests that were refused and recorded carried dictionaries.  The writer stores refused arguments
  as they came, and a model may send any JSON value.
-/

namespace TracePilot

open Resumption

/-! ## The endpoint -/

/-- `AgentToolCallResponse`. -/
structure AgentToolCallResponse where
  investigationId : Uuid
  toolName : String
  arguments : List (String × Json)
  result : List (String × Json)
  createdAt : ℤ

/-- A field of type `dict`. -/
def dictField : Json → Option (List (String × Json))
  | .obj fields => some fields
  | _ => none

/-- `AgentToolCallResponse.model_validate` on a record. -/
def AgentToolCallResponse.validate (c : AgentToolCall) : Option AgentToolCallResponse := do
  let arguments ← dictField c.arguments
  let result ← dictField c.result
  pure ⟨c.investigationId, c.toolName, arguments, result, c.createdAt⟩

/-- The audit records of an investigation. -/
def Database.trail (db : Database) (investigationId : Uuid) : List AgentToolCall :=
  db.agentToolCalls.filter fun c => c.investigationId = investigationId

/-- The value is a dictionary. -/
def IsDict (v : Json) : Prop := ∃ fields, v = .obj fields

lemma dictField_isSome_iff (v : Json) : (dictField v).isSome = true ↔ IsDict v := by
  cases v <;> simp [dictField, IsDict]

lemma validate_isSome_iff (c : AgentToolCall) :
    (AgentToolCallResponse.validate c).isSome = true ↔ IsDict c.arguments ∧ IsDict c.result := by
  rw [← dictField_isSome_iff, ← dictField_isSome_iff, AgentToolCallResponse.validate]
  cases dictField c.arguments <;> cases dictField c.result <;> simp

/-- `jsonable_encoder` makes a dictionary of a dictionary and of nothing else. -/
def Libraries.KeepsDicts (lib : Libraries) : Prop := ∀ v, IsDict (lib.jsonableEncoder v) ↔ IsDict v

lemma Libraries.strict_keepsDicts : Libraries.strict.KeepsDicts := fun _ => Iff.rfl

/-- A refused request is recorded when its record fits the columns, and then the trail shows its
arguments as they came. -/
def RecordsDict (lib : Libraries) (request : ToolRequest) : Prop :=
  acceptedCall lib.toPydantic request.name request.arguments = none →
    Auditable lib request.name request.arguments [] → IsDict request.arguments

section Writer

variable {lib : Libraries} {toolName : String} {raw arguments result : Json}
  {observed : List Observation} {reply : Except PyException Json} {investigationId : Uuid}

lemma AcceptedCall.Answer.isDict {c : AcceptedCall} {read : List Statement} {v : Json}
    (h : c.Answer read v) : IsDict v := by
  cases c with
  | processConnections a => obtain ⟨q, -, -, rfl⟩ := h; exact ⟨_, rfl⟩
  | topNetworkProcesses a => obtain ⟨_, q, -, -, rfl⟩ := h; exact ⟨_, rfl⟩
  | connectionBursts a => obtain ⟨_, q, -, -, rfl⟩ := h; exact ⟨_, rfl⟩
  | unusualDestinations a => obtain ⟨_, q, q', -, -, -, rfl⟩ := h; exact ⟨_, rfl⟩
  | eventTimeline a => obtain ⟨_, q, -, -, rfl⟩ := h; exact ⟨_, rfl⟩

lemma AcceptedCall.arguments_isDict (c : AcceptedCall) (py : Pydantic) :
    IsDict (c.arguments py) := by
  cases c <;> exact ⟨_, rfl⟩

/-- The record of an attempt is readable unless the request was refused with something else than a
dictionary. -/
lemma Attempt.readable_iff (hdict : lib.KeepsDicts)
    (attempt : Attempt lib toolName raw observed arguments result reply) :
    (IsDict arguments ∧ IsDict result)
      ↔ (acceptedCall lib.toPydantic toolName raw = none → IsDict raw) := by
  cases attempt with
  | unknownTool hname =>
      simp only [acceptedCall_eq_none_of_unknown hname, true_imp_iff, hdict raw]
      exact and_iff_left ⟨_, rfl⟩
  | rejectedArguments hname hraw =>
      simp only [acceptedCall_eq_none hname hraw, true_imp_iff, hdict raw]
      exact and_iff_left ⟨_, rfl⟩
  | @answered tool c read v hname hcall hrange hanswer =>
      simp only [hcall, reduceCtorEq, false_imp_iff, iff_true]
      exact ⟨c.arguments_isDict _, hanswer.isDict⟩

end Writer

/-! ## The table of audit records -/

/-- Between `l` and `l'` the audit records of `s` were kept, what the session committed was added,
and every other new record satisfies `K` if the old ones do. -/
def TrailGrows (K : AgentToolCall → Prop) (l : Session) (s : Server) (l' : Session) (s' : Server) :
    Prop :=
  ∃ observed, l'.log = l.log ++ observed
    ∧ (∀ c, c ∈ s.db.agentToolCalls ∨ c ∈ committedCalls observed → c ∈ s'.db.agentToolCalls)
    ∧ ((∀ c ∈ s.db.agentToolCalls, K c) → (∀ c ∈ committedCalls observed, K c) →
      ∀ c ∈ s'.db.agentToolCalls, K c)

section Table

variable {K : AgentToolCall → Prop} {l l₁ l' : Session} {s s₁ s' : Server}

lemma TrailGrows.refl (l : Session) (s : Server) : TrailGrows K l s l s :=
  ⟨[], by simp, by simp [committedCalls], fun h _ => h⟩

lemma TrailGrows.trans (h : TrailGrows K l s l₁ s₁) (h' : TrailGrows K l₁ s₁ l' s') :
    TrailGrows K l s l' s' := by
  obtain ⟨observed, hlog, hkept, hK⟩ := h
  obtain ⟨observed', hlog', hkept', hK'⟩ := h'
  have happend : ∀ c, c ∈ committedCalls (observed ++ observed')
      ↔ c ∈ committedCalls observed ∨ c ∈ committedCalls observed' := by
    intro c
    simp [committedCalls]
  refine ⟨observed ++ observed', by rw [hlog', hlog, List.append_assoc], ?_, ?_⟩
  · rintro c (hc | hc)
    · exact hkept' c (Or.inl (hkept c (Or.inl hc)))
    · rcases (happend c).mp hc with hc | hc
      · exact hkept' c (Or.inl (hkept c (Or.inr hc)))
      · exact hkept' c (Or.inr hc)
  · intro hs hobserved
    exact hK' (hK hs fun c hc => hobserved c ((happend c).mpr (Or.inl hc)))
      fun c hc => hobserved c ((happend c).mpr (Or.inr hc))

/-- An accepted flush appends the audit records among its rows. -/
lemma flush_agentToolCalls {db db' : Database} {rows : List Row} {changed : Option Investigation}
    (h : db.flush rows changed = some db') :
    db'.agentToolCalls = db.agentToolCalls ++ rows.filterMap Row.agentToolCall? := by
  obtain ⟨db₁, hinsert, hupdate⟩ := Option.bind_eq_some_iff.mp h
  have hsame : db'.agentToolCalls = db₁.agentToolCalls := by
    cases changed with
    | none => rw [Option.some.inj hupdate]
    | some i =>
        change db₁.update i = some db' at hupdate
        rw [Database.update] at hupdate
        split_ifs at hupdate
        rw [← Option.some.inj hupdate]
        rfl
  rw [hsame]
  clear hupdate hsame h
  induction rows generalizing db with
  | nil => simp [← Option.some.inj hinsert]
  | cons row rows ih =>
      rw [List.foldlM_cons] at hinsert
      obtain ⟨db₂, hrow, hinsert⟩ := Option.bind_eq_some_iff.mp hinsert
      rw [ih hinsert]
      cases row with
      | investigation i =>
          rw [Database.insert] at hrow
          split_ifs at hrow
          rw [← Option.some.inj hrow]
          simp [Row.agentToolCall?, Database.withInvestigation, List.filterMap_cons]
      | agentToolCall c =>
          rw [Database.insert] at hrow
          split_ifs at hrow
          rw [← Option.some.inj hrow]
          simp [Row.agentToolCall?, Database.withCall]

end Table

/-! ## The trail of a run -/

section Run

variable {lib : Libraries} {investigationId : Uuid} {request : ToolRequest}
  {observed : List Observation} {reply : Except PyException Json}

/-- Whether a refused call is recorded does not depend on what was read. -/
lemma auditable_of_refused {toolName : String} {raw : Json}
    (h : acceptedCall lib.toPydantic toolName raw = none) (read : List Statement) :
    Auditable lib toolName raw read ↔ Auditable lib toolName raw [] := by
  unfold Auditable
  simp only [h]

/-- What one executed call commits: a record of its investigation at most, which the response model
takes unless the request was refused, recorded, and carried something else than a dictionary. -/
lemma Execution.committed (hdict : lib.KeepsDicts)
    (h : Execution lib investigationId request observed reply) :
    (∀ record ∈ committedCalls observed, record.investigationId = investigationId)
      ∧ ((∀ record ∈ committedCalls observed,
          (AgentToolCallResponse.validate record).isSome = true) ↔ RecordsDict lib request) := by
  cases h with
  | @recorded observed arguments result _ db now attempt accepted =>
      have hcommitted := (attempt.committedCalls_append db
        ⟨investigationId, request.name, arguments, result, now⟩).2
      have hfits :
          (⟨investigationId, request.name, arguments, result, now⟩ : AgentToolCall).fits = true
          ∧ db.withId investigationId ≠ [] := by
        by_contra hno
        rw [Database.flush_agentToolCall, if_neg hno] at accepted
        cases accepted
      rw [if_pos hfits] at hcommitted
      have hauditable := (attempt.fits_iff now).mp hfits.1
      simp only [hcommitted, List.mem_singleton, forall_eq, validate_isSome_iff, true_and]
      rw [attempt.readable_iff hdict, RecordsDict]
      refine forall_congr' fun hrefused => ?_
      rw [auditable_of_refused hrefused] at hauditable
      exact ⟨fun hraw _ => hraw, fun hraw => hraw hauditable⟩
  | @refused observed arguments result _ db now attempt unfit =>
      have hcommitted := (attempt.committedCalls_append db
        ⟨investigationId, request.name, arguments, result, now⟩).2
      rw [if_neg (by simp [unfit])] at hcommitted
      simp only [hcommitted, List.not_mem_nil, false_imp_iff, implies_true, true_and, true_iff]
      intro hrefused hauditable
      rw [← auditable_of_refused hrefused (statementsRead observed),
        ← attempt.fits_iff now, unfit] at hauditable
      cases hauditable
  | queryFailed hname hcall =>
      refine ⟨by simp [committedCalls, Observation.committed], iff_of_true ?_ ?_⟩
      · simp [committedCalls, Observation.committed]
      · intro hrefused
        rw [hcall] at hrefused
        cases hrefused

end Run

end TracePilot
