import Mathlib.Algebra.Ring.Int.Defs
import Mathlib.Data.List.Basic
import AgentChain.Proofs.Course

/-!
# Requests to the executor

Every attempt at a stage is one call of the executor, whether it succeeds, fails or raises a fault,
and all attempts at a stage make the same request. The calls of a whole run are therefore told by
the results of its stages: for each of them, in order, so many copies of its request as it reports
iterations. The request is that of the stage under the configuration of the run, with a prompt and a
model that are never empty.

Main statement: `requests_accounted`.
-/

namespace AgentChain

/-! ## What a stage requests -/

/-- There is an instruction for every role, built in or not. -/
theorem instructionFor_ne_empty (name : String) : instructionFor name ≠ "" := by
  unfold instructionFor
  cases Role.ofName? name with
  | none => decide
  | some role => cases role <;> decide

theorem Role.model_ne_empty (role : Role) : role.model ≠ "" := by
  cases role <;> decide

/-- What an attempt at a stage requests of the executor. -/
structure RequestsFor (config : Config) (stage : Stage) (request : SpawnRequest) : Prop where
  role_eq : request.role = stage.name.text
  directory_eq : request.directory = config.root
  signal_eq : request.signal = config.signal
  /-- The prompt is the stage's own, or else the instruction of its role. -/
  prompt : Prefers stage.prompt (instructionFor stage.name.text) request.prompt
  prompt_ne_empty : request.prompt ≠ ""
  /-- The model is the one that the run assigns, or else that of a built-in role, or the model on
  which custom roles fall back. -/
  model : ∃ model, request.model = some model ∧ model ≠ "" ∧
    (∀ role : Role, stage.name.text = role.name →
      Prefers (config.models.bind (·.entry role)) role.model model) ∧
    ((∀ role : Role, stage.name.text ≠ role.name) →
      Prefers (config.models.bind (·.custom)) Role.fallbackModel model)

namespace Run

/-- The request of a stage takes the stage's own values before those of the run, and those of the
run before those of the role. -/
theorem requestsFor_requestFor (stage : Stage) (config : Config) :
    RequestsFor config stage (requestFor stage config) := by
  have hprompt := prefers_getD stage.prompt (instructionFor stage.name.text)
  refine ⟨rfl, rfl, rfl, hprompt, hprompt.ne_empty (instructionFor_ne_empty _),
    modelFor stage.name.text config.models, rfl, ?_⟩
  unfold modelFor
  -- the model is chosen by whether the role is built in
  cases hrole : Role.ofName? stage.name.text with
  | some role =>
    have hname := ofName?_text_eq_some_iff.1 hrole
    have hmodel := prefers_getD (config.models.bind (·.entry role)) role.model
    refine ⟨hmodel.ne_empty role.model_ne_empty, ?_, fun hcustom => absurd hname (hcustom role)⟩
    intro role' hname'
    -- a name belongs to one role
    have hsame := ofName?_text_eq_some_iff.2 hname'
    rw [hrole] at hsame
    cases hsame
    exact hmodel
  | none =>
    have hmodel := prefers_getD (config.models.bind (·.custom)) Role.fallbackModel
    refine ⟨hmodel.ne_empty (by decide), ?_, fun _ => hmodel⟩
    intro role hname
    rw [ofName?_text_eq_some_iff.2 hname] at hrole
    cases hrole

/-! ## All attempts at a stage make its request -/

/-- The requests that the executor was given. -/
def requests (t : List Entry) : List SpawnRequest := (spawns t).map (·.1)

@[simp] theorem requests_append (t u : List Entry) :
    requests (t ++ u) = requests t ++ requests u := by
  simp [requests]

theorem requests_eq_nil {t : List Entry} (h : spawns t = []) : requests t = [] := by
  simp [requests, h]

theorem requests_poll (b : Bool) (deadline now : Float) (t : List Entry) :
    requests (.poll b deadline now :: t) = requests t := by
  simp [requests, Entry.spawn?]

variable {σ : Type} {c : Collaborators σ} {stage : Stage} {config : Config} {limits : Constraints}
  {check : CompletionCheck σ} {t : List Entry}

/-- An attempt makes one request, that of the stage, however the call ends. -/
theorem Spawns.requests {o : Except Abort (Except Fault SpawnResult)}
    (h : Spawns stage config t o) : Run.requests t = [requestFor stage config] := by
  obtain ⟨outcome, hone, -⟩ := h.spawns
  simp [Run.requests, hone]

/-- A round of a loop stage makes no request but that of the stage. -/
theorem Round.requests {n : Nat} {p : Except Abort (Option (Except Fault Ending))}
    (h : Round stage config check n t p) :
    ∀ request ∈ Run.requests t, request = requestFor stage config := by
  cases h with
  | cut e he => simp [requests_eq_nil he.spawns]
  | made he hs hf =>
    simp [requests_eq_nil he.spawns, hs.requests, requests_eq_nil hf.spawns]

/-- The request stays the same from round to round. -/
theorem Attempts.requests {deadline : Float} {done left : Nat} {o : Except Abort Work}
    (h : Attempts stage config check deadline done left t o) :
    ∀ request ∈ Run.requests t, request = requestFor stage config := by
  -- a poll before a round requests nothing
  induction h with
  | spent | halted => simp [Run.requests, Entry.spawn?]
  | cut _ hr | ended _ hr =>
    rw [requests_poll]
    exact hr.requests
  | again _ hr _ ih =>
    rw [requests_poll, requests_append]
    exact List.forall_mem_append.2 ⟨hr.requests, ih⟩

/-- Whether a stage loops or not, it makes no other request. -/
theorem Works.requests {o : Except Abort Work} (h : Works c stage config limits t o) :
    ∀ request ∈ Run.requests t, request = requestFor stage config := by
  cases h with
  | once _ hs | onceRaised _ hs | onceCut _ hs => simp [hs.requests]
  | unchecked => simp [Run.requests]
  | repeated _ _ ha hq => simpa [requests_eq_nil hq.spawns] using ha.requests

/-- A stage requests nothing but attempts at itself. -/
theorem Performs.requests {o : Except Abort StageResult} (h : Performs c stage config limits t o) :
    ∀ request ∈ Run.requests t, request = requestFor stage config := by
  cases h with
  | ended _ hw | cut hw => exact hw.requests
  | contained _ hw hq he | containCut _ hw hq he =>
    simpa [requests_eq_nil hq.spawns, requests_eq_nil he.spawns] using hw.requests

/-- A stage makes its request once for every iteration that it reports. -/
theorem Performs.requests_eq {r : StageResult} (h : Performs c stage config limits t (.ok r)) :
    Run.requests t = List.replicate r.iterations.toNat (requestFor stage config) := by
  rw [List.eq_replicate_iff]
  constructor
  · have hlen := h.length_spawns
    simp only [Run.requests, List.length_map]
    omega
  · exact h.requests

/-! ## The requests of a run -/

variable {start : Float} {results : List StageResult} {legs : List Leg}

/-- Behind every leg there is a stage that ran. -/
theorem HasLegs.performs (h : HasLegs c config start t results legs) {leg : Leg}
    (hleg : leg ∈ legs) : ∃ limits, Performs c leg.result.stage config limits leg.part
      (.ok leg.result) := by
  obtain ⟨k, hk⟩ := List.getElem?_of_mem hleg
  exact ⟨_, (h.takes k leg hk).performs⟩

/-- The requests of a run are those of its results, in order. -/
theorem HasLegs.requests_eq (h : HasLegs c config start t results legs) :
    requests t =
      results.flatMap fun r => List.replicate r.iterations.toNat (requestFor r.stage config) := by
  -- the calls of a run are those in its legs, and each leg repeats one request
  have hleg : ∀ leg ∈ legs, (spawns leg.part).map (·.1) =
      List.replicate leg.result.iterations.toNat (requestFor leg.result.stage config) := by
    intro leg hmem
    obtain ⟨limits, hp⟩ := h.performs hmem
    exact hp.requests_eq
  calc requests t
      = legs.flatMap fun leg => (spawns leg.part).map (·.1) := by
        rw [requests, h.spawns_eq, List.map_flatMap]
    _ = legs.flatMap fun leg => List.replicate leg.result.iterations.toNat
          (requestFor leg.result.stage config) := List.flatMap_congr hleg
    _ = _ := by rw [h.results_eq, List.flatMap_map]

/-- A result counts calls, so that its iterations are not negative. -/
theorem HasLegs.iterations_nonneg (h : HasLegs c config start t results legs) :
    ∀ r ∈ results, 0 ≤ r.iterations := by
  rw [h.results_eq, List.forall_mem_map]
  intro leg hleg
  obtain ⟨limits, hp⟩ := h.performs hleg
  rw [← hp.length_spawns]
  exact Int.natCast_nonneg _

/-- With copies by iterations there are as many as iterations in all. -/
theorem length_flatMap_replicate {α : Type} {f : StageResult → α}
    (h : ∀ r ∈ results, 0 ≤ r.iterations) :
    ((results.flatMap fun r => List.replicate r.iterations.toNat (f r)).length : Int) =
      (results.map (·.iterations)).sum := by
  induction results with
  | nil => rfl
  | cons r results ih =>
    rw [List.forall_mem_cons] at h
    have hrest := ih h.2
    have hfirst := Int.toNat_of_nonneg h.1
    simp only [List.flatMap_cons, List.length_append, List.length_replicate, List.map_cons,
      List.sum_cons]
    omega

/-- What the executor was asked for in a run is, result by result, the request of the stage, once
for every iteration that is reported, and so there are as many calls as iterations in all. -/
theorem requests_accounted {w : σ} {R : ChainResult}
    (h : outcomeFrom (chain c config) w = .ok R) :
    (requests (journalFrom (chain c config) w) =
        R.stageResults.flatMap fun r =>
          List.replicate r.iterations.toNat (requestFor r.stage config)) ∧
      (∀ r ∈ R.stageResults,
        0 ≤ r.iterations ∧ RequestsFor config r.stage (requestFor r.stage config)) ∧
      ((spawns (journalFrom (chain c config) w)).length : Int) =
        (R.stageResults.map (·.iterations)).sum := by
  obtain ⟨legs, hlegs⟩ := chain_legs h
  have hrequests := hlegs.requests_eq
  have hnonneg := hlegs.iterations_nonneg
  refine ⟨hrequests, fun r hr => ⟨hnonneg r hr, requestsFor_requestFor r.stage config⟩, ?_⟩
  -- there is a request for every call
  have hlen := congrArg List.length hrequests
  rw [requests, List.length_map] at hlen
  rw [hlen]
  exact length_flatMap_replicate hnonneg

/-- An executor that raises a fault at its third call. The world counts the calls. -/
def tiring : Collaborators Nat where
  clock w := (0, w)
  isSet _ w := (false, w)
  sink _ _ w := { outcome := .answered (), state := w }
  check _ _ w := (.answered false, w)
  executor := {
    name := "agents"
    spawn := fun _ w =>
      (if w = 2 then .raised ⟨"OSError", "gone"⟩ else .answered { success := true }, w + 1)
    dispose := fun w => (.answered (), w) }

/-- A stage with an empty prompt and a loop stage with a prompt of its own, when a model is assigned
to workers. -/
def promptedConfig : Config where
  stages := [{ name := sampleName, prompt := some "" },
    { name := sampleName, loop := true, check := some ⟨0⟩, prompt := some "Go on." }]
  root := ⟨.root, ["p"]⟩
  models := some { worker := some "m" }

/-- The attempt that raises the fault is a call and an iteration like the others. -/
theorem faulty_attempt_accounted :
    ∃ R, outcomeFrom (chain tiring promptedConfig) 0 = .ok R ∧
      R.stageResults.map (fun r => (r.success, r.iterations)) = [(true, 1), (false, 2)] ∧
      (requests (journalFrom (chain tiring promptedConfig) 0)).map (fun q => (q.prompt, q.model)) =
        [("Pick up the next ready task and implement it.", some "m"), ("Go on.", some "m"),
          ("Go on.", some "m")] ∧
      requests (journalFrom (chain tiring promptedConfig) 0) =
        R.stageResults.flatMap fun r =>
          List.replicate r.iterations.toNat (requestFor r.stage promptedConfig) := by
  have hrun : (outcomeFrom (chain tiring promptedConfig) 0).toOption.map
      (fun R => R.stageResults.map fun r => (r.success, r.iterations)) =
        some [(true, 1), (false, 2)] := by
    decide +kernel
  obtain ⟨R, hR, hmap⟩ := exists_of_toOption_map hrun
  exact ⟨R, hR, hmap, by decide +kernel, (requests_accounted hR).1⟩

end Run

end AgentChain
