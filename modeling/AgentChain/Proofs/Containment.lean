import AgentChain.Proofs.Aborts
import AgentChain.Proofs.Classification
import AgentChain.Proofs.Halting

/-!
# Faults are contained

A collaborator may raise a fault at any call. A fault of the sink or of the disposal leaves no more
than a record in the log. A fault of the executor, of a completion check or of the task store ends
the stage that made the call, and with it the run: nothing begins after it, it is reported once, and
it is what the results say of the stage and of the chain. A loop stage that has no way to find out
whether its work is complete ends in the same way, before it begins anything.

A part of a run ends at a fault if nothing begins after it and all that it raises is that fault
(`EndsAt`). That holds of every part of a stage, for the fault with which the part itself ends.

Main statement: `faults_contained`.
-/

namespace AgentChain

/-- The message is what is told of the fault: its text, or its kind if it has no text. -/
structure Fault.ToldBy (f : Fault) (message : String) : Prop where
  of_text : f.text ≠ "" → message = f.text
  of_kind : f.text = "" → message = f.kind

/-- What a stage reports of a fault tells of it. -/
theorem Fault.toldBy_message (f : Fault) : f.ToldBy f.message := by
  unfold Fault.message
  split
  · next hempty => exact ⟨fun h => absurd hempty h, fun _ => rfl⟩
  · next htext => exact ⟨fun _ => rfl, fun h => absurd h htext⟩

namespace Entry

/-- The fault that was raised: by the executor, by reading a task, or by a completion check as a
whole. -/
def raised? : Entry → Option Fault
  | .spawn _ (.raised f) | .status (.raised f) | .verdict (.error f) => some f
  | _ => none

end Entry

namespace Run

/-! ## Faults and reports of faults -/

/-- The faults that were raised. -/
def raised (t : List Entry) : List Fault := t.filterMap Entry.raised?

/-- The faults that were reported to the sink. -/
def errorEvents (t : List Entry) : List Event := (events t).filter (·.kind = .error)

@[simp] theorem raised_nil : raised [] = [] := rfl

@[simp] theorem raised_append (t u : List Entry) : raised (t ++ u) = raised t ++ raised u :=
  List.filterMap_append

@[simp] theorem raised_cons (x : Entry) (t : List Entry) :
    raised (x :: t) = x.raised?.toList ++ raised t :=
  filterMap_cons_toList ..

@[simp] theorem errorEvents_nil : errorEvents [] = [] := rfl

@[simp] theorem errorEvents_append (t u : List Entry) :
    errorEvents (t ++ u) = errorEvents t ++ errorEvents u := by
  simp [errorEvents]

@[simp] theorem errorEvents_cons (x : Entry) (t : List Entry) :
    errorEvents (x :: t) = x.event?.toList.filter (·.kind = .error) ++ errorEvents t := by
  simp [errorEvents]

/-- A fault of the sink or of the disposal is only a record of the log, and does not count as
raised. -/
theorem Quiet.raised {t : List Entry} (h : Quiet t) : Run.raised t = [] :=
  h.filterMap (fun _ => rfl) fun _ => rfl

theorem Emits.raised {sink : Option Handle} {e : Event} {t : List Entry} (h : Emits sink e t) :
    Run.raised t = [] :=
  h.filterMap rfl (fun _ => rfl) fun _ => rfl

theorem Quiet.errorEvents {t : List Entry} (h : Quiet t) : Run.errorEvents t = [] := by
  simp [Run.errorEvents, h.events]

/-- An emission reports a fault exactly if that is its event, and there is a sink. -/
theorem Emits.errorEvents {sink : Option Handle} {e : Event} {t : List Entry}
    (h : Emits sink e t) :
    Run.errorEvents t = if e.kind = .error then (sink.map fun _ => e).toList else [] := by
  rw [Run.errorEvents, h.events]
  split <;> cases sink <;> simp_all

/-- The work on a stage reports no fault. -/
theorem errorEvents_eq_nil_of_ofWork {t : List Entry} (h : Each Entry.ofWork t) :
    errorEvents t = [] := by
  induction t with
  | nil => rfl
  | cons x t ih =>
    rcases List.forall_mem_cons.1 h with ⟨hx, ht⟩
    rw [errorEvents_cons, ih ht, List.append_nil]
    cases x with
    | event e => cases e <;> simp_all [Entry.ofWork, Entry.event?, Event.kind]
    | _ => rfl

/-! ## Nothing begins after a fault -/

/-- No stage, attempt or completion check begins after a fault. -/
def Stilled : List Entry → Prop
  | [] => True
  | x :: t => (x.raised?.isSome = true → Confined 0 0 t) ∧ Stilled t

section

variable {t u pre post : List Entry} {x : Entry} {p q : Fault → Prop}

/-- At any fault in a part that is stilled, nothing begins after it. -/
theorem Stilled.at (h : Stilled (pre ++ x :: post)) (hx : x.raised?.isSome = true) :
    Confined 0 0 post := by
  induction pre with
  | nil => exact h.1 hx
  | cons y pre ih => exact ih h.2

/-- Where nothing begins at all, nothing begins after a fault. -/
theorem Confined.stilled (h : Confined 0 0 t) : Stilled t := by
  induction t with
  | nil => trivial
  | cons x t ih => exact ⟨fun _ => h.tail, ih h.tail⟩

/-- Where nothing begins in the second part, it may come after a fault in the first. -/
theorem Stilled.append (ht : Stilled t) (hu : Confined 0 0 u) : Stilled (t ++ u) := by
  induction t with
  | nil => exact hu.stilled
  | cons x t ih => exact ⟨fun hx => (ht.1 hx).append hu, ih ht.2⟩

/-- Without a fault in the first part, it may come before anything. -/
theorem Stilled.after (ht : raised t = []) (hu : Stilled u) : Stilled (t ++ u) := by
  -- no entry of the first part is a fault, so that nothing need be said of what comes after it
  induction t with
  | nil => exact hu
  | cons x t ih =>
    rw [raised_cons, List.append_eq_nil_iff, Option.toList_eq_nil_iff] at ht
    exact ⟨by simp [ht.1], ih ht.2⟩

/-- Nothing begins after a fault, and every fault is of this sort. -/
structure EndsAt (p : Fault → Prop) (t : List Entry) : Prop where
  stilled : Stilled t
  raised : ∀ f ∈ Run.raised t, p f

/-- Faults of one sort are of any sort that includes it. -/
theorem EndsAt.mono (h : EndsAt p t) (hpq : ∀ f, p f → q f) : EndsAt q t :=
  ⟨h.stilled, fun f hf => hpq f (h.raised f hf)⟩

/-- Without a fault there is nothing to end at. -/
theorem EndsAt.of_raised (h : Run.raised t = []) : EndsAt p t := by
  refine ⟨?_, by simp [h]⟩
  have hnil : Stilled [] := trivial
  simpa using hnil.after h

/-- What raises none of the faults that it may raise has raised none. -/
theorem EndsAt.raised_eq_nil (h : EndsAt p t) (hp : ∀ f, ¬ p f) : Run.raised t = [] :=
  List.eq_nil_iff_forall_not_mem.2 fun f hf => hp f (h.raised f hf)

/-- A part without a fault may come before. -/
theorem EndsAt.after (h : EndsAt p u) (ht : Run.raised t = []) : EndsAt p (t ++ u) :=
  ⟨h.stilled.after ht, by simpa [ht] using h.raised⟩

/-- A part without a fault in which nothing begins may come after. -/
theorem EndsAt.append (h : EndsAt p t) (hu : Confined 0 0 u) (hf : Run.raised u = []) :
    EndsAt p (t ++ u) :=
  ⟨h.stilled.append hu, by simpa [hf] using h.raised⟩

end

/-! ## Where the parts of a stage end -/

variable {σ : Type} {c : Collaborators σ} {stage : Stage} {config : Config}
  {check : CompletionCheck σ} {limits : Constraints} {t : List Entry}

/-- Nothing begins after a fault of the executor, and it is what the attempt answers. -/
theorem Spawns.endsAt {answer : Except Fault SpawnResult}
    (h : Spawns stage config t (.ok answer)) : EndsAt (fun f => answer = .error f) t := by
  cases h with
  | raised f =>
    have hnil : Stilled [] := trivial
    exact ⟨⟨fun _ => Quiet.nil.confined, hnil⟩, by simp [Entry.raised?]⟩
  | failed hr hq => exact EndsAt.of_raised (by simp [Entry.raised?, hq.raised])
  | succeeded hr ht hu => exact EndsAt.of_raised (by simp [Entry.raised?, ht.raised, hu.raised])

/-- Only reading a status can raise a fault where nothing but statuses are read. -/
theorem Statuses.status_mem {f : Fault} (h : Statuses t) (hf : f ∈ raised t) :
    .status (.raised f) ∈ t := by
  rcases List.mem_filterMap.1 hf with ⟨x, hx, heq⟩
  rcases h x hx with ⟨outcome, rfl⟩
  cases outcome <;> simp [Entry.raised?] at heq
  rwa [heq] at hx

/-- Nothing begins after a fault in a completion check, and it is what the check answers. -/
theorem Asks.endsAt {root : Path} {answer : Except Fault Bool}
    (h : Asks check root t (.ok answer)) : EndsAt (fun f => answer = .error f) t := by
  cases h with
  | @answered t ht _ hr =>
    -- nothing begins once the check has: the tasks are read, and the verdict is given
    have hconfined : Confined 0 0 (t ++ [.verdict answer]) :=
      ⟨by simp [ht.events, Entry.event?], by simp [ht.spawns, Entry.spawn?],
        by simp [ht.checks, Entry.check?]⟩
    have hread : EndsAt (fun f => answer = .error f) (t ++ [.verdict answer]) := by
      refine ⟨hconfined.stilled, ?_⟩
      intro f hf
      rw [raised_append] at hf
      rcases List.mem_append.1 hf with hf | hf
      · exact hr f (ht.status_mem hf)
      · cases answer <;> simp_all [Entry.raised?]
    have hcheck : raised [checkEntry check root] = [] := by
      cases check <;> rfl
    exact hread.after hcheck

/-- A round is over with the first fault in it. -/
theorem Round.endsAt {n : Nat} {p : Option (Except Fault Ending)}
    (h : Round stage config check n t (.ok p)) : EndsAt (fun f => p = some (.error f)) t := by
  cases h with
  | @made t u v _ _ he hs hf =>
    have hround : EndsAt (fun f => p = some (.error f)) (u ++ v) := by
      -- a fault of the attempt leaves no room for a check, and one of the check comes after an
      -- attempt without a fault
      cases hf with
      | raised => simpa using hs.endsAt.mono (by simp)
      | failed hr => simpa using hs.endsAt.mono (by simp)
      | checkRaised hr ha | met hr ha | unmet hr ha =>
        have hattempt := hs.endsAt.raised_eq_nil (by simp)
        exact (ha.endsAt.mono (by simp)).after hattempt
    exact hround.after he.raised

/-- The rounds of a loop stage are over with the first fault in them. -/
theorem Attempts.endsAt {deadline : Float} {done left : Nat} {work : Work}
    (h : Attempts stage config check deadline done left t (.ok work)) :
    EndsAt (fun f => work.ending = .error f) t := by
  -- the rounds before the last one raised nothing, since each was followed by another
  induction h using Attempts.ok_induction with
  | spent | halted => exact EndsAt.of_raised rfl
  | @ended _ _ b now t e _ hr =>
    have hround : EndsAt (fun f => e = .error f) t := hr.endsAt.mono (by simp)
    exact hround.after (t := [.poll b deadline now]) rfl
  | @again _ _ b now t _ _ _ hr _ ih =>
    -- a round that is followed by another has not ended the stage
    have hround := hr.endsAt.raised_eq_nil (by simp)
    exact ih.after (t := .poll b deadline now :: t) (by simp [hround, Entry.raised?])

/-- The work on a stage is over with the first fault in it, which it ends in. -/
theorem Works.endsAt {work : Work} (h : Works c stage config limits t (.ok work)) :
    EndsAt (fun f => work.ending = .error f) t := by
  cases h with
  | once hl hs | onceRaised hl hs => exact hs.endsAt.mono (by simp)
  | unchecked => exact EndsAt.of_raised rfl
  | repeated hl hc ha hq => exact ha.endsAt.append hq.confined hq.raised

/-! ## A stage that a fault ends -/

variable (c) in
/-- A loop stage that has no way to find out whether its work is complete. -/
structure Unchecked (stage : Stage) : Prop where
  loop : stage.loop = true
  check : stage.check = none
  store : c.store = none

/-- A stage without a way to find out has no completion check to ask. -/
theorem Unchecked.of?_eq_none (h : Unchecked c stage) : CompletionCheck.of? c stage = none :=
  CompletionCheck.of?_eq_none_iff.2 ⟨h.check, by simp [h.store]⟩

variable (c) in
/-- The fault `f` ends a stage that leaves `t`. -/
inductive Strikes (stage : Stage) (t : List Entry) (f : Fault) : Prop where
  /-- It was raised while the stage was run. -/
  | raised (h : f ∈ raised t)
  /-- It is that of a loop stage without a completion check. -/
  | missing (h : Unchecked c stage) (hf : f = CompletionCheck.missing stage)

/-- The stage failed, and its error is this message. -/
structure FailedWith (message : String) (r : StageResult) : Prop where
  success : r.success = false
  stopReason : r.stopReason = some .stageFailed
  error : r.error = some message

/-- Without a completion check there is no work on a loop stage. -/
theorem Works.of_unchecked {work : Work} (h : Works c stage config limits t (.ok work))
    (hu : Unchecked c stage) : t = [] ∧ work.ending = .error (CompletionCheck.missing stage) := by
  have hnone := hu.of?_eq_none
  -- there is no check to go on with, so that the rounds of a loop stage are not come to
  cases h with
  | once hl hs | onceRaised hl hs => simp [hu.loop] at hl
  | unchecked => exact ⟨rfl, rfl⟩
  | repeated hl hc ha hq => simp [hnone] at hc

/-- The work on a stage that a fault ends has ended in this fault. -/
theorem Works.ending_of_strikes {work : Work} {f : Fault}
    (h : Works c stage config limits t (.ok work)) (hf : Strikes c stage t f) :
    work.ending = .error f := by
  cases hf with
  | raised hf => exact h.endsAt.raised f hf
  | missing hu hf =>
    rw [hf]
    exact (h.of_unchecked hu).2

variable {r : StageResult}

/-- A fault that is raised in a stage fails it. -/
theorem Performs.endsAt (h : Performs c stage config limits t (.ok r)) :
    EndsAt (fun f => FailedWith f.message r) t := by
  cases h with
  | ended _ hw => exact hw.endsAt.mono (by simp)
  | contained _ hw hq he =>
    -- the report of the fault begins nothing
    have hrest := hq.confined.append (he.confined (by simp))
    refine EndsAt.append (hw.endsAt.mono ?_) hrest (by simp [hq.raised, he.raised])
    rintro _ ⟨⟩
    exact ⟨rfl, rfl, rfl⟩

/-- A stage that succeeds has raised no fault. -/
theorem Performs.raised_eq_nil (h : Performs c stage config limits t (.ok r))
    (hr : r.success = true) : raised t = [] :=
  h.endsAt.raised_eq_nil fun f hf => by simp [hf.success] at hr

/-- A stage that succeeds has reported no fault. -/
theorem Performs.errorEvents_eq_nil (h : Performs c stage config limits t (.ok r))
    (hr : r.success = true) : errorEvents t = [] := by
  cases h with
  | ended _ hw => exact errorEvents_eq_nil_of_ofWork hw.ofWork
  | contained => simp at hr

/-- A stage that a fault ends fails with it, and reports it. -/
theorem Performs.of_strikes {f : Fault} (h : Performs c stage config limits t (.ok r))
    (hf : Strikes c stage t f) : FailedWith f.message r ∧
      errorEvents t = (config.sink.map fun _ => .error f.message stage).toList := by
  cases h with
  | ended _ hw => simpa using hw.ending_of_strikes hf
  | @contained t _ _ _ g _ hw hq he =>
    -- the fault was raised in the work, since the report of a fault raises none
    have hwork : Strikes c stage t f := by
      cases hf with
      | raised hf => exact Strikes.raised (by simpa [hq.raised, he.raised] using hf)
      | missing hu hf => exact Strikes.missing hu hf
    rcases hw.ending_of_strikes hwork with ⟨⟩
    refine ⟨⟨rfl, rfl, rfl⟩, ?_⟩
    simp [errorEvents_eq_nil_of_ofWork hw.ofWork, hq.errorEvents, he.errorEvents, Event.kind]

/-- Nothing begins in a loop stage without a completion check. -/
theorem Performs.confined_of_unchecked (h : Performs c stage config limits t (.ok r))
    (hu : Unchecked c stage) : Confined 0 0 t := by
  cases h with
  | ended _ hw => simpa using (hw.of_unchecked hu).2
  | contained _ hw hq he =>
    rw [(hw.of_unchecked hu).1]
    exact hq.confined.append (he.confined (by simp))

/-! ## A run that a fault ends -/

variable {index : Nat} {list : List Stage} {legs : List Leg} {early : Option StopReason} {leg : Leg}

/-- All faults are raised in the legs of a run. -/
theorem Passes.raised_eq (h : Passes c config index limits list legs t (.ok early)) :
    raised t = legs.flatMap (raised ·.part) := by
  -- what comes between the legs are polls, emissions and records of the log
  induction h using Passes.ok_induction with
  | through => rfl
  | halted => simp [Entry.raised?, stopEntry]
  | failed _ _ hs _ he _ => simp [Entry.raised?, hs.raised, he.raised]
  | passed _ hs _ he _ _ ih => simp [Entry.raised?, hs.raised, he.raised, ih]

/-- Nothing begins after a fault in the stages of a chain. -/
theorem Passes.stilled (h : Passes c config index limits list legs t (.ok early)) : Stilled t := by
  -- only the last stage that is run can raise a fault: the ones before it succeeded
  induction h using Passes.ok_induction with
  | through => trivial
  | halted => exact ((quiet_log _).confined.cons rfl rfl rfl).stilled
  | @failed _ limits _ _ b now t _ _ _ _ hs hr he _ =>
    have hleg := hr.performs.endsAt.stilled.append (he.confined (by simp))
    exact hleg.after (t := .poll b limits.deadline now :: t) (by simp [Entry.raised?, hs.raised])
  | @passed _ limits _ _ b now t u v _ _ _ _ _ hs hr he hf _ ih =>
    have hleg := hr.performs.raised_eq_nil hf
    have hfront : raised (.poll b limits.deadline now :: (t ++ (u ++ v))) = [] := by
      simp [Entry.raised?, hs.raised, hleg, he.raised]
    simpa using ih.after hfront

/-- A leg that failed is the last. No fault is reported before it or after it, and nothing begins
after it. -/
theorem Passes.last_of_failed (h : Passes c config index limits list legs t (.ok early)) {k : Nat}
    (hk : legs[k]? = some leg) (hf : leg.result.success = false) : k + 1 = legs.length ∧
      ∃ pre post, t = pre ++ (leg.part ++ post) ∧ Confined 0 0 post ∧
        errorEvents pre = [] ∧ errorEvents post = [] := by
  induction h using Passes.ok_induction generalizing k with
  | through | halted => simp at hk
  | @failed _ limits _ _ b now t u v _ _ hs hr he _ =>
    cases k with
    | zero =>
      rcases hk with ⟨⟩
      refine ⟨rfl, .poll b limits.deadline now :: t, v, rfl, he.confined (by simp), ?_, ?_⟩
      · simp [Entry.event?, hs.errorEvents, Event.kind]
      · simp [he.errorEvents, Event.kind]
    | succ k => simp at hk
  | @passed _ limits _ _ b now t u v _ r _ _ _ hs hr he hsuccess _ ih =>
    -- this leg succeeded, so that the failed one is among those after it
    cases k with
    | zero =>
      rcases hk with ⟨⟩
      simp [hsuccess] at hf
    | succ k =>
      rcases ih hk with ⟨hlast, pre, post, rfl, hpost, hpre⟩
      refine ⟨by simp [hlast], .poll b limits.deadline now :: (t ++ (u ++ (v ++ pre))), post,
        by simp, hpost, ?_⟩
      have hleg := hr.performs.errorEvents_eq_nil hsuccess
      simpa [Entry.event?, hs.errorEvents, he.errorEvents, hleg, Event.kind] using hpre

/-- Around its stages a run raises no fault and reports none, and after them nothing begins. -/
theorem Runs.around {start : Float} {R : ChainResult} (h : Runs c config start legs t (.ok R)) :
    ∃ pre u post early, t = pre ++ (u ++ post) ∧
      Passes c config 0 (fullConstraints config start) config.stages legs u (.ok early) ∧
      (raised pre = [] ∧ errorEvents pre = []) ∧
      (raised post = [] ∧ errorEvents post = []) ∧ Confined 0 0 post := by
  cases h with
  | @returned logs s u v x y _ _ early cancelled hq hs hp hd hx he =>
    refine ⟨logs ++ s, u, .dispose :: (v ++ .lastPoll cancelled :: (x ++ y)), early,
      (List.append_assoc ..).symm, hp, ⟨?_, ?_⟩, ⟨?_, ?_⟩, ?_⟩
    · simp [hq.raised, hs.raised]
    · simp [hq.errorEvents, hs.errorEvents, Event.kind]
    · simp [Entry.raised?, hd.raised, hx.raised, he.raised]
    · simp [Entry.event?, hd.errorEvents, hx.errorEvents, he.errorEvents, Event.kind]
    · have hend := hx.confined.append (he.confined (by simp))
      exact (hd.confined.append (hend.cons rfl rfl rfl)).cons rfl rfl rfl

/-- A fault ended the leg number `k`, and with it the run, and this message is told of it. -/
structure EndsWith (config : Config) (t : List Entry) (R : ChainResult) (k : Nat) (leg : Leg)
    (message : String) : Prop where
  /-- The stage is the last that was run. -/
  last : k + 1 = R.stageResults.length
  result : FailedWith message leg.result
  /-- The attempts that were begun are counted. -/
  iterations_eq : leg.result.iterations = (spawns leg.part).length
  /-- The sink, if there is one, was given one report of a fault in the whole run. -/
  errorEvents_eq :
    errorEvents t = (config.sink.map fun _ => .error message leg.result.stage).toList
  /-- Every kind of faults has a name, so that the message is not empty. -/
  errors_eq : message ≠ "" → R.errors = [message]
  stopReason_eq : R.stopReason = some .stageFailed
  nothing_after : ∃ pre post, t = pre ++ (leg.part ++ post) ∧ Confined 0 0 post

variable (c) in
/-- The faults that the executor, the completion checks and the task store raise in a run with these
legs are contained. -/
structure Contained (config : Config) (t : List Entry) (R : ChainResult) (legs : List Leg) :
    Prop where
  /-- All faults are raised in the legs. -/
  raised_eq : raised t = legs.flatMap (raised ·.part)
  nothing_after : ∀ pre x post, t = pre ++ x :: post → x.raised?.isSome = true → Confined 0 0 post
  ends : ∀ k leg f, legs[k]? = some leg → Strikes c leg.result.stage leg.part f →
    ∃ message, f.ToldBy message ∧ EndsWith config t R k leg message
  /-- Without a completion check, a loop stage makes no attempt. -/
  idle : ∀ leg ∈ legs, Unchecked c leg.result.stage →
    leg.result.iterations = 0 ∧ Confined 0 0 leg.part

/-- A chain reports the message of the fault with which its last stage failed. -/
theorem Classified.errors_of_failedWith {R : ChainResult} {message : String}
    (h : Classified config t R) (hr : R.stageResults.getLast? = some r)
    (hf : FailedWith message r) (hne : message ≠ "") : R.errors = [message] := by
  rcases h.errors_eq r hr hf.success with ⟨told, herrors, hreports⟩
  -- the stage need not be named, since it has an error that is not empty
  rcases hreports.tells with htells | ⟨hnone | hempty, -⟩
  · rw [hf.error] at htells
    cases htells
    exact herrors
  · simp [hf.error] at hnone
  · simp [hf.error, hne] at hempty

/-- A fault that ends a leg ends the run with it, and its message is told of it. -/
theorem Runs.endsWith {start : Float} {R : ChainResult} {k : Nat} {f : Fault}
    (h : Runs c config start legs t (.ok R)) (hk : legs[k]? = some leg)
    (hf : Strikes c leg.result.stage leg.part f) : EndsWith config t R k leg f.message := by
  have hlegs := h.hasLegs
  have hperforms := (hlegs.takes k leg hk).performs
  rcases hperforms.of_strikes hf with ⟨hfailed, hevents⟩
  rcases h.around with ⟨pre, u, post, early, rfl, hp, ⟨-, hpre⟩, ⟨-, hpost⟩, hconfined⟩
  rcases hp.last_of_failed hk hfailed.success with
    ⟨hlast, front, rest, rfl, hrest, hfront, hback⟩
  have hresults : R.stageResults.length = legs.length := by simp [hlegs.results_eq]
  -- the leg is the last, so that what is said of the last result is said of its result
  have hgetLast : R.stageResults.getLast? = some leg.result := by
    rw [hlegs.results_eq, List.getLast?_map, List.getLast?_eq_getElem?, ← hlast,
      Nat.add_sub_cancel, hk]
    rfl
  refine ⟨by omega, hfailed, hperforms.length_spawns.symm, ?_, ?_, ?_, ?_⟩
  · simpa [hpre, hpost, hfront, hback] using hevents
  · exact h.classified.errors_of_failedWith hgetLast hfailed
  · exact h.classified.failed_iff.2 ⟨leg.result, hgetLast, hfailed.success⟩
  · exact ⟨pre ++ front, rest ++ post, by simp, hrest.append hconfined⟩

/-- In every course that returns a result the faults of the stages are contained. -/
theorem Runs.contained {start : Float} {R : ChainResult} (h : Runs c config start legs t (.ok R)) :
    Contained c config t R legs := by
  refine ⟨?_, ?_, fun k leg f hk hf => ⟨_, f.toldBy_message, h.endsWith hk hf⟩, ?_⟩
  · rcases h.around with ⟨pre, u, post, early, rfl, hp, ⟨hpre, -⟩, ⟨hpost, -⟩, -⟩
    simp [hpre, hpost, hp.raised_eq]
  -- in front of the stages there is no fault, and behind them nothing begins
  · rintro before x after ht hx
    rcases h.around with ⟨pre, u, post, early, rfl, hp, ⟨hpre, -⟩, -, hpost⟩
    have hstilled := (hp.stilled.append hpost).after hpre
    rw [ht] at hstilled
    exact hstilled.at hx
  · intro leg hleg hu
    rcases List.mem_iff_getElem?.1 hleg with ⟨k, hk⟩
    have hperforms := (h.hasLegs.takes k leg hk).performs
    have hconfined := hperforms.confined_of_unchecked hu
    refine ⟨?_, hconfined⟩
    have hnone := hconfined.spawns
    have hlen := hperforms.length_spawns
    omega

/-- However its collaborators raise faults, a run returns a result unless one of them aborts it. A
fault that is raised while a stage is run, or that of a loop stage without a completion check, ends
the stage and the run, and is what the results and the one report of it say. -/
theorem faults_contained (h : ∀ e, ¬ Aborts c e) (config : Config) (w : σ) :
    ∃ R legs, outcomeFrom (chain c config) w = .ok R ∧
      HasLegs c config (startTime c w) (journalFrom (chain c config) w) R.stageResults legs ∧
      Contained c config (journalFrom (chain c config) w) R legs := by
  rcases chain_returns h config w with ⟨R, hR⟩
  rcases chain_runs c config w with ⟨legs, hr⟩
  rw [hR] at hr
  exact ⟨R, legs, hR, hr.hasLegs, hr.contained⟩

/-- Collaborators that raise faults: the sink at every event, the executor at its disposal, and the
only task there is when its status is read once more, where the fault is `f`. The world counts the
readings. -/
def brittle (f : Fault) : Collaborators Nat where
  clock w := (0, w)
  isSet _ w := (false, w)
  sink _ _ w := { outcome := .raised ⟨"RuntimeError", "sink"⟩, state := w }
  check _ _ w := (.answered true, w)
  executor := {
    name := "agents"
    spawn := fun _ w => (.answered { success := true, sessionId := "s" }, w)
    dispose := fun w => (.raised ⟨"OSError", "disposal"⟩, w) }
  store := some { listTasks := fun _ w => (.answered (some [{ status := fun w =>
    (if w = 0 then .answered .other else .raised f, w + 1) }]), w) }

/-- All that these collaborators raise are faults. -/
theorem not_aborts_brittle (f : Fault) (e : Abort) : ¬ Aborts (brittle f) e := by
  intro h
  cases h with
  | sink | spawn | dispose | check => simp_all [brittle]
  | listTasks hs _ _ ho =>
    cases hs
    simp at ho
  | status hs _ _ hl ht w' ho =>
    cases hs
    cases hl
    rcases List.mem_singleton.1 ht with rfl
    dsimp only at ho
    split at ho <;> cases ho

/-- A loop stage that the task store decides about and one after it, with a sink. -/
def brittleConfig : Config where
  stages := [{ name := sampleName, loop := true }, { name := sampleName }]
  root := ⟨.root, ["p"]⟩
  sink := some ⟨0⟩

/-- The second iteration of the first stage raises the fault, which ends the stage and the run with
this message. -/
structure EndsSecond (f : Fault) (message : String) : Prop where
  not_aborts : ∀ e, ¬ Aborts (brittle f) e
  ends : ∃ R leg, outcomeFrom (chain (brittle f) brittleConfig) 0 = .ok R ∧
    Strikes (brittle f) leg.result.stage leg.part f ∧
    EndsWith brittleConfig (journalFrom (chain (brittle f) brittleConfig) 0) R 0 leg message ∧
    leg.result.iterations = 2 ∧ R.errors = [message]

/-- With one stage run there is one leg, so that the fault was raised in it. -/
theorem Contained.endsSecond {f : Fault} {message : String} {R : ChainResult} {legs : List Leg}
    (h : Contained (brittle f) brittleConfig
      (journalFrom (chain (brittle f) brittleConfig) 0) R legs)
    (hR : outcomeFrom (chain (brittle f) brittleConfig) 0 = .ok R)
    (hlegs : R.stageResults = legs.map (·.result))
    (hrun : (outcomeFrom (chain (brittle f) brittleConfig) 0).toOption.map
      (fun R => R.stageResults.map (·.iterations)) = some [2])
    (hraised : f ∈ raised (journalFrom (chain (brittle f) brittleConfig) 0))
    (hmessage : ∀ told, f.ToldBy told → told = message) (hne : message ≠ "") :
    EndsSecond f message := by
  have hiterations : R.stageResults.map (·.iterations) = [2] := by
    simpa [hR, Except.toOption] using hrun
  rw [hlegs, List.map_map] at hiterations
  rcases List.map_eq_singleton_iff.1 hiterations with ⟨leg, rfl, htwo⟩
  rw [h.raised_eq, List.flatMap_singleton] at hraised
  have hstrikes : Strikes (brittle f) leg.result.stage leg.part f := .raised hraised
  rcases h.ends 0 leg f rfl hstrikes with ⟨told, htold, hends⟩
  rw [hmessage told htold] at hends
  exact ⟨not_aborts_brittle f, R, leg, hR, hstrikes, hends, htwo, hends.errors_eq hne⟩

/-- A fault without a text is reported by its kind, and one with a text by the text. -/
theorem second_reading_contained :
    EndsSecond ⟨"KeyError", ""⟩ "KeyError" ∧ EndsSecond ⟨"OSError", "disk full"⟩ "disk full" := by
  constructor
  · rcases faults_contained (not_aborts_brittle _) brittleConfig 0 with ⟨R, legs, hR, hlegs, h⟩
    exact h.endsSecond hR hlegs.results_eq (by decide +kernel) (by decide +kernel)
      (fun told htold => htold.of_kind rfl) (by decide)
  · rcases faults_contained (not_aborts_brittle _) brittleConfig 0 with ⟨R, legs, hR, hlegs, h⟩
    exact h.endsSecond hR hlegs.results_eq (by decide +kernel) (by decide +kernel)
      (fun told htold => htold.of_text (by decide)) (by decide)

end Run

end AgentChain
