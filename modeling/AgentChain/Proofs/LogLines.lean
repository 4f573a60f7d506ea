import AgentChain.Event.Sink
import AgentChain.Proofs.Durations
import AgentChain.Record.Read
import AgentChain.Text.Lines

/-!
# Lines of the log

The text of an event takes some texts from outside as they are: names of stages, roles, ids of
sessions, and messages of faults. It breaks into lines where these do, and nowhere else, since
numbers and durations are written without line breaks. So an event is one line of the log exactly if
all that it takes from outside is. Nothing keeps line breaks away from it: of a name only the blanks
at its ends are taken away, and ids and messages are written as they are.

An event has no text if the thousandfold of its duration is infinite.

Main statement: `one_line_iff`.
-/

namespace AgentChain

open Text

/-- The text of a duration has no line breaks. -/
theorem lineBreaks_duration (millis : Nat) : lineBreaks (Duration.text millis) = [] := by
  -- every form is made of numbers and units
  have hunit : ∀ (n : Nat) (unit : String), unit.toList.any isLineBreak = false →
      lineBreaks (toString n ++ unit) = [] := by
    intro n unit h
    rw [lineBreaks_append, lineBreaks_toString, lineBreaks_eq_nil h, List.append_nil]
  unfold Duration.text
  dsimp only
  split
  · exact hunit _ "ms" (by decide)
  · split
    · exact hunit _ "s" (by decide)
    · split
      · exact hunit _ "m" (by decide)
      · rw [String.append_assoc, lineBreaks_append, hunit _ "m " (by decide),
          hunit _ "s" (by decide), List.append_nil]

namespace Event

/-! ## What an event shows -/

/-- The texts from outside that an event shows, in order. -/
def suppliedTexts : Event → List String
  | .chainStart stages => stages.map (·.name.text)
  | .chainEnd _ => []
  | .stageStart stage _ => [stage.name.text]
  | .stageEnd stage result => stage.name.text :: result.error.toList
  | .stageIteration stage _ => [stage.name.text]
  | .agentSpawned role sessionId => [role, sessionId]
  | .agentCompleted role sessionId => [role, sessionId]
  | .error message stage => (stage.map (·.name.text)).toList ++ [message]

/-- The duration that an event shows. -/
def shownDuration? : Event → Option Float
  | .chainEnd result => some result.duration
  | .stageEnd _ result => some result.duration
  | _ => none

/-- The event shows a duration of which a thousandfold is infinite. -/
def Overflows (e : Event) : Prop :=
  ∃ seconds, e.shownDuration? = some seconds ∧
    Number.Binary64.ofFloat (Duration.scaled seconds) = .infinite false

/-- An event has no text exactly if its duration has none. -/
theorem text?_eq_none_iff_duration {e : Event} :
    e.text? = none ↔
      ∃ seconds, e.shownDuration? = some seconds ∧ Duration.text? seconds = none := by
  cases e with
  | chainEnd result =>
    cases h : Duration.text? result.duration <;> simp [text?, shownDuration?, h]
  | stageEnd stage result =>
    cases h : Duration.text? result.duration <;> simp [text?, shownDuration?, h]
  | _ => simp [text?, shownDuration?]

/-- An event has no text exactly if its duration overflows. -/
theorem text?_eq_none_iff {e : Event} : e.text? = none ↔ e.Overflows := by
  rw [text?_eq_none_iff_duration]
  refine exists_congr fun seconds => and_congr_right fun _ => ?_
  rw [← Duration.millis?_eq_none_iff]
  exact Option.map_eq_none_iff

/-- The error of a result stands behind a colon, unless it is missing or empty. -/
theorem lineBreaks_error (error : Option String) :
    lineBreaks (((nonEmpty? error).map (": " ++ ·)).getD "") = error.toList.flatMap lineBreaks := by
  cases error with
  | none => rfl
  | some message =>
    -- an empty error is left out, and has no line breaks to lose
    by_cases hempty : message = ""
    · subst hempty
      rfl
    · have hkept : nonEmpty? (some message) = some message := by
        simp [nonEmpty?, Option.filter, hempty]
      simp (disch := decide) [hkept, lineBreaks_append, lineBreaks_eq_nil]

/-- A text that a duration is put into is that of some whole number of milliseconds. -/
theorem exists_millis_of_bind {seconds : Float} {f : String → String} {t : String}
    (h : (Duration.text? seconds).bind (fun duration => some (f duration)) = some t) :
    ∃ millis, f (Duration.text millis) = t := by
  obtain ⟨duration, hduration, hf⟩ := Option.bind_eq_some_iff.1 h
  obtain ⟨millis, -, rfl⟩ := Option.map_eq_some_iff.1 hduration
  exact ⟨millis, Option.some.inj hf⟩

/-- The text of an event has the line breaks of what it takes from outside, and no others. -/
theorem lineBreaks_text? {e : Event} {t : String} (h : e.text? = some t) :
    lineBreaks t = e.suppliedTexts.flatMap lineBreaks := by
  -- in each text the words around what is supplied have no line breaks, which `decide` finds
  cases e with
  | chainStart stages =>
    obtain rfl := Option.some.inj h
    have hnames : lineBreaks (pipelineText stages) =
        (stages.map (·.name.text)).flatMap lineBreaks :=
      lineBreaks_intercalate (by decide) _
    simp (disch := decide) only [lineBreaks_append, lineBreaks_eq_nil, hnames, List.nil_append,
      suppliedTexts]
  | chainEnd result =>
    obtain ⟨millis, rfl⟩ := exists_millis_of_bind h
    have hverdict : lineBreaks (if result.success then "Complete" else "Failed") = [] := by
      split <;> decide
    simp (disch := decide) only [lineBreaks_append, lineBreaks_eq_nil, lineBreaks_duration,
      hverdict, List.append_nil, suppliedTexts, List.flatMap_nil]
  | stageStart stage index =>
    obtain rfl := Option.some.inj h
    simp (disch := decide) [lineBreaks_append, lineBreaks_eq_nil, suppliedTexts]
  | stageEnd stage result =>
    obtain ⟨millis, rfl⟩ := exists_millis_of_bind h
    have hverdict : lineBreaks (if result.success then "Completed" else "Failed") = [] := by
      split <;> decide
    simp (disch := decide) only [lineBreaks_append, lineBreaks_eq_nil, lineBreaks_duration,
      hverdict, lineBreaks_error, List.append_nil, List.nil_append, suppliedTexts, List.flatMap_cons]
  | stageIteration stage iteration =>
    obtain rfl := Option.some.inj h
    have hnumber := lineBreaks_toString_int iteration
    simp (disch := decide) only [lineBreaks_append, lineBreaks_eq_nil, hnumber, List.append_nil,
      List.nil_append, suppliedTexts, List.flatMap_singleton]
  | agentSpawned role sessionId =>
    obtain rfl := Option.some.inj h
    simp (disch := decide) [lineBreaks_append, lineBreaks_eq_nil, suppliedTexts]
  | agentCompleted role sessionId =>
    obtain rfl := Option.some.inj h
    simp (disch := decide) [lineBreaks_append, lineBreaks_eq_nil, suppliedTexts]
  | error message stage =>
    obtain rfl := Option.some.inj h
    cases stage <;> simp (disch := decide) [lineBreaks_append, lineBreaks_eq_nil, suppliedTexts]

/-! ## The log -/

/-- The event has this text, and a sink for the log shows it in one record, without fault. -/
structure ShownAs (e : Event) (t : String) : Prop where
  text_eq : e.text? = some t
  logged : ∀ {σ : Type} (logger : Logger) (world : σ),
    loggingSink logger e world = ⟨.answered (), [⟨e.level, logger, t⟩], world⟩

/-- The event has no text, and a sink for the log shows nothing of it and raises a fault. -/
structure NotShown (e : Event) : Prop where
  text_eq : e.text? = none
  refused : ∀ {σ : Type} (logger : Logger) (world : σ),
    loggingSink logger e world = ⟨.raised Duration.infinite, [], world⟩

/-- A sink for the log shows the text of an event, if it has one. -/
theorem shownAs_iff {e : Event} {t : String} : e.ShownAs t ↔ e.text? = some t := by
  refine ⟨ShownAs.text_eq, fun h => ⟨h, fun logger world => ?_⟩⟩
  simp [loggingSink, record?, h]

/-- A sink for the log shows nothing of an event exactly if its duration overflows. -/
theorem notShown_iff {e : Event} : e.NotShown ↔ e.Overflows := by
  rw [← text?_eq_none_iff]
  refine ⟨NotShown.text_eq, fun h => ⟨h, fun logger world => ?_⟩⟩
  simp [loggingSink, record?, h]

/-- An event is shown as one line exactly if its duration does not overflow and no text that it
takes from outside has a line break. Every event that does not overflow is shown, with the line
breaks of those texts and no others. -/
theorem one_line_iff (e : Event) :
    ((∃ t, e.ShownAs t ∧ IsOneLine t) ↔ ¬ e.Overflows ∧ ∀ s ∈ e.suppliedTexts, IsOneLine s) ∧
      ((∃ t, e.ShownAs t ∧ lineBreaks t = e.suppliedTexts.flatMap lineBreaks) ∨
        (e.Overflows ∧ e.NotShown)) := by
  cases htext : e.text? with
  | none =>
    have hoverflow : e.Overflows := text?_eq_none_iff.1 htext
    refine ⟨⟨?_, fun h => absurd hoverflow h.1⟩, Or.inr ⟨hoverflow, notShown_iff.2 hoverflow⟩⟩
    rintro ⟨t, hshown, -⟩
    rw [shownAs_iff, htext] at hshown
    cases hshown
  | some t =>
    have hfits : ¬ e.Overflows := by
      rw [← text?_eq_none_iff, htext]
      exact Option.some_ne_none t
    have hbreaks : lineBreaks t = e.suppliedTexts.flatMap lineBreaks := lineBreaks_text? htext
    -- the line breaks of the text are those of what is supplied
    have hline : IsOneLine t ↔ ∀ s ∈ e.suppliedTexts, IsOneLine s := by
      rw [isOneLine_iff, hbreaks, isOneLine_flatMap_iff]
    refine ⟨⟨?_, ?_⟩, Or.inl ⟨t, shownAs_iff.2 htext, hbreaks⟩⟩
    · rintro ⟨u, hshown, hu⟩
      rw [shownAs_iff, htext] at hshown
      obtain rfl := Option.some.inj hshown
      exact ⟨hfits, hline.1 hu⟩
    · rintro ⟨-, hsupplied⟩
      exact ⟨t, shownAs_iff.2 htext, hline.2 hsupplied⟩

/-- A fault whose message has a line break is a valid event that takes two lines of the log. -/
theorem message_over_two_lines : ∃ e t,
    Event.read (.object [("type", .text "error"), ("message", .text "disk full\nretry later")]) =
        .valid e ∧
      e.ShownAs t ∧ t = "Error: disk full\nretry later" ∧ ¬ IsOneLine t := by
  refine ⟨.error "disk full\nretry later" none, _, rfl, shownAs_iff.2 rfl, rfl, ?_⟩
  rw [isOneLine_iff]
  decide

end Event

end AgentChain
