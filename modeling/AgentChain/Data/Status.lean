import AgentChain.Data

/-!
# Statuses that are data

A task may give any data as its status. The data is compared by its text: a workflow state by the
text of the state, and all else by the text that it is shown as.

Main statement: `Data.statusText_eq_done_iff`. No data but text and a workflow state has the text of
a task that is done.
-/

namespace AgentChain

/-- The text by which data is compared as a status. -/
def Data.statusText : Data → String
  | .state s => s.text
  | d => d.shown

/-- The status of a task that gives the data. -/
def TaskStatus.ofData : Data → TaskStatus
  | .state s => .state s
  | .text s => .text s
  | _ => .other

namespace Data

/-- The sign of a whole number is no capital letter either. -/
theorem isLower_toString_int (n : Int) : Number.IsLower (toString n) := by
  cases n with
  | ofNat n => exact .toString n
  | negSucc n => exact .append (s := "-") rfl (.toString (n + 1))

theorem head?_ne_of_isLower {s : String} (h : Number.IsLower s) : s.toList.head? ≠ some 'D' :=
  fun hD => absurd (Number.isLower_iff.1 h 'D' (List.mem_of_head? hD)) (by decide)

/-- What is shown inside a message does not begin like the text of a task that is done: numbers are
without capital letters, text is in quotes, and what has parts is in brackets. -/
theorem head?_quoted_ne (d : Data) : d.quoted.toList.head? ≠ some 'D' := by
  cases d with
  | null => decide
  | bool b => cases b <;> decide
  | int n => exact head?_ne_of_isLower (by simpa only [quoted] using isLower_toString_int n)
  | float x =>
    exact head?_ne_of_isLower (by simpa only [quoted] using Number.isLower_shortestText x)
  | text s =>
    simp only [quoted, Text.quoted, String.toList_ofList, Text.quoteFor]
    split <;> simp
  | list | object | signal | callable | state => simp [quoted, String.toList_append]

/-- No data but the text and the workflow state has the text of a task that is done. -/
theorem statusText_eq_done_iff (d : Data) :
    d.statusText = TaskState.done.text ↔ d = .text TaskState.done.text ∨ d = .state .done := by
  have hquoted : d.quoted ≠ TaskState.done.text := by
    intro h
    exact d.head?_quoted_ne (h ▸ rfl)
  cases d with
  | text s => simp [statusText, shown]
  | state s => cases s <;> simp [statusText, TaskState.text]
  | _ => simpa [statusText, shown] using hquoted

end Data

/-- A task is done if the text of what it gives as its status says so. -/
theorem TaskStatus.isDone_ofData_iff (d : Data) :
    (TaskStatus.ofData d).isDone = true ↔ d.statusText = TaskState.done.text := by
  rw [Data.statusText_eq_done_iff]
  cases d <;> simp [ofData, isDone]

end AgentChain
