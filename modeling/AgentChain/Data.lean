import AgentChain.Handle
import AgentChain.Task
import AgentChain.Text.Quoted
import AgentChain.Number.Shortest

/-!
# Plain data

The form in which values come in before they are checked and in which they are shown: null, truth
values, numbers, text, lists and objects, and with them the few things that are not text themselves:
signals, functions and workflow states.
-/

namespace AgentChain

/-- Plain data. The fields of an object are in order and have different names. -/
inductive Data where
  | null
  | bool (b : Bool)
  | int (n : Int)
  | float (x : Float)
  | text (s : String)
  | list (ds : List Data)
  | object (fields : List (String × Data))
  | signal (s : Signal)
  | callable (h : Handle)
  | state (s : TaskState)
deriving Repr, Inhabited

namespace Data

/-- The text of data that is text. A workflow state counts as its text. -/
def text? : Data → Option String
  | .text s => some s
  | .state s => some s.text
  | _ => none

/-- The value of the field `name`. -/
def lookup (name : String) (fields : List (String × Data)) : Option Data :=
  (fields.find? (·.1 = name)).map (·.2)

/-- Data counts as true unless it is null, false, zero or empty. -/
def isTruthy : Data → Bool
  | .null => false
  | .bool b => b
  | .int n => n ≠ 0
  | .float x => x != 0
  | .text s => s ≠ ""
  | .list ds => !ds.isEmpty
  | .object fields => !fields.isEmpty
  | _ => true

/-! ## Likeness -/

/-- The number that data is equal to, unless it is a fraction or no number. -/
def toInt? : Data → Option Int
  | .bool b => some (if b then 1 else 0)
  | .int n => some n
  | .float x => (Number.Binary64.ofFloat x).toInt?
  | _ => none

mutual

/-- The two are alike: numbers of all types by their value, workflow states and text by their text,
lists item by item, and objects field by field in any order. What is not a number is like nothing,
not even itself. -/
def isLike : Data → Data → Bool
  | .null, .null => true
  | .float x, .float y => x == y
  | .list ds, .list es => isLikeList ds es
  | .object fs, .object gs => fs.length == gs.length && isLikeFields fs gs
  | .signal s, .signal t => s = t
  | .callable h, .callable k => h = k
  | d, e =>
    match d.text?, e.text?, d.toInt?, e.toInt? with
    | some s, some t, _, _ => s = t
    | _, _, some m, some n => m = n
    | _, _, _, _ => false

/-- The two lists are alike item by item. -/
def isLikeList : List Data → List Data → Bool
  | [], [] => true
  | d :: ds, e :: es => d.isLike e && isLikeList ds es
  | _, _ => false

/-- Every field on the left has one like it on the right. -/
def isLikeFields : List (String × Data) → List (String × Data) → Bool
  | [], _ => true
  | (k, d) :: fs, gs =>
    (match lookup k gs with
      | some e => d.isLike e
      | none => false) && isLikeFields fs gs

end

/-! ## Showing data -/

mutual

/-- Data as it is shown inside a message, with its text in quotes. -/
def quoted : Data → String
  | .null => "None"
  | .bool b => if b then "True" else "False"
  | .int n => toString n
  | .float x => Number.shortestText x
  | .text s => Text.quoted s
  | .list ds => "[" ++ ", ".intercalate (quotedList ds) ++ "]"
  | .object fields => "\x7b" ++ ", ".intercalate (quotedFields fields) ++ "\x7d"
  | .signal _ => "<signal>"
  | .callable _ => "<callable>"
  | .state s => "<TaskStatus." ++ s.name ++ ": " ++ Text.quoted s.text ++ ">"

/-- The items of a list as they are shown. -/
def quotedList : List Data → List String
  | [] => []
  | d :: ds => d.quoted :: quotedList ds

/-- The fields of an object as they are shown. -/
def quotedFields : List (String × Data) → List String
  | [] => []
  | (k, d) :: fields => (Text.quoted k ++ ": " ++ d.quoted) :: quotedFields fields

end

/-- Data as it is shown by itself: like inside a message, but text without quotes. -/
def shown : Data → String
  | .text s => s
  | .state s => "TaskStatus." ++ s.name
  | d => d.quoted

end Data

end AgentChain
