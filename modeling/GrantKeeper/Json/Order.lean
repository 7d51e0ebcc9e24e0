import GrantKeeper.Json.Basic

/-!
# Sorting JSON values

Numbers are ordered among themselves, so are strings (by code point) and arrays
(by their first difference); nothing else is comparable.  A not-a-number is
comparable with numbers, and precedes none. `Json.sorted?` sorts a list, and
refuses one in which two elements meet that are not comparable.
-/

namespace GrantKeeper.Json

/-- The order of two numbers, which a not-a-number never precedes. -/
def numberLt? (x y : Json) : Option Bool :=
  match x.number?, y.number? with
  | some a, some b => some (a.compare? b == some .lt)
  | _, _ => none

/-- `x` comes before `y`; none when the two are not comparable. -/
def lt? : Json → Json → Option Bool
  | .str s, .str t => some (decide (s < t))
  | .arr xs, .arr ys => itemsLt? xs ys
  | .bool a, y => numberLt? (.bool a) y
  | .int a, y => numberLt? (.int a) y
  | .float a, y => numberLt? (.float a) y
  | .nan a, y => numberLt? (.nan a) y
  | _, _ => none
where
  itemsLt? : List Json → List Json → Option Bool
    | [], ys => some (!ys.isEmpty)
    | _ :: _, [] => some false
    | x :: xs, y :: ys => if x.same y then itemsLt? xs ys else lt? x y

/-- `x` need not come after `y`. -/
def le (x y : Json) : Bool := (lt? y x).getD false == false

/-- The value is a string. -/
def isStr : Json → Bool
  | .str _ => true
  | _ => false

/-- Puts an element into a sorted list, by looking at the middle and going on in
one half: in front of it if the new element precedes it, and behind it
otherwise; none when the two have no order. -/
def placed? {α : Type} (precedes? : α → α → Option Bool) (new : α)
    (sorted : List α) : Option (List α) :=
  match _h : sorted.drop (sorted.length / 2) with
  | [] => some [new]
  | middle :: back => do
      let front := sorted.take (sorted.length / 2)
      if ← precedes? new middle then
        return (← placed? precedes? new front) ++ middle :: back
      else return front ++ middle :: (← placed? precedes? new back)
termination_by sorted.length
decreasing_by
  all_goals
    have rest := congrArg List.length _h
    simp only [List.length_drop, List.length_cons] at rest
  · simp only [List.length_take]; omega
  · omega

/-- Splits a list after `last` where it stops to fall, or to rise. -/
def run? {α : Type} (precedes? : α → α → Option Bool) (falling : Bool)
    (last : α) : List α → Option (List α × List α)
  | [] => some ([], [])
  | x :: rest => do
      if (← precedes? x last) == falling then
        let (run, rest) ← run? precedes? falling x rest
        return (x :: run, rest)
      else return ([], x :: rest)

/-- Sorts a list: a run at its front, turned round if it falls, stays; the other
elements are put in one by one.  Where two elements that meet have no order
there is no result.  Elements may meet in pairs that do not fit into one order;
then the result depends on the order in which they stood. -/
def placedAll? {α : Type} (precedes? : α → α → Option Bool) :
    List α → Option (List α)
  | first :: second :: rest => do
      let falling ← precedes? second first
      let (run, others) ← run? precedes? falling first (second :: rest)
      let run := if falling then (first :: run).reverse else first :: run
      others.foldlM (fun sorted x => placed? precedes? x sorted) run
  | short => some short

/-- Sorts by a key; none when two keys that meet are not comparable.  Elements
with equal keys keep their order.  Lists of strings, the usual case, are
merged. -/
def sortedBy? {α : Type} (key : α → Json) (xs : List α) : Option (List α) :=
  if (xs.map key).all isStr then
    some (xs.mergeSort fun x y => le (key x) (key y))
  else placedAll? (fun x y => lt? (key x) (key y)) xs

/-- Sorts a list of values; none when two of them are not comparable. -/
def sorted? (xs : List Json) : Option (List Json) := sortedBy? id xs

@[simp] theorem lt?_str (s t : String) :
    lt? (.str s) (.str t) = some (decide (s < t)) := by
  simp [lt?]

@[simp] theorem le_str (s t : String) :
    le (.str s) (.str t) = !decide (t < s) := by
  simp [le]

theorem sortedBy?_of_strings {α : Type} {key : α → Json} {xs : List α}
    (h : (xs.map key).all isStr) :
    sortedBy? key xs = some (xs.mergeSort fun x y => le (key x) (key y)) := by
  simp only [sortedBy?, h, if_true]

end GrantKeeper.Json
