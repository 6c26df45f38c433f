import ManagedSwitch.Markup.Row
import ManagedSwitch.Number.Integer
import ManagedSwitch.Text.Quoted

/-!
# Port statistics

The statistics page of a switch has a table with a row for every port: the port, its state, the
state of its link and four counters.  Rows with another number of cells are layout.  Counters may
have commas anywhere between their digits.
-/

namespace ManagedSwitch

/-- The counters of a port, with the state that the page shows. -/
structure PortStats where
  state : String
  linkUp : Bool
  sentGood : Int
  sentBad : Int
  receivedGood : Int
  receivedBad : Int
deriving DecidableEq

namespace PortStats

section Faults

/-- A counter that is no number, in a row that is counted from one among the rows of ports. -/
structure BadCounter where
  text : String
  row : Nat
deriving DecidableEq

/-- The message about a counter that is no number. -/
def BadCounter.message (b : BadCounter) : String :=
  "Non-numeric counter " ++ Text.quote b.text ++ " in statistics row " ++ Number.natText b.row

end Faults

section Reading

def linkUpText : String := "Link Up"

def counter
    (row : Nat)
    (text : String) :
    Except BadCounter Int :=
  match Number.read? (String.ofList (text.toList.filter (· != ','))) with
  | some n => .ok n
  | none => .error ⟨text, row⟩

/-- The statistics in the cells of a row; there are none in a row that is layout. -/
def ofCells
    (row : Nat) :
    List String → Except BadCounter (Option PortStats)
  | [_, state, link, sentGood, sentBad, receivedGood, receivedBad] => do
    let sentGood ← counter row sentGood
    let sentBad ← counter row sentBad
    let receivedGood ← counter row receivedGood
    let receivedBad ← counter row receivedBad
    return some ⟨state, link == linkUpText, sentGood, sentBad, receivedGood, receivedBad⟩
  | _ => .ok none

/-- The statistics in rows of cells, where the next row of a port has the given number. -/
def ofRowsFrom
    (row : Nat) :
    List (List String) → Except BadCounter (List PortStats)
  | [] => .ok []
  | cells :: rest => do
    match ← ofCells row (Markup.cellTexts cells) with
    | none => ofRowsFrom row rest
    | some stats => return stats :: (← ofRowsFrom (row + 1) rest)

def ofRows (rows : List (List String)) : Except BadCounter (List PortStats) :=
  ofRowsFrom 1 rows

def ofPage (page : String) : Except BadCounter (List PortStats) :=
  ofRows (Markup.rows (Markup.page page))

end Reading

end PortStats
end ManagedSwitch
