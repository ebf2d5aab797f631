namespace Switchboard.Text

/-- From the distances of `xs` to every tail of a target, those of `x :: xs` to every tail of it. -/
def extendRow (x : Char) : List Char → List Nat → List Nat
  | [], row => [row.headD 0 + 1]
  | y :: ys, row =>
    let rest := extendRow x ys row.tail
    let kept := row.tail.headD 0
    let best := if x = y then kept else min (min (row.headD 0) (rest.headD 0)) kept + 1
    best :: rest

def emptyRow : List Char → List Nat
  | [] => [0]
  | y :: ys => (y :: ys).length :: emptyRow ys

def distanceRow (target : List Char) (text : List Char) : List Nat :=
  text.foldr (fun x row => extendRow x target row) (emptyRow target)

def editDistance (text target : List Char) : Nat :=
  (distanceRow target text).headD 0

end Switchboard.Text
