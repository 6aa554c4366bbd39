/-
AlertRules/Ruler/Script.lean

A ruler that answers from a list, whatever it is asked; at the end of the list
every request fails.
-/
import AlertRules.Ruler.Exchange

namespace AlertRules

structure Script where
  answers : List Answer
  requests : List Request := []

namespace Script

def exhausted : Response := ⟨500, "script exhausted"⟩

/-- Records a request and gives the next answer. -/
def handle (s : Script) (request : Request) : Answer × Script :=
  match s.answers with
  | [] => (.ok exhausted, ⟨[], s.requests ++ [request]⟩)
  | answer :: more => (answer, ⟨more, s.requests ++ [request]⟩)

end Script

end AlertRules
