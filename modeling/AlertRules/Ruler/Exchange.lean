/-
AlertRules/Ruler/Exchange.lean

Exchanges with a ruler: a result, or a request together with what follows on each
answer.  An exchange is a value; what it does against a ruler is said by `run`,
for a ruler given as any function of its own state.  `unanswered` says what it
does when no answer ever comes.
-/
import AlertRules.Ruler.Request

namespace AlertRules

/-- Why a request has no response. -/
inductive TransportError
  | http (detail : String)
  | configuration (detail : String)
  deriving DecidableEq, Repr

def TransportError.message : TransportError → String
  | http detail => "HTTP request failed: " ++ detail
  | configuration detail => "Configuration error: " ++ detail

abbrev Answer := Except TransportError Response

inductive Exchange (α : Type)
  | done (result : α)
  | send (request : Request) (next : Answer → Exchange α)

namespace Exchange

variable {α β σ : Type}

/-- One request, whose answer decides the result. -/
def ask (request : Request) (judge : Answer → α) : Exchange α :=
  .send request fun answer => .done (judge answer)

def bind : Exchange α → (α → Exchange β) → Exchange β
  | done result, f => f result
  | send request next, f => .send request fun answer => (next answer).bind f

def map (f : α → β) (x : Exchange α) : Exchange β := x.bind fun a => .done (f a)

/-- The result of an exchange with a ruler, and the state in which it leaves it. -/
def run (serve : σ → Request → Answer × σ) : Exchange α → σ → α × σ
  | done result, s => (result, s)
  | send request next, s =>
    let (answer, s) := serve s request
    (next answer).run serve s

/-- What is sent to a ruler that never answers, and the result if none is needed. -/
def unanswered : Exchange α → Option α × List Request
  | done result => (some result, [])
  | send request _ => (none, [request])

/-! ### Running in sequence -/

@[simp] theorem run_done (serve : σ → Request → Answer × σ) (a : α) (s : σ) :
    (done a).run serve s = (a, s) := rfl

@[simp] theorem run_ask (serve : σ → Request → Answer × σ) (request : Request)
    (judge : Answer → α) (s : σ) :
    (ask request judge).run serve s =
      (judge (serve s request).1, (serve s request).2) := rfl

theorem run_bind (serve : σ → Request → Answer × σ) (x : Exchange α) (f : α → Exchange β)
    (s : σ) : (x.bind f).run serve s = (f (x.run serve s).1).run serve (x.run serve s).2 := by
  induction x generalizing s with
  | done a => rfl
  | send request next ih => exact ih _ _

end Exchange

end AlertRules
