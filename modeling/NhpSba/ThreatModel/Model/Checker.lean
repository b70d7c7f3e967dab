import Mathlib.Data.Finset.Insert
import NhpSba.ThreatModel.Model.Simulator
/-!
# Threat model — the simulator's model checker

`run_model_checker`: a breadth-first search from `State()`, which takes two
states for one where their `hashable()` is the same. What it prints and
logs is left out: it is read off the loop's variables. The loop is given
fuel; without enough of it nothing is returned.
-/

namespace NhpSba

namespace ThreatModel

namespace Simulator

/-- An entry of `sat_registry` as its sorted items: the keys are the same
for all, so the values stand for them. -/
def Sat.items (sat : Sat) : Bool × String × ℤ × Intent :=
  (sat.active, sat.agent, sat.exp, sat.intent)

/-- An entry of `messages` as its sorted items. -/
def Message.items (m : Message) : String × Intent × Bool × ℤ × MessageType :=
  (m.agent, m.intent, m.isReplay, m.nonce, m.type)

/-- The tuple that `hashable()` returns. -/
structure Hashable where
  gatewayState : List (String × GatewayState)
  highestNonce : List (String × ℤ)
  satRegistry : List (Bool × String × ℤ × Intent)
  messages : List (String × Intent × Bool × ℤ × MessageType)
  clock : ℤ
  byzantineActive : Bool
  deriving DecidableEq

/-- `hashable`. The dictionaries have one item for each agent, in the order
of the list. -/
def State.hashable (agents : List String) (s : State) : Hashable where
  gatewayState := agents.eraseDups.map fun a => (a, s.gatewayState a)
  highestNonce := agents.eraseDups.map fun a => (a, s.highestNonce a)
  satRegistry := s.satRegistry.map Sat.items
  messages := s.messages.map Message.items
  clock := s.clock
  byzantineActive := s.byzantineActive

/-- The variables of the loop. -/
structure Checker where
  queue : List (State × List String)
  visited : Finset Hashable
  totalStates : ℕ
  deadlocks : ℕ
  replayViolations : ℕ
  satBoundsViolations : ℕ

variable (c : Constants) (agents : List String)

/-- The variables before the loop. -/
def Checker.start : Checker where
  queue := [(State.new, [])]
  visited := {State.new.hashable agents}
  totalStates := 0
  deadlocks := 0
  replayViolations := 0
  satBoundsViolations := 0

/-- How often a state violates NoReplayAttack. -/
def replayViolationsIn (s : State) : ℕ :=
  (agents.flatMap fun a => s.messages.filter fun m =>
    m.isReplay ∧ s.gatewayState a = .established ∧ s.highestNonce a = m.nonce).length

/-- How often a state violates SATTemporalBound. -/
def satBoundsViolationsIn (s : State) : ℕ :=
  agents.countP fun a =>
    s.gatewayState a ∈ [GatewayState.evaluateMama, .established] ∧
      ¬ s.satRegistry.any fun sat => sat.agent = a ∧ s.clock < sat.exp

/-- What becomes of a successor of a state. -/
def Checker.enqueue (trace : List String) (k : Checker) (succ : String × State) : Checker :=
  let h := succ.2.hashable agents
  if h ∈ k.visited then k
  else { k with queue := k.queue ++ [(succ.2, trace ++ [succ.1])], visited := insert h k.visited }

/-- One iteration of the loop; with an empty queue there is none. -/
def Checker.iterate (k : Checker) : Checker :=
  match k.queue with
  | [] => k
  | (s, trace) :: queue =>
    let succs := getSuccessors c s agents
    let k := { k with
      queue
      totalStates := k.totalStates + 1
      replayViolations := k.replayViolations + replayViolationsIn agents s
      satBoundsViolations := k.satBoundsViolations + satBoundsViolationsIn agents s
      -- without successors, the end of the bounded time is a normal one
      deadlocks := if succs = [] ∧ c.maxTime ≤ s.clock then k.deadlocks
        else if succs = [] then k.deadlocks + 1 else k.deadlocks }
    succs.foldl (Checker.enqueue agents trace) k

/-- `while queue`. -/
def Checker.loop : ℕ → Checker → Option Checker
  | 0, _ => none
  | fuel + 1, k => if k.queue.isEmpty then some k else Checker.loop fuel (k.iterate c agents)

/-- `run_model_checker`, up to its report. -/
def runModelChecker (fuel : ℕ) : Option Checker := (Checker.start agents).loop c agents fuel

end Simulator

end ThreatModel

end NhpSba
