import Dispatch.Network.Basic

namespace Dispatch.Network

/-! The rows of a network, each as a function of the physical data. Generation lists them
and an update recomputes those whose data moved, so both read the same definitions. -/

variable {K : Type} [Scalar K]

def injection (network : Network K) (interval node : Nat) : VarRef :=
  network.store.cell network.nodeInjection interval node

def flow (network : Network K) (interval line : Nat) : VarRef :=
  network.store.cell network.powerFlow interval line

def demandRow (network : Network K) (topology : Topology K) (interval : Nat) : List K :=
  (List.range topology.nodes).map (network.demandAt interval)

def factorRow (topology : Topology K) (line : Nat) : List K :=
  (List.range topology.nodes).map (topology.factor line)

/-- The flow on a line that the demand of an interval alone would cause. -/
def demandFlow (network : Network K) (topology : Topology K) (interval line : Nat) : K :=
  Scalar.sumOfProducts (factorRow topology line) (network.demandRow topology interval)

def totalDemand (network : Network K) (interval : Nat) : K :=
  Scalar.sum ((List.range network.nodes).map (network.demandAt interval))

/-- Limits scaled by kappa; a distribution row bounds injections, so its limits move by
the flow that the demand causes. -/
def flowRange (network : Network K) (topology : Topology K) (kind : LineKind)
    (interval line : Nat) : K × K :=
  let low := network.kappaAt line * topology.minFlowOf line
  let high := network.kappaAt line * topology.maxFlowOf line
  if kind = .hvdc || topology.isHvdc line then (low, high)
  else
    let shift := network.demandFlow topology interval line
    (low + shift, high + shift)

/-- How much an HVDC flow between its end nodes moves the flow on another line. -/
def transfer (topology : Topology K) (line hvdcLine : Nat) : K :=
  topology.factor line (topology.startOf hvdcLine) -
    topology.factor line (topology.finishOf hvdcLine)

def transferTerm? (network : Network K) (topology : Topology K)
    (interval line other : Nat) : Option (VarRef × K) :=
  if topology.isHvdc other then
    let shift := transfer topology line other
    if shift != 0 then some (network.flow interval other, -shift) else none
  else none

/-- The flow on an AC line by the injections, less the shift due to HVDC flows. -/
def distribution (network : Network K) (topology : Topology K) (interval line : Nat) :
    List (VarRef × K) :=
  ((List.range topology.nodes).map fun node =>
    (network.injection interval node, topology.factor line node)) ++
  (List.range topology.lines).filterMap (network.transferTerm? topology interval line)

def limitBox (network : Network K) (topology : Topology K) (interval line : Nat) :
    Box K :=
  let range := network.flowRange topology .hvdc interval line
  ⟨network.flow interval line, range.1, range.2⟩

def limitRow (network : Network K) (topology : Topology K) (kind : LineKind)
    (interval line : Nat) : Row K :=
  let range := network.flowRange topology kind interval line
  if topology.isHvdc line then
    ⟨.ofTerms [(network.flow interval line, 1)], range.1, range.2⟩
  else ⟨.ofTerms (network.distribution topology interval line), range.1, range.2⟩

/-- A line leaves its start node and enters its end node. -/
def incidence (network : Network K) (topology : Topology K) (interval node line : Nat) :
    List (VarRef × K) :=
  (if topology.startOf line = node then [(network.flow interval line, 1)] else []) ++
    (if topology.finishOf line = node then [(network.flow interval line, -1)] else [])

def balanceTerms (network : Network K) (topology : Topology K) (interval node : Nat) :
    List (VarRef × K) :=
  (network.injection interval node, -1) ::
    (List.range topology.lines).flatMap (network.incidence topology interval node)

def balanceRow (network : Network K) (topology : Topology K) (interval node : Nat) :
    Row K :=
  .equality (.ofTerms (network.balanceTerms topology interval node))
    (-network.demandAt interval node)

/-- The flow equals what the distribution factors make of injections and demand. -/
def definitionRow (network : Network K) (topology : Topology K) (interval line : Nat) :
    Row K :=
  .equality
    (.ofTerms ((network.flow interval line, 1) ::
      (network.distribution topology interval line).map fun term => (term.1, -term.2)))
    (-network.demandFlow topology interval line)

/-- Injections meet the demand of the interval. -/
def systemRow (network : Network K) (topology : Topology K) (interval : Nat) : Row K :=
  .equality
    (.ofTerms ((List.range topology.nodes).map fun node =>
      (network.injection interval node, 1)))
    (network.totalDemand interval)

/-- Together the two rows of a line bound its auxiliary variable by the size of the flow:
the first half of an interval subtracts the flow, the second adds it. -/
def relaxedRow (network : Network K) (lines interval place : Nat) : Row K :=
  let line := if place < lines then place else place - lines
  let sign : K := if place < lines then -1 else 1
  ⟨.ofTerms [(network.flow interval line, sign),
    (network.store.cell network.auxiliary interval line, 1)], 0, Scalar.infinity⟩

def boundsBox (network : Network K) (nodes interval node : Nat) : Box K :=
  let entry := interval * nodes + node
  ⟨network.injection interval node, network.minInjection.getD entry 0,
    network.maxInjection.getD entry 0⟩

end Dispatch.Network
