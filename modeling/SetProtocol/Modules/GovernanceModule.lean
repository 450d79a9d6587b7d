import SetProtocol.Core.ModuleBase

set_option relaxedAutoImplicit false
set_option autoImplicit false

/-!
# Governance

`contracts/protocol/modules/GovernanceModule.sol`. The manager lets a Set take part in the
governance of its components: the module deployed at `self` asks an adapter for a call, and the Set
makes it. Positions are not edited.

## Main definitions

* `SetProtocol.GovernanceAdapters` — the adapters, which are outside the protocol.
* `SetProtocol.GovernanceModule.delegate`, `propose`, `register`, `revoke`, `vote`.

## Main results

* `SetProtocol.GovernanceModule.governBy_eq_ok` — what a call to the module does.
-/

namespace SetProtocol

open Checked

/-- The functions of `IGovernanceAdapter`, each with the address of the adapter first. -/
structure GovernanceAdapters where
  /-- `getDelegateCalldata`. -/
  getDelegateCalldata (adapter delegatee : Address) : World →
    Except Revert (Address × ℕ × CallData) := fun _ => .ok (adapter, 0, .bytes [])
  /-- `getProposeCalldata`. -/
  getProposeCalldata (adapter : Address) (proposalData : Bytes) : World →
    Except Revert (Address × ℕ × CallData) := fun _ => .ok (adapter, 0, .bytes proposalData)
  /-- `getRegisterCalldata`. -/
  getRegisterCalldata (adapter setToken : Address) : World →
    Except Revert (Address × ℕ × CallData) := fun _ => .ok (adapter, 0, .bytes [])
  /-- `getRevokeCalldata`. -/
  getRevokeCalldata (adapter : Address) : World →
    Except Revert (Address × ℕ × CallData) := fun _ => .ok (adapter, 0, .bytes [])
  /-- `getVoteCalldata`. -/
  getVoteCalldata (adapter : Address) (proposalId : ℕ) (support : Bool) (data : Bytes) : World →
    Except Revert (Address × ℕ × CallData) := fun _ => .ok (adapter, 0, .bytes data)

namespace GovernanceModule

/-- The body that the functions of the manager share: they differ in the function of the adapter. -/
def governBy (self : Address) (env : Env) (w : World) (msgSender setToken : Address)
    (governanceName : String)
    (getCalldata : Address → World → Except Revert (Address × ℕ × CallData)) :
    Except Revert World := do
  ModuleBase.onlyManagerAndValidSet self w setToken msgSender
  let governanceAdapter ← ModuleBase.getAndValidateAdapter self env w governanceName
  let (targetExchange, callValue, methodData) ← getCalldata governanceAdapter w
  let (w, _) ← w.invoke env self setToken targetExchange callValue methodData
  return w

/-- `delegate`. -/
def delegate (self : Address) (env : Env) (adapters : GovernanceAdapters) (w : World)
    (msgSender setToken : Address) (governanceName : String) (delegatee : Address) :
    Except Revert World :=
  governBy self env w msgSender setToken governanceName fun adapter =>
    adapters.getDelegateCalldata adapter delegatee

/-- `propose`. -/
def propose (self : Address) (env : Env) (adapters : GovernanceAdapters) (w : World)
    (msgSender setToken : Address) (governanceName : String) (proposalData : Bytes) :
    Except Revert World :=
  governBy self env w msgSender setToken governanceName fun adapter =>
    adapters.getProposeCalldata adapter proposalData

/-- `register`. -/
def register (self : Address) (env : Env) (adapters : GovernanceAdapters) (w : World)
    (msgSender setToken : Address) (governanceName : String) : Except Revert World :=
  governBy self env w msgSender setToken governanceName fun adapter =>
    adapters.getRegisterCalldata adapter setToken

/-- `revoke`. -/
def revoke (self : Address) (env : Env) (adapters : GovernanceAdapters) (w : World)
    (msgSender setToken : Address) (governanceName : String) : Except Revert World :=
  governBy self env w msgSender setToken governanceName adapters.getRevokeCalldata

/-- `vote`. -/
def vote (self : Address) (env : Env) (adapters : GovernanceAdapters) (w : World)
    (msgSender setToken : Address) (governanceName : String) (proposalId : ℕ) (support : Bool)
    (data : Bytes) : Except Revert World :=
  governBy self env w msgSender setToken governanceName fun adapter =>
    adapters.getVoteCalldata adapter proposalId support data

/-- `initialize`. -/
def initializeModule (self : Address) (w : World) (msgSender setToken : Address) :
    Except Revert World := do
  ModuleBase.onlySetManager w setToken msgSender
  ModuleBase.onlyValidAndPendingSet self w setToken
  w.editSetToken self setToken SetToken.initializeModule

/-- The Set makes the one call that the adapter named. -/
theorem governBy_eq_ok {self msgSender setToken : Address} {env : Env} {w w' : World}
    {governanceName : String}
    {getCalldata : Address → World → Except Revert (Address × ℕ × CallData)}
    (h : governBy self env w msgSender setToken governanceName getCalldata = .ok w') :
    ∃ adapter target value data words, getCalldata adapter w = .ok (target, value, data) ∧
      w.invoke env self setToken target value data = .ok (w', words) := by
  simp only [governBy, bind_eq_ok, pure_eq_ok] at h
  obtain ⟨-, -, adapter, -, ⟨target, value, data⟩, hdata, ⟨w₁, words⟩, hinvoke, rfl⟩ := h
  exact ⟨adapter, target, value, data, words, hdata, hinvoke⟩

end GovernanceModule

end SetProtocol
