import SetProtocol.Lib.Iterates
import SetProtocol.Modules.AmmModule
import SetProtocol.Positions.Edits

set_option relaxedAutoImplicit false
set_option autoImplicit false

/-!
# Liquidity and repeated components

After an action the module edits the position of each component it was given, and then that of the
pool token, by the balance before the action and the balance now. Each edit reads the unit again. A
component that is listed more than once, or that is the pool token, is therefore edited as often,
and each edit takes off what was spent once more.

## Main definitions

* `SetProtocol.AmmLiquidity.editedUnit` — the unit that an edit by two balances comes to.
* `SetProtocol.AmmLiquidity.expectedUnit` — the same, as the code computes it.

## Main results

* `SetProtocol.AmmLiquidity.addLiquidity_accounts_once_iff` — when the unit of a component is the
  one that a single edit comes to.
* `SetProtocol.AmmLiquidity.addLiquidity_accounts_twice` — an action after which it is not.
-/

namespace SetProtocol

namespace AmmLiquidity

open Checked AmmModule

/-! ## The edits of one component -/

section Edits

variable {supply pre post unit n : ℕ}

/-- The unit that an edit by the balances before and after comes to. -/
def editedUnit (supply pre post unit : ℕ) : ℕ :=
  if 0 < post then (post - (pre - unit * supply / preciseUnit)) * preciseUnit / supply else 0

/-- The unit that `calculateAndEditDefaultPosition` computes from the balances and the unit
before. -/
def expectedUnit (supply pre post unit : ℕ) : Except Revert ℕ :=
  if 0 < post then Position.calculateDefaultEditPositionUnit supply pre post unit else .ok 0

/-- Where the computation does not revert it comes to that unit. -/
theorem editedUnit_of_expectedUnit (h : expectedUnit supply pre post unit = .ok n) :
    editedUnit supply pre post unit = n := by
  unfold expectedUnit at h
  unfold editedUnit
  split_ifs at h ⊢ with hpost
  · obtain ⟨-, -, -, -, -, hn⟩ := Position.calculateDefaultEditPositionUnit_eq_ok.mp h
    exact hn
  · exact Except.ok.inj h

/-- The larger the unit before, the larger the unit after. -/
theorem monotone_editedUnit : Monotone (editedUnit supply pre post) := by
  intro x y hxy
  unfold editedUnit
  split_ifs
  · apply Nat.div_le_div_right
    apply Nat.mul_le_mul_right
    have : x * supply / preciseUnit ≤ y * supply / preciseUnit :=
      Nat.div_le_div_right (Nat.mul_le_mul_right supply hxy)
    omega
  · exact le_rfl

end Edits

/-! ## The loop of edits -/

variable {self msgSender setToken ammPool c : Address} {env : Env} {w w' s s' : World}
  {info : ActionInfo} {pre : Address → ℕ}

/-- One edit of the loop, for the token with its balance before the action. -/
def editRound (self : Address) (info : ActionInfo) (pre : Address → ℕ) (w : World)
    (token : Address) : Except Revert World := do
  let (w, _) ← updateTokenPosition self w info token (pre token)
  return w

/-- The loop edits the components one after the other. -/
theorem updateComponentPositions_eq
    (hpre : info.preActionComponentBalances = info.components.map pre) :
    updateComponentPositions self w info = info.components.foldlM (editRound self info pre) w := by
  rw [updateComponentPositions, hpre, ← List.map_prod_left_eq_zip, List.foldlM_map]
  rfl

variable (pre) in
/-- The pool token is edited in the same way. -/
theorem updateLiquidityTokenPositions_eq
    (hpre : info.preActionLiquidityTokenBalance = pre info.liquidityToken) :
    updateLiquidityTokenPositions self w info = editRound self info pre w info.liquidityToken := by
  rw [updateLiquidityTokenPositions, hpre]
  rfl

/-- An edit of the loop is one by the balance before the action. -/
theorem editRound_spec {token : Address}
    (hm : 0 < (s.setTokens info.setToken).positionMultiplier)
    (h : editRound self info pre s token = .ok s') :
    EditedByBalance info.setToken token info.totalSupply (pre token) s s' := by
  simp only [editRound, updateTokenPosition, bind_eq_ok, pure_eq_ok, Prod.exists,
    Prod.mk.injEq] at h
  obtain ⟨_, _, ⟨w₁, _, _, _, hedit, _, -, _, -, _, -, rfl, -⟩, rfl⟩ := h
  exact editedByBalance_of_calculateAndEdit hm hedit

/-- The state between two edits: the multiplier is one, and the unit of `c` can be read. -/
structure Settled (setToken c : Address) (tokens : Address → ERC20) (w : World) : Prop where
  /-- No tokens move. -/
  tokens : w.tokens = tokens
  /-- The multiplier. -/
  multiplier : (w.setTokens setToken).positionMultiplier = preciseUnitInt
  /-- The unit. -/
  unit : ∃ unit : ℕ, (w.setTokens setToken).getDefaultPositionRealUnit c = .ok (unit : ℤ)

/-- The unit of `c` as a natural number. -/
def unitOf (setToken c : Address) (w : World) : ℕ :=
  ((w.setTokens setToken).defaultRealUnit c).toNat

/-- In a settled state the unit is what is read. -/
theorem Settled.read {tokens : Address → ERC20} (h : Settled setToken c tokens s) :
    (s.setTokens setToken).getDefaultPositionRealUnit c = .ok (unitOf setToken c s : ℤ) := by
  obtain ⟨unit, hunit⟩ := h.unit
  rw [unitOf, (SetToken.getDefaultPositionRealUnit_eq_ok.mp hunit).2, Int.toNat_natCast]
  exact hunit

/-- A read unit is the unit. -/
theorem unitOf_eq {unit : ℕ}
    (h : (s.setTokens setToken).getDefaultPositionRealUnit c = .ok (unit : ℤ)) :
    unitOf setToken c s = unit := by
  rw [unitOf, (SetToken.getDefaultPositionRealUnit_eq_ok.mp h).2, Int.toNat_natCast]

/-- Every edit is made under a positive multiplier. -/
theorem Settled.multiplier_pos {tokens : Address → ERC20} (h : Settled setToken c tokens s) :
    0 < (s.setTokens setToken).positionMultiplier :=
  h.multiplier ▸ preciseUnitInt_pos

/-- An edit of the component stores the expected unit, and the state is settled again. -/
theorem Settled.applied {tokens : Address → ERC20} (hs : Settled info.setToken c tokens s)
    (h : editRound self info pre s c = .ok s') :
    Settled info.setToken c tokens s' ∧
      expectedUnit info.totalSupply (pre c) ((tokens c).balances info.setToken)
        (unitOf info.setToken c s) = .ok (unitOf info.setToken c s') := by
  have hedit := editRound_spec hs.multiplier_pos h
  obtain ⟨unit, n, hunit, hn, hread⟩ := hedit.unit
  rw [hs.multiplier, Int.mul_ediv_cancel _ preciseUnitInt_pos.ne',
    Int.mul_ediv_cancel _ preciseUnitInt_pos.ne'] at hread
  refine ⟨⟨hedit.tokens.trans hs.tokens, hedit.multiplier.trans hs.multiplier, n, hread⟩, ?_⟩
  rwa [unitOf_eq hunit, unitOf_eq hread, ← hs.tokens]

/-- An edit of another token leaves the unit alone. -/
theorem Settled.other {tokens : Address → ERC20} {token : Address} (hne : token ≠ c)
    (hs : Settled info.setToken c tokens s) (h : editRound self info pre s token = .ok s') :
    Settled info.setToken c tokens s' ∧ unitOf info.setToken c s' = unitOf info.setToken c s := by
  have hedit := editRound_spec hs.multiplier_pos h
  obtain ⟨unit, hunit⟩ := hs.unit
  have hunit' : (s'.setTokens info.setToken).getDefaultPositionRealUnit c = .ok (unit : ℤ) := by
    rw [hedit.others c hne.symm, hunit]
  exact ⟨⟨hedit.tokens.trans hs.tokens, hedit.multiplier.trans hs.multiplier, unit, hunit'⟩,
    (unitOf_eq hunit').trans (unitOf_eq hunit).symm⟩

/-- The loop edits the unit once for each occurrence of the component. -/
theorem Settled.loop {tokens : Address → ERC20} {l : List Address}
    (hs : Settled info.setToken c tokens s) (h : l.foldlM (editRound self info pre) s = .ok s') :
    Settled info.setToken c tokens s' ∧
      unitOf info.setToken c s' =
        (editedUnit info.totalSupply (pre c) ((tokens c).balances info.setToken))^[l.count c]
          (unitOf info.setToken c s) := by
  refine Iterates.foldlM_eq_iterate_count (unitOf info.setToken c)
    (Settled info.setToken c tokens) ?_ ?_ ?_ hs h
  · intro token _ s s' hs h
    rcases eq_or_ne token c with rfl | hne
    · exact (hs.applied h).1
    · exact (hs.other hne h).1
  · intro s s' hs h
    exact (editedUnit_of_expectedUnit (hs.applied h).2).symm
  · intro token _ hne s s' hs h
    exact (hs.other hne h).2

/-! ## The action -/

/-- The approvals leave the Set alone. -/
theorem setTokens_of_executeApprovals (h : executeApprovals self env w info = .ok w') :
    w'.setTokens = w.setTokens := by
  simp only [executeApprovals, bind_eq_ok] at h
  obtain ⟨_, -, h⟩ := h
  refine foldlM_preserves (fun s => s.setTokens = w.setTokens) (fun entry _ s s' hs h => ?_) rfl h
  obtain ⟨_, -, -, rfl⟩ := Invoke.invokeApprove_spec h
  exact hs

/-- The call to the exchange leaves the Set alone when contracts outside the protocol do. -/
theorem setTokens_of_executeCall
    (hspare : ∀ call w w' words, env.call call w = .ok (w', words) →
      w'.setTokens setToken = w.setTokens setToken)
    {getCalldata : World → Except Revert (Address × ℕ × CallData)}
    (h : executeCall self env w setToken getCalldata = .ok w') :
    w'.setTokens setToken = w.setTokens setToken := by
  simp only [executeCall, bind_eq_ok, pure_eq_ok, Prod.exists] at h
  obtain ⟨_, _, _, -, _, _, hinvoke, rfl⟩ := h
  exact World.invoke_keeps (fun w => w.setTokens setToken) (fun _ _ => rfl) (fun _ _ _ => rfl)
    hspare hinvoke

/-- Adding liquidity comes down to the loop of edits, over the components and the pool token, from a
state in which the Set is as it was. -/
theorem addLiquidity_spec {ammName : String} {minimum : ℕ} {components : List Address}
    {units : List ℕ}
    (hspare : ∀ call w w' words, env.call call w = .ok (w', words) →
      w'.setTokens setToken = w.setTokens setToken)
    (h : addLiquidity self env w msgSender setToken ammName ammPool minimum components units =
      .ok w') :
    ∃ info s, info.setToken = setToken ∧ info.totalSupply = w.totalSupply setToken ∧
      s.setTokens setToken = w.setTokens setToken ∧
      (components ++ [ammPool]).foldlM
        (editRound self info fun token => (w.tokens token).balances setToken) s = .ok w' := by
  simp only [addLiquidity, addLiquidityBy, bind_eq_ok] at h
  obtain ⟨-, -, info, hinfo, -, -, w₁, happrove, w₂, hexecute, -, -, w₃, hcomponents, hpool⟩ := h
  obtain ⟨ammAdapter, -, -, -, rfl⟩ := getActionInfo_eq_ok.mp hinfo
  rw [updateComponentPositions_eq rfl] at hcomponents
  rw [updateLiquidityTokenPositions_eq (fun token => (w.tokens token).balances setToken) rfl]
    at hpool
  refine ⟨actionInfo w setToken ammAdapter ammPool components units minimum, w₂, rfl, rfl, ?_, ?_⟩
  · rw [setTokens_of_executeCall hspare hexecute, setTokens_of_executeApprovals happrove]
  · rw [List.foldlM_append, bind_eq_ok]
    exact ⟨w₃, hcomponents, foldlM_cons_eq_ok.mpr ⟨w', hpool, rfl⟩⟩

/-- **Components are accounted once**: after a successful action on a Set with the multiplier one,
the unit of a listed component is the one that a single edit comes to, from the unit before the
action and the balances before and after it, exactly when the component is listed once and is not
the pool token, or a second edit by the same balances would make no difference. -/
theorem addLiquidity_accounts_once_iff {ammName : String} {minimum unit : ℕ}
    {components : List Address} {units : List ℕ}
    (hspare : ∀ call w w' words, env.call call w = .ok (w', words) →
      w'.setTokens setToken = w.setTokens setToken)
    (hmultiplier : (w.setTokens setToken).positionMultiplier = preciseUnitInt)
    (hunit : (w.setTokens setToken).getDefaultPositionRealUnit c = .ok (unit : ℤ))
    (hc : c ∈ components)
    (h : addLiquidity self env w msgSender setToken ammName ammPool minimum components units =
      .ok w') :
    ∃ n : ℕ,
      expectedUnit (w.totalSupply setToken) ((w.tokens c).balances setToken)
        ((w'.tokens c).balances setToken) unit = .ok n ∧
      ((w'.setTokens setToken).getDefaultPositionRealUnit c = .ok (n : ℤ) ↔
        (components ++ [ammPool]).count c = 1 ∨
          editedUnit (w.totalSupply setToken) ((w.tokens c).balances setToken)
            ((w'.tokens c).balances setToken) n = n) := by
  obtain ⟨info, s, rfl, hsupply, hsame, hloop⟩ := addLiquidity_spec hspare h
  have hs : Settled info.setToken c s.tokens s := by
    refine ⟨rfl, ?_, unit, ?_⟩
    · rw [hsame, hmultiplier]
    · rw [hsame, hunit]
  have hstart : unitOf info.setToken c s = unit := by
    apply unitOf_eq
    rw [hsame, hunit]
  obtain ⟨hw', hiterate⟩ := hs.loop hloop
  -- the first occurrence is edited from the unit before the action
  obtain ⟨before, after, hnew, hsplit, -⟩ :=
    List.exists_erase_eq (List.mem_append_left [ammPool] hc)
  rw [hsplit, List.foldlM_append, bind_eq_ok] at hloop
  obtain ⟨s₁, hbefore, hrest⟩ := hloop
  obtain ⟨s₂, hround, -⟩ := foldlM_cons_eq_ok.mp hrest
  obtain ⟨hs₁, hkept⟩ := hs.loop hbefore
  rw [List.count_eq_zero.mpr hnew, Function.iterate_zero, id, hstart] at hkept
  have hexpected := (hs₁.applied hround).2
  rw [hkept, hsupply, ← hw'.tokens] at hexpected
  refine ⟨unitOf info.setToken c s₂, hexpected, ?_⟩
  have hedited := editedUnit_of_expectedUnit hexpected
  obtain ⟨k, hk⟩ : ∃ k, (components ++ [ammPool]).count c = k + 1 := by
    refine Nat.exists_eq_succ_of_ne_zero ?_
    rw [hsplit]
    simp
  rw [hk, hstart, hsupply, ← hw'.tokens] at hiterate
  rw [hw'.read, Except.ok.injEq, Nat.cast_inj, hiterate, hk, ← hedited,
    Iterates.iterate_succ_eq_iff monotone_editedUnit, Nat.add_eq_right]

/-! ## Example -/

/-- An exchange whose pool takes one of the token `11` from its caller, which has approved that, for
one pool token. -/
def exampleEnv : Env where
  call call w := do
    let w ← w.editToken 11 fun t => t.transferFrom call.target call.caller call.target 1
    let w ← w.editToken call.target fun t => t.mint call.caller 1
    return (w, [])

/-- The Set `100` of ten of the token `11`, with a supply of one, the manager `3` and the liquidity
module `7`, which has the adapter `70`. -/
def exampleWorld : World :=
  { controller := { isSet := fun a => a = 100, isModule := fun a => a = 7 }
    integrations := fun _ _ => 70
    tokens := fun a =>
      if a = 11 then { balances := fun b => if b = 100 then 10 else 0, totalSupply := 10 }
      else if a = 100 then
        { balances := fun b => if b = 50 then 10 ^ 18 else 0, totalSupply := 10 ^ 18 }
      else {}
    setTokens := fun _ =>
      { manager := 3
        components := [11]
        componentPositions := fun a => { virtualUnit := if a = 11 then 10 else 0 }
        moduleStates := fun a => if a = 7 then .initialized else .none
        positionMultiplier := preciseUnitInt } }

/-- The exchange leaves the Set alone. -/
theorem setTokens_of_exampleEnv (call : Call) (w w' : World) (words : List ℕ)
    (h : exampleEnv.call call w = .ok (w', words)) : w'.setTokens 100 = w.setTokens 100 := by
  simp only [exampleEnv, bind_eq_ok, World.editToken_eq_ok, pure_eq_ok, Prod.mk.injEq] at h
  obtain ⟨_, ⟨_, -, rfl⟩, _, ⟨_, -, rfl⟩, rfl, -⟩ := h
  rfl

/-- The unit of the token `11` before the action. -/
theorem getDefaultPositionRealUnit_exampleWorld :
    (exampleWorld.setTokens 100).getDefaultPositionRealUnit 11 = .ok ((10 : ℕ) : ℤ) :=
  SetToken.getDefaultPositionRealUnit_eq_ok.mpr (by decide)

/-- An action that lists the token once leaves the unit that a single edit comes to. -/
theorem addLiquidity_accounts_once_iff_example :
    ∃ w', addLiquidity 7 exampleEnv exampleWorld 3 100 "Pool" 12 1 [11] [1] = .ok w' ∧
      ∃ n : ℕ,
        expectedUnit (10 ^ 18) 10 ((w'.tokens 11).balances 100) 10 = .ok n ∧
        (w'.setTokens 100).getDefaultPositionRealUnit 11 = .ok (n : ℤ) := by
  obtain ⟨w', hw', -⟩ := exists_of_yields
    (x := addLiquidity 7 exampleEnv exampleWorld 3 100 "Pool" 12 1 [11] [1])
    (p := fun _ => true) (by decide +kernel)
  obtain ⟨n, hn, hiff⟩ := addLiquidity_accounts_once_iff setTokens_of_exampleEnv rfl
    getDefaultPositionRealUnit_exampleWorld List.mem_cons_self hw'
  exact ⟨w', hw', n, hn, hiff.mpr (Or.inl (by decide))⟩

/-- An action that lists the token twice leaves the unit `8`, where `9` are held for each share and
a single edit comes to `9`. The pool takes no more than the second approval lets it. -/
theorem addLiquidity_accounts_twice :
    ∃ w', addLiquidity 7 exampleEnv exampleWorld 3 100 "Pool" 12 1 [11, 11] [1, 1] = .ok w' ∧
      (exampleWorld.setTokens 100).positionMultiplier = preciseUnitInt ∧
      (exampleWorld.setTokens 100).getDefaultPositionRealUnit 11 = .ok ((10 : ℕ) : ℤ) ∧
      (w'.tokens 11).balances 100 = 9 ∧
      expectedUnit (exampleWorld.totalSupply 100) ((exampleWorld.tokens 11).balances 100)
        ((w'.tokens 11).balances 100) 10 = .ok 9 ∧
      (w'.setTokens 100).getDefaultPositionRealUnit 11 = .ok 8 := by
  obtain ⟨w', hw', h⟩ := exists_of_yields
    (x := addLiquidity 7 exampleEnv exampleWorld 3 100 "Pool" 12 1 [11, 11] [1, 1])
    (p := fun w' => (w'.tokens 11).balances 100 = 9 ∧
      (w'.setTokens 100).getDefaultPositionRealUnit 11 = .ok 8) (by decide +kernel)
  obtain ⟨hbalance, hunit⟩ := of_decide_eq_true h
  refine ⟨w', hw', rfl, getDefaultPositionRealUnit_exampleWorld, hbalance, ?_, hunit⟩
  rw [hbalance]
  decide +kernel

end AmmLiquidity

end SetProtocol
