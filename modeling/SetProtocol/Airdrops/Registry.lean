import SetProtocol.Lib.Transition
import SetProtocol.Modules.AirdropModule

set_option relaxedAutoImplicit false
set_option autoImplicit false

/-!
# The tokens of the airdrop module

The tokens that may be absorbed for a Set are listed in one array, which is all that tells whether a
token may be absorbed. A token is added alone, and then the module looks whether it is listed
already, or with the whole array of `initialize`, which is copied as it is. `removeAirdrop` drops
the first listing of a token, so that a token that is in the array of `initialize` twice stays.

Without such an array no token is ever listed twice, and a removed token is rejected until it is
added again.

## Main definitions

* `SetProtocol.AirdropRegistry.Action` — a call of the module, or what happens elsewhere.
* `SetProtocol.AirdropRegistry.edited` — the effect of a call on the tokens of a Set.
* `SetProtocol.AirdropRegistry.Distinct` — the array of `initialize` has no duplicates.

## Main results

* `SetProtocol.AirdropRegistry.revoked_of_run` — removed tokens are rejected.
* `SetProtocol.AirdropRegistry.run_absorbs_removed_token` — a run in which one is not.
-/

namespace SetProtocol

open Checked Transition

namespace AirdropRegistry

open AirdropModule

/-! ## Calls of the module -/

/-- A call of the module, or anything that happens elsewhere. -/
inductive Action
  | initializeModule (msgSender setToken : Address) (settings : AirdropSettings)
  | addAirdrop (msgSender setToken airdrop : Address)
  | removeAirdrop (msgSender setToken airdrop : Address)
  | updateAnyoneAbsorb (msgSender setToken : Address)
  | updateFeeRecipient (msgSender setToken newFeeRecipient : Address)
  | updateAirdropFee (msgSender setToken : Address) (newFee : ℕ)
  | absorb (msgSender setToken token : Address)
  | batchAbsorb (msgSender setToken : Address) (tokens : List Address)
  /-- A Set, or any other contract, calls `removeModule` of the module. -/
  | removeModule (msgSender : Address)
  /-- Everything but the storage of the module changes to what it is in another world. -/
  | elsewhere (w' : World)

/-- The effect of an action, for the module at the address `self`. -/
def step (self : Address) (env : Env) : Action → World → Except Revert World
  | .initializeModule msgSender setToken settings, w =>
    AirdropModule.initializeModule self w msgSender setToken settings
  | .addAirdrop msgSender setToken airdrop, w =>
    AirdropModule.addAirdrop self w msgSender setToken airdrop
  | .removeAirdrop msgSender setToken airdrop, w =>
    AirdropModule.removeAirdrop self w msgSender setToken airdrop
  | .updateAnyoneAbsorb msgSender setToken, w =>
    AirdropModule.updateAnyoneAbsorb self w msgSender setToken
  | .updateFeeRecipient msgSender setToken newFeeRecipient, w =>
    AirdropModule.updateFeeRecipient self w msgSender setToken newFeeRecipient
  | .updateAirdropFee msgSender setToken newFee, w =>
    AirdropModule.updateAirdropFee self env w msgSender setToken newFee
  | .absorb msgSender setToken token, w => AirdropModule.absorb self env w msgSender setToken token
  | .batchAbsorb msgSender setToken tokens, w =>
    AirdropModule.batchAbsorb self env w msgSender setToken tokens
  | .removeModule msgSender, w => .ok (AirdropModule.removeModule w msgSender)
  | .elsewhere w', w => .ok { w' with airdropSettings := w.airdropSettings }

/-- The effect of a successful action on the list `l` of the tokens of the Set `x`. -/
def edited (x : Address) (l : List Address) : Action → List Address
  | .initializeModule _ setToken settings => if x = setToken then settings.airdrops else l
  | .addAirdrop _ setToken airdrop => if x = setToken then l ++ [airdrop] else l
  | .removeAirdrop _ setToken airdrop => if x = setToken then l.erase airdrop else l
  | .removeModule msgSender => if x = msgSender then [] else l
  | _ => l

/-! ## What a step does to the lists -/

variable {self msgSender setToken token x : Address} {env : Env} {w w' : World}

@[simp] theorem getAirdrops_setSettings {settings : AirdropSettings} :
    getAirdrops (setSettings w setToken settings) x =
      if x = setToken then settings.airdrops else getAirdrops w x := by
  rcases eq_or_ne x setToken with rfl | hx
  · simp [getAirdrops, setSettings]
  · simp [getAirdrops, setSettings, hx]

/-- Settings with the same list of tokens change no list. -/
theorem getAirdrops_setSettings_of_same {settings : AirdropSettings}
    (h : settings.airdrops = getAirdrops w setToken) :
    getAirdrops (setSettings w setToken settings) x = getAirdrops w x := by
  rw [getAirdrops_setSettings, h]
  split
  · rename_i hx
    rw [hx]
  · rfl

/-- The lists depend on the settings only. -/
theorem getAirdrops_of_same (h : w'.airdropSettings = w.airdropSettings) :
    getAirdrops w' x = getAirdrops w x := by
  rw [getAirdrops, h, getAirdrops]

/-- Paying fees leaves the settings alone. -/
theorem airdropSettings_of_handleFees {component : Address} {amountAirdropped : ℕ}
    {r : World × ℕ × ℕ × ℕ}
    (h : handleFees self env w setToken component amountAirdropped = .ok r) :
    r.1.airdropSettings = w.airdropSettings := by
  simp only [handleFees] at h
  split_ifs at h with hfee
  · simp only [bind_eq_ok, pure_eq_ok] at h
    obtain ⟨_, -, _, -, _, -, _, -, w₁, htransfer, w₂, hpay, rfl⟩ := h
    obtain ⟨_, -, rfl⟩ := Invoke.invokeTransfer_spec htransfer
    unfold ModuleBase.payProtocolFeeFromSetToken at hpay
    split_ifs at hpay with hprotocol
    · obtain ⟨_, -, -, -, rfl⟩ := Invoke.strictInvokeTransfer_spec hpay
      rfl
    · obtain rfl := Except.ok.inj hpay
      rfl
  · obtain rfl := Except.ok.inj h
    rfl

/-- A token that is absorbed is listed, and the settings stay. -/
theorem absorbToken_spec (h : absorbToken self env setToken w token = .ok w') :
    isAirdropToken w setToken token = true ∧ w'.airdropSettings = w.airdropSettings := by
  simp only [absorbToken, handleAirdropPosition, bind_eq_ok, require_eq_ok] at h
  obtain ⟨-, hlisted, _, -, amountAirdropped, -, h⟩ := h
  refine ⟨hlisted, ?_⟩
  split_ifs at h with hpos
  · simp only [bind_eq_ok, World.editSetToken_eq_ok] at h
    obtain ⟨r, hfees, _, -, _, -, rfl⟩ := h
    exact airdropSettings_of_handleFees hfees
  · obtain rfl := Except.ok.inj h
    rfl

/-- So are the tokens of a batch. -/
theorem batchAbsorbTokens_spec {tokens : List Address}
    (h : batchAbsorbTokens self env setToken w tokens = .ok w') :
    (∀ token ∈ tokens, isAirdropToken w setToken token = true) ∧
      w'.airdropSettings = w.airdropSettings := by
  induction tokens generalizing w with
  | nil =>
    obtain rfl : w = w' := by simpa [batchAbsorbTokens] using h
    exact ⟨fun _ ht => absurd ht List.not_mem_nil, rfl⟩
  | cons token tokens ih =>
    obtain ⟨w₁, habsorb, hrest⟩ := foldlM_cons_eq_ok.mp h
    obtain ⟨hlisted, hsame⟩ := absorbToken_spec habsorb
    obtain ⟨hothers, hsame'⟩ := ih hrest
    refine ⟨fun t ht => ?_, hsame'.trans hsame⟩
    rcases List.mem_cons.mp ht with rfl | ht
    · exact hlisted
    · have ht := hothers t ht
      rwa [isAirdropToken, getAirdrops_of_same hsame] at ht

/-- Each action edits the lists in its own way, and a token is only added where it is not listed. -/
theorem step_spec {a : Action} (h : step self env a w = .ok w') :
    (∀ x, getAirdrops w' x = edited x (getAirdrops w x) a) ∧
      ∀ msgSender setToken airdrop, a = .addAirdrop msgSender setToken airdrop →
        airdrop ∉ getAirdrops w setToken := by
  cases a with
  | initializeModule msgSender setToken settings =>
    simp only [step, AirdropModule.initializeModule, bind_eq_ok, World.editSetToken_eq_ok] at h
    obtain ⟨-, -, -, -, -, -, -, -, _, -, rfl⟩ := h
    exact ⟨fun x => getAirdrops_setSettings, by simp⟩
  | addAirdrop msgSender setToken airdrop =>
    simp only [step, AirdropModule.addAirdrop, bind_eq_ok, require_eq_ok, isAirdropToken,
      AddressArrayUtils.contains_eq_false, pure_eq_ok] at h
    obtain ⟨-, -, -, hnew, rfl⟩ := h
    refine ⟨fun x => ?_, ?_⟩
    · rw [getAirdrops_setSettings, edited]
      split
      · rename_i hx
        rw [hx]
        rfl
      · rfl
    · intro _ _ _ ha
      injection ha with _ hset hairdrop
      rwa [← hset, ← hairdrop]
  | removeAirdrop msgSender setToken airdrop =>
    simp only [step, AirdropModule.removeAirdrop, bind_eq_ok, AddressArrayUtils.remove_eq_ok,
      pure_eq_ok] at h
    obtain ⟨-, -, -, -, _, ⟨-, rfl⟩, rfl⟩ := h
    refine ⟨fun x => ?_, by simp⟩
    rw [getAirdrops_setSettings, edited]
    split
    · rename_i hx
      rw [hx]
      rfl
    · rfl
  | updateAnyoneAbsorb msgSender setToken =>
    simp only [step, AirdropModule.updateAnyoneAbsorb, bind_eq_ok, pure_eq_ok] at h
    obtain ⟨-, -, rfl⟩ := h
    exact ⟨fun x => getAirdrops_setSettings_of_same rfl, by simp⟩
  | updateFeeRecipient msgSender setToken newFeeRecipient =>
    simp only [step, AirdropModule.updateFeeRecipient, bind_eq_ok, pure_eq_ok] at h
    obtain ⟨-, -, -, -, -, -, rfl⟩ := h
    exact ⟨fun x => getAirdrops_setSettings_of_same rfl, by simp⟩
  | updateAirdropFee msgSender setToken newFee =>
    simp only [step, AirdropModule.updateAirdropFee, bind_eq_ok, pure_eq_ok] at h
    obtain ⟨-, -, -, -, -, -, w₁, hbatch, rfl⟩ := h
    obtain ⟨-, hsame⟩ := batchAbsorbTokens_spec hbatch
    refine ⟨fun x => ?_, by simp⟩
    have hfee : getAirdrops (setSettings w₁ setToken
        { w₁.airdropSettings setToken with airdropFee := newFee }) x = getAirdrops w₁ x :=
      getAirdrops_setSettings_of_same rfl
    exact hfee.trans (getAirdrops_of_same hsame)
  | absorb msgSender setToken token =>
    simp only [step, AirdropModule.absorb, bind_eq_ok] at h
    obtain ⟨-, -, -, -, h⟩ := h
    obtain ⟨-, hsame⟩ := absorbToken_spec h
    exact ⟨fun x => getAirdrops_of_same hsame, by simp⟩
  | batchAbsorb msgSender setToken tokens =>
    simp only [step, AirdropModule.batchAbsorb, bind_eq_ok] at h
    obtain ⟨-, -, -, -, h⟩ := h
    obtain ⟨-, hsame⟩ := batchAbsorbTokens_spec h
    exact ⟨fun x => getAirdrops_of_same hsame, by simp⟩
  | removeModule msgSender =>
    obtain rfl := Except.ok.inj h
    exact ⟨fun x => getAirdrops_setSettings, by simp⟩
  | elsewhere w' =>
    obtain rfl := Except.ok.inj h
    exact ⟨fun x => rfl, by simp⟩

/-! ## Listed once -/

/-- The condition on an action: the tokens of an `initialize` have no duplicates. -/
def Distinct : Action → World → Prop
  | .initializeModule _ _ settings, _ => settings.airdrops.Nodup
  | _, _ => True

instance (a : Action) (w : World) : Decidable (Distinct a w) := by
  unfold Distinct
  split <;> infer_instance

/-- An action that meets the condition lists no token twice. -/
theorem nodup_step {a : Action} (hw : ∀ x, (getAirdrops w x).Nodup) (met : Distinct a w)
    (h : step self env a w = .ok w') (x : Address) : (getAirdrops w' x).Nodup := by
  obtain ⟨hedit, hnew⟩ := step_spec h
  rw [hedit]
  cases a with
  | initializeModule msgSender setToken settings =>
    simp only [edited]
    split
    · exact met
    · exact hw x
  | addAirdrop msgSender setToken airdrop =>
    simp only [edited]
    split
    · rename_i hx
      have hnot := hnew msgSender setToken airdrop rfl
      rw [← hx] at hnot
      exact List.concat_eq_append ▸ (hw x).concat hnot
    · exact hw x
  | removeAirdrop msgSender setToken airdrop =>
    simp only [edited]
    split
    · exact (hw x).erase airdrop
    · exact hw x
  | removeModule msgSender =>
    simp only [edited]
    split
    · exact List.nodup_nil
    · exact hw x
  | _ => exact hw x

/-- No Set uses the module yet. -/
structure Fresh (w : World) : Prop where
  /-- There are no tokens. -/
  airdrops : ∀ setToken, getAirdrops w setToken = []

/-- No token is listed twice in the states of such runs. -/
theorem nodup_of_run (fresh : Fresh w) (reached : ReachWhen (step self env) Distinct w w') :
    ∀ x, (getAirdrops w' x).Nodup := by
  refine reached.invariant (fun w => ∀ x, (getAirdrops w x).Nodup)
    (fun a w w' hw met h => nodup_step hw met h) fun x => ?_
  rw [fresh.airdrops]
  exact List.nodup_nil

/-! ## Removed tokens -/

/-- The action does not add the token to the Set. -/
def NotAdds (setToken token : Address) : Action → World → Prop
  | .initializeModule _ x settings, _ => x = setToken → token ∉ settings.airdrops
  | .addAirdrop _ x airdrop, _ => x = setToken → airdrop ≠ token
  | _, _ => True

/-- A token that is not listed stays so until it is added. -/
theorem notMem_step {a : Action} (hw : token ∉ getAirdrops w setToken)
    (met : NotAdds setToken token a w) (h : step self env a w = .ok w') :
    token ∉ getAirdrops w' setToken := by
  rw [(step_spec h).1]
  cases a with
  | initializeModule msgSender x settings =>
    simp only [edited]
    split
    · rename_i hx
      exact met hx.symm
    · exact hw
  | addAirdrop msgSender x airdrop =>
    simp only [edited]
    split
    · rename_i hx
      rw [List.mem_append, List.mem_singleton, not_or]
      exact ⟨hw, (met hx.symm).symm⟩
    · exact hw
  | removeAirdrop msgSender x airdrop =>
    simp only [edited]
    split
    · exact fun hmem => hw (List.mem_of_mem_erase hmem)
    · exact hw
  | removeModule msgSender =>
    simp only [edited]
    split
    · exact List.not_mem_nil
    · exact hw
  | _ => exact hw

/-- The module does not absorb the token, alone or in a batch. -/
def Rejects (self : Address) (env : Env) (w : World) (setToken token : Address) : Prop :=
  ∀ msgSender w', AirdropModule.absorb self env w msgSender setToken token ≠ .ok w' ∧
    ∀ tokens, token ∈ tokens →
      AirdropModule.batchAbsorb self env w msgSender setToken tokens ≠ .ok w'

/-- A token that is not listed is not absorbed. -/
theorem rejects_of_notMem (h : token ∉ getAirdrops w setToken) :
    Rejects self env w setToken token := by
  have hnot : isAirdropToken w setToken token ≠ true := by
    rw [isAirdropToken, ne_eq, AddressArrayUtils.contains_eq_true]
    exact h
  intro msgSender w'
  constructor
  · intro habsorb
    simp only [AirdropModule.absorb, bind_eq_ok] at habsorb
    obtain ⟨-, -, -, -, habsorb⟩ := habsorb
    exact hnot (absorbToken_spec habsorb).1
  · intro tokens htoken habsorb
    simp only [AirdropModule.batchAbsorb, bind_eq_ok] at habsorb
    obtain ⟨-, -, -, -, habsorb⟩ := habsorb
    exact hnot ((batchAbsorbTokens_spec habsorb).1 token htoken)

/-- **Removed tokens**: from a state in which no Set uses the module, after any calls of the module,
with anything happening elsewhere in between, as long as no `initialize` is given a token twice, no
Set lists a token twice. A token that is then removed is not listed any more, and the module rejects
it, alone and in a batch, until it is added again. -/
theorem revoked_of_run {w₁ : World} (fresh : Fresh w)
    (reached : ReachWhen (step self env) Distinct w w₁) :
    (∀ setToken, (getAirdrops w₁ setToken).Nodup) ∧
      ∀ msgSender setToken token w₂,
        AirdropModule.removeAirdrop self w₁ msgSender setToken token = .ok w₂ →
        isAirdropToken w₂ setToken token = false ∧
          ∀ w₃, ReachWhen (step self env) (NotAdds setToken token) w₂ w₃ →
            Rejects self env w₃ setToken token := by
  have hnodup := nodup_of_run fresh reached
  refine ⟨hnodup, fun msgSender setToken token w₂ hremove => ?_⟩
  have hremoved : token ∉ getAirdrops w₂ setToken := by
    have hstep : step self env (.removeAirdrop msgSender setToken token) w₁ = .ok w₂ := hremove
    rw [(step_spec hstep).1, edited, if_pos rfl]
    exact (hnodup setToken).not_mem_erase
  refine ⟨AddressArrayUtils.contains_eq_false.mpr hremoved, fun w₃ hlater => ?_⟩
  exact rejects_of_notMem (hlater.invariant (fun w => token ∉ getAirdrops w setToken)
    (fun a w w' hw met h => notMem_step hw met h) hremoved)

/-! ## Example -/

/-- The Set `100` with the manager `3`, on which the module `7` is pending, has a supply of one Set
and holds `5` of the token `11`, which is no component. -/
def exampleWorld : World :=
  { controller := { isSet := fun a => a = 100, isModule := fun a => a = 7 }
    tokens := fun a =>
      if a = 11 then { balances := fun b => if b = 100 then 5 else 0, totalSupply := 5 }
      else if a = 100 then { totalSupply := preciseUnit } else {}
    setTokens := fun _ =>
      { manager := 3
        positionMultiplier := preciseUnitInt
        moduleStates := fun a => if a = 7 then .pending else .none } }

/-- The tokens `11` and `12` are listed, `12` is removed and added again, and `11` is removed. The
module rejects it from then on. -/
theorem revoked_of_run_example :
    ∃ w₁ w₂, ReachWhen (step 7 {}) Distinct exampleWorld w₁ ∧
      AirdropModule.removeAirdrop 7 w₁ 3 100 11 = .ok w₂ ∧ getAirdrops w₂ 100 = [12] ∧
      (∀ setToken, (getAirdrops w₁ setToken).Nodup) ∧ isAirdropToken w₂ 100 11 = false ∧
      Rejects 7 {} w₂ 100 11 := by
  obtain ⟨w₁, hrun, hstart⟩ := exists_of_yields
    (x := runAll (guarded (step 7 {}) Distinct "")
      [.initializeModule 3 100 { airdrops := [11, 12], feeRecipient := 8 },
        .removeAirdrop 3 100 12, .addAirdrop 3 100 12] exampleWorld)
    (p := fun w => yields (AirdropModule.removeAirdrop 7 w 3 100 11)
      fun w' => getAirdrops w' 100 = [12]) (by decide +kernel)
  obtain ⟨w₂, hremove, hleft⟩ := exists_of_yields hstart
  have hreached := reachWhen_of_runAll hrun
  obtain ⟨hnodup, hrevoked⟩ := revoked_of_run ⟨fun _ => rfl⟩ hreached
  obtain ⟨hlisted, hrejects⟩ := hrevoked 3 100 11 w₂ hremove
  exact ⟨w₁, w₂, hreached, hremove, of_decide_eq_true hleft, hnodup, hlisted, hrejects w₂ .start⟩

/-- `initialize` lists `11` twice. After its removal it is still listed, and is absorbed. -/
theorem run_absorbs_removed_token :
    ∃ w₁ w₂ w₃, Reach (step 7 {}) exampleWorld w₁ ∧ getAirdrops w₁ 100 = [11, 11] ∧
      AirdropModule.removeAirdrop 7 w₁ 3 100 11 = .ok w₂ ∧ isAirdropToken w₂ 100 11 = true ∧
      AirdropModule.absorb 7 {} w₂ 3 100 11 = .ok w₃ ∧
      (w₃.setTokens 100).defaultRealUnit 11 = 5 := by
  obtain ⟨w₁, hrun, hstart⟩ := exists_of_yields
    (x := runAll (step 7 {})
      [.initializeModule 3 100 { airdrops := [11, 11], feeRecipient := 8 }] exampleWorld)
    (p := fun w => getAirdrops w 100 = [11, 11] ∧
      yields (AirdropModule.removeAirdrop 7 w 3 100 11) (fun w => isAirdropToken w 100 11 = true ∧
        yields (AirdropModule.absorb 7 {} w 3 100 11)
          fun w => (w.setTokens 100).defaultRealUnit 11 = 5)) (by decide +kernel)
  obtain ⟨hlist, hstart⟩ := of_decide_eq_true hstart
  obtain ⟨w₂, hremove, hstart⟩ := exists_of_yields hstart
  obtain ⟨hlisted, hstart⟩ := of_decide_eq_true hstart
  obtain ⟨w₃, habsorb, hunit⟩ := exists_of_yields hstart
  exact ⟨w₁, w₂, w₃, reach_of_runAll hrun, hlist, hremove, hlisted, habsorb,
    of_decide_eq_true hunit⟩

end AirdropRegistry

end SetProtocol
