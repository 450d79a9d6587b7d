import SetProtocol.Core.Flow
import SetProtocol.Lib.Funds
import SetProtocol.Positions.Collateralised
import SetProtocol.Positions.Edits

set_option relaxedAutoImplicit false
set_option autoImplicit false

/-!
# A Set as a fund

A Set without external positions is a fund: its tokens are the shares, and `10 ^ 18` of them stand
for the default unit of each component. Operations of modules are steps of the fund. Most of those
of a manager come in two parts, a call by which some tokens leave the Set, and edits of the
positions of these tokens by what is there afterwards.

## Main definitions

* `SetProtocol.Solvency.Sound` — a Set without external positions.
* `SetProtocol.Solvency.fund` — the Set as a fund.
* `SetProtocol.Solvency.TakesOnly` — a call that takes no tokens but the given ones.
* `SetProtocol.Solvency.Marked` — the positions of some tokens are edited to what is there.
* `SetProtocol.Solvency.Accounted` — an operation that is a run of the fund.

## Main results

* `SetProtocol.Solvency.Sound.edit` — an edit keeps a Set sound.
* `SetProtocol.Solvency.marked_of_calculateAndEdit` — edits by balances mark the token.
* `SetProtocol.Solvency.accounted_of_marked` — the two parts of an operation make a step.
* `SetProtocol.Solvency.Accounted.trans` — operations are put one after the other.
-/

namespace SetProtocol

open Checked

namespace Solvency

/-! ## Sound Sets -/

/-- A Set without external positions, whose units are no debt and are all listed. -/
structure Sound (s : SetToken) : Prop where
  /-- No component is listed twice. -/
  nodup : s.components.Nodup
  /-- There are no external positions. -/
  external : ∀ c, s.externalPositionModules c = []
  /-- No unit is negative. -/
  nonneg : ∀ c, 0 ≤ s.defaultPositionVirtualUnit c
  /-- What has a unit is a component. -/
  listed : ∀ c, s.defaultPositionVirtualUnit c ≠ 0 → c ∈ s.components
  /-- The multiplier is positive. -/
  multiplier_pos : 0 < s.positionMultiplier

/-- The default unit of a component that is no debt. -/
def unit (s : SetToken) (c : Address) : ℕ := (s.defaultRealUnit c).toNat

variable {s s' : SetToken} {m : Message} {c d : Address}

namespace Sound

/-- A sound Set has default positions only. -/
theorem defaultOnly (hs : Sound s) : DefaultOnly s := ⟨hs.nodup, fun c _ => hs.external c⟩

/-- The real units are no debt either. -/
theorem natCast_unit (hs : Sound s) (c : Address) : (unit s c : ℤ) = s.defaultRealUnit c := by
  apply Int.toNat_of_nonneg
  exact Int.ediv_nonneg (Int.mul_nonneg (hs.nonneg c) hs.multiplier_pos.le) preciseUnitInt_pos.le

/-- What is not listed has no unit. -/
theorem unit_eq_zero (hs : Sound s) (hc : c ∉ s.components) : unit s c = 0 := by
  have hzero : s.defaultPositionVirtualUnit c = 0 := by
    by_contra hne
    exact hc (hs.listed c hne)
  rw [unit, SetToken.defaultRealUnit, hzero, SetToken.realUnit_zero]
  rfl

/-- A default position that is written with its list keeps a Set sound. It reads as at most the unit
that was written, and the units of other tokens stay. -/
theorem withDefaultPosition {n : ℕ} {l : List Address} (hs : Sound s)
    (hlist : Position.ListEdit s c n l)
    (hs' : s' = Position.withDefaultPosition s c l
      ((n : ℤ) * preciseUnitInt / s.positionMultiplier)) :
    Sound s' ∧ unit s' c ≤ n ∧ ∀ d, d ≠ c → unit s' d = unit s d := by
  subst hs'
  have hv0 : 0 ≤ (n : ℤ) * preciseUnitInt / s.positionMultiplier := by
    apply Int.ediv_nonneg _ hs.multiplier_pos.le
    exact Int.mul_nonneg (Int.natCast_nonneg n) preciseUnitInt_pos.le
  refine ⟨⟨hlist.nodup hs.nodup, fun d => ?_, fun d => ?_, fun d hd => ?_, hs.multiplier_pos⟩, ?_,
    fun d hd => ?_⟩
  · rw [Position.externalPositionModules_withDefaultPosition, hs.external]
  · rw [Position.defaultPositionVirtualUnit_withDefaultPosition]
    split_ifs
    · exact hv0
    · exact hs.nonneg d
  · rw [Position.defaultPositionVirtualUnit_withDefaultPosition] at hd
    rw [Position.components_withDefaultPosition]
    split_ifs at hd with hdc
    · -- the edited component has a unit, so that it was or became listed
      subst hdc
      have hn : 0 < n := by
        rcases Nat.eq_zero_or_pos n with rfl | hn
        · rw [Nat.cast_zero, Int.zero_mul, Int.zero_ediv] at hd
          exact absurd rfl hd
        · exact hn
      cases hlist with
      | keep found =>
        have hreal : 0 < s.defaultRealUnit d := (found (hs.external d)).mpr hn
        apply hs.listed
        intro hzero
        rw [SetToken.defaultRealUnit, hzero, SetToken.realUnit_zero] at hreal
        exact absurd hreal (lt_irrefl 0)
      | append => exact List.mem_append_right _ (List.mem_singleton_self d)
      | remove _ _ closed _ => exact absurd closed hn.ne'
    · exact (hlist.mem_of_ne hs.nodup hdc).mpr (hs.listed d hd)
  · have hback : (Position.withDefaultPosition s c l
        ((n : ℤ) * preciseUnitInt / s.positionMultiplier)).defaultRealUnit c ≤ (n : ℤ) := by
      rw [SetToken.defaultRealUnit, Position.defaultPositionVirtualUnit_withDefaultPosition,
        if_pos rfl]
      exact (ReadBack.of_floors hs.multiplier_pos).le
    exact Int.toNat_le.mpr hback
  · rw [unit, unit, SetToken.defaultRealUnit, SetToken.defaultRealUnit,
      Position.defaultPositionVirtualUnit_withDefaultPosition, if_neg hd]
    rfl

/-- An edit of a default position does so. -/
theorem edit {n : ℕ} (hs : Sound s) (h : Position.editDefaultPosition m s c n = .ok s') :
    Sound s' ∧ unit s' c ≤ n ∧ ∀ d, d ≠ c → unit s' d = unit s d := by
  obtain ⟨-, l, v, hlist, rfl, -, hs'⟩ := Position.editDefaultPosition_cases hs.multiplier_pos h
  exact hs.withDefaultPosition hlist hs'

/-- A Set with another positive multiplier is sound. -/
theorem scaled (hs : Sound s) {multiplier : ℤ} (hpos : 0 < multiplier) :
    Sound { s with positionMultiplier := multiplier } :=
  ⟨hs.nodup, hs.external, hs.nonneg, hs.listed, hpos⟩

end Sound

/-! ## The fund -/

/-- The Set as a fund. -/
def fund (setToken : Address) (w : World) : Funds.Fund Address where
  supply := w.totalSupply setToken
  holding c := (w.tokens c).balances setToken
  unit c := unit (w.setTokens setToken) c

variable {setToken self token : Address} {env : Env} {w w₁ w₂ w' : World} {l l' : List Address}

/-- A Set is collateralised where the fund is backed. -/
theorem collateralised_of_backedAt (h : Funds.BackedAt preciseUnit (fund setToken w) c) :
    Collateralised w setToken c :=
  collateralised_iff.mpr h

/-! ## Calls that take tokens -/

/-- The call leaves the positions and the supply of the Set alone, and takes from it no tokens but
the given ones. -/
structure TakesOnly (setToken : Address) (tokens : List Address) (w w' : World) : Prop where
  /-- The positions are unchanged. -/
  positions : w'.setTokens setToken = w.setTokens setToken
  /-- The supply is unchanged. -/
  supply : w'.totalSupply setToken = w.totalSupply setToken
  /-- The Set has no less of other tokens. -/
  balances : ∀ c, c ∉ tokens →
    (w.tokens c).balances setToken ≤ (w'.tokens c).balances setToken

namespace TakesOnly

/-- Doing nothing takes nothing. -/
theorem refl (setToken : Address) (l : List Address) (w : World) : TakesOnly setToken l w w :=
  ⟨rfl, rfl, fun _ _ => Nat.le_refl _⟩

/-- Two calls in a row take what either may take. -/
theorem trans (h₁ : TakesOnly setToken l w w₁) (h₂ : TakesOnly setToken l w₁ w₂) :
    TakesOnly setToken l w w₂ :=
  ⟨h₂.positions.trans h₁.positions, h₂.supply.trans h₁.supply,
    fun c hc => (h₁.balances c hc).trans (h₂.balances c hc)⟩

/-- More tokens may be taken. -/
theorem mono (h : TakesOnly setToken l w w₁) (hl : l ⊆ l') : TakesOnly setToken l' w w₁ :=
  ⟨h.positions, h.supply, fun c hc => h.balances c fun hmem => hc (hl hmem)⟩

/-- A flow that takes out of one token only. -/
theorem of_flow {into : Address → ℕ} {amount : ℕ}
    (h : Flow setToken w w₁ into (only token amount)) : TakesOnly setToken [token] w w₁ := by
  refine ⟨h.positions, h.supply, fun c hc => ?_⟩
  have hbalance := h.balances c
  have hne : c ≠ token := by simpa using hc
  rw [only, if_neg hne, Nat.add_zero] at hbalance
  omega

/-- An entry in the log takes nothing. -/
theorem of_log (call : Call) : TakesOnly setToken l w (w.log call) :=
  ⟨rfl, rfl, fun _ _ => Nat.le_refl _⟩

/-- An approval takes nothing. -/
theorem of_invokeApprove {spender : Address} {quantity : ℕ}
    (h : Invoke.invokeApprove self env w setToken token spender quantity = .ok w₁) :
    TakesOnly setToken l w w₁ := by
  obtain ⟨t', hbalances, hsupply, rfl⟩ := Invoke.invokeApprove_spec h
  refine ⟨rfl, ?_, fun c _ => ?_⟩
  · by_cases hc : setToken = token
    · subst hc
      simpa [World.totalSupply, World.setTokenLedger] using hsupply
    · simp [World.totalSupply, World.setTokenLedger, hc]
  · by_cases hc : c = token
    · subst hc
      simp [World.setTokenLedger, hbalances]
    · simp [World.setTokenLedger, hc]

/-- A loop of such calls. -/
theorem foldlM {β : Type} {f : World → β → Except Revert World} {rounds : List β}
    (body : ∀ b ∈ rounds, ∀ w w', f w b = .ok w' → TakesOnly setToken l w w')
    (h : rounds.foldlM f w = .ok w₁) : TakesOnly setToken l w w₁ :=
  foldlM_rel (TakesOnly setToken l) (refl setToken l) trans body h

end TakesOnly

/-- The contracts outside the protocol take nothing but the given tokens when the Set calls them
so. -/
def Draws (env : Env) (setToken : Address) (tokens : List Address) (target : Address) (value : ℕ)
    (data : CallData) : Prop :=
  ∀ w w' words, World.execute env w ⟨setToken, target, value, data⟩ = .ok (w', words) →
    TakesOnly setToken tokens w w'

/-- A call by the Set takes what it draws. -/
theorem TakesOnly.of_invoke {target : Address} {value : ℕ} {data : CallData} {words : List ℕ}
    (hdraws : Draws env setToken l target value data)
    (h : w.invoke env self setToken target value data = .ok (w₁, words)) :
    TakesOnly setToken l w w₁ :=
  (TakesOnly.of_log _).trans (hdraws _ _ _ (World.invoke_eq_ok.mp h).2)

/-! ## Edits by what is there -/

/-- The positions of some tokens are edited, to no more than what the Set has of them. -/
structure Marked (setToken : Address) (tokens : List Address) (w w' : World) : Prop where
  /-- The Set is sound. -/
  sound : Sound (w'.setTokens setToken)
  /-- No tokens move. -/
  ledgers : w'.tokens = w.tokens
  /-- The Set has what the new units stand for. -/
  rounded : ∀ c ∈ tokens, Funds.BackedAt preciseUnit (fund setToken w') c
  /-- Other units are unchanged. -/
  others : ∀ c, c ∉ tokens → unit (w'.setTokens setToken) c = unit (w.setTokens setToken) c

namespace Marked

/-- Editing nothing. -/
theorem nil (hs : Sound (w.setTokens setToken)) : Marked setToken [] w w :=
  ⟨hs, rfl, fun _ hc => absurd hc List.not_mem_nil, fun _ _ => rfl⟩

/-- Edits in a row: a token that the later ones leave alone keeps what the earlier ones wrote. -/
theorem append (h₁ : Marked setToken l w w₁) (h₂ : Marked setToken l' w₁ w₂) :
    Marked setToken (l ++ l') w w₂ := by
  refine ⟨h₂.sound, h₂.ledgers.trans h₁.ledgers, fun c hc => ?_, fun c hc => ?_⟩
  · by_cases hc' : c ∈ l'
    · exact h₂.rounded c hc'
    · have hrounded := h₁.rounded c ((List.mem_append.mp hc).resolve_right hc')
      have hsame : unit (w₂.setTokens setToken) c = unit (w₁.setTokens setToken) c :=
        h₂.others c hc'
      simp only [Funds.BackedAt, fund, World.totalSupply] at hrounded ⊢
      rw [h₂.ledgers, hsame]
      exact hrounded
  · rw [List.mem_append, not_or] at hc
    rw [h₂.others c hc.2, h₁.others c hc.1]

/-- A loop of edits. -/
theorem foldlM {β : Type} {f : World → β → Except Revert World} {rounds : List β}
    {key : β → Address}
    (body : ∀ b ∈ rounds, ∀ s s', Sound (s.setTokens setToken) →
      s.totalSupply setToken = w.totalSupply setToken → f s b = .ok s' →
        Marked setToken [key b] s s')
    (hs : Sound (w.setTokens setToken)) (h : rounds.foldlM f w = .ok w₁) :
    Marked setToken (rounds.map key) w w₁ := by
  induction rounds generalizing w with
  | nil =>
    obtain rfl : w = w₁ := by simpa using h
    exact nil hs
  | cons b rounds ih =>
    obtain ⟨s, hround, hrest⟩ := foldlM_cons_eq_ok.mp h
    have hhead := body b List.mem_cons_self w s hs rfl hround
    have hsupply : s.totalSupply setToken = w.totalSupply setToken := by
      rw [World.totalSupply, World.totalSupply, hhead.ledgers]
    have htail := ih (fun b' hb' t t' ht hsame => body b' (List.mem_cons_of_mem b hb') t t' ht
      (hsame.trans hsupply)) hhead.sound hrest
    exact hhead.append htail

end Marked

/-- An edit to a unit that the balance covers marks the token. -/
theorem marked_of_edit {n : ℕ} (hs : Sound (w.setTokens setToken))
    (hcovered : n * w.totalSupply setToken ≤ (w.tokens token).balances setToken * preciseUnit)
    (h : (w.editSetToken self setToken fun m s => Position.editDefaultPosition m s token n) =
      .ok w₁) : Marked setToken [token] w w₁ := by
  obtain ⟨s', hedit, rfl⟩ := World.editSetToken_eq_ok.mp h
  obtain ⟨hsound, hle, hothers⟩ := hs.edit hedit
  refine ⟨?_, rfl, fun c hc => ?_, fun c hc => ?_⟩
  · rw [World.setTokens_setSetToken]
    exact hsound
  · obtain rfl := List.mem_singleton.mp hc
    unfold Funds.BackedAt fund
    rw [World.setTokens_setSetToken]
    exact (Nat.mul_le_mul_right _ hle).trans hcovered
  · rw [World.setTokens_setSetToken]
    exact hothers c (by simpa using hc)

/-- The unit that is computed from balances is covered by the balance after. -/
theorem covered_of_calculateDefaultEditPositionUnit {supply pre post old n : ℕ}
    (h : Position.calculateDefaultEditPositionUnit supply pre post old = .ok n) :
    n * supply ≤ post * preciseUnit := by
  obtain ⟨-, -, -, -, -, rfl⟩ := Position.calculateDefaultEditPositionUnit_eq_ok.mp h
  exact (Nat.div_mul_le_self _ _).trans (Nat.mul_le_mul_right preciseUnit (Nat.sub_le _ _))

/-- `calculateAndEditDefaultPosition` marks the token. -/
theorem marked_of_calculateAndEdit {supply pre : ℕ} {r : World × ℕ × ℕ × ℕ}
    (hs : Sound (w.setTokens setToken)) (hsupply : w.totalSupply setToken = supply)
    (h : Position.calculateAndEditDefaultPosition self w setToken token supply pre = .ok r) :
    Marked setToken [token] w r.1 := by
  obtain ⟨old, -, n, hn, s', hedit, rfl⟩ := Position.calculateAndEditDefaultPosition_eq_ok.mp h
  refine marked_of_edit hs ?_ (World.editSetToken_eq_ok.mpr ⟨s', hedit, rfl⟩)
  rw [hsupply]
  split_ifs at hn
  · exact covered_of_calculateDefaultEditPositionUnit hn
  · obtain rfl := Except.ok.inj hn
    rw [Nat.zero_mul]
    exact Nat.zero_le _

/-! ## Operations as runs -/

/-- The operation leaves the Set sound, and is a run of the fund. -/
structure Accounted (setToken : Address) (cost : ℕ) (w w' : World) : Prop where
  /-- The Set is sound. -/
  sound : Sound (w'.setTokens setToken)
  /-- The steps of the fund. -/
  run : Funds.Run preciseUnit (fund setToken w) (fund setToken w') cost

/-- Operations are put one after the other. -/
theorem Accounted.trans {cost cost' : ℕ} (h : Accounted setToken cost w w₁)
    (h' : Accounted setToken cost' w₁ w') : Accounted setToken (cost + cost') w w' :=
  ⟨h'.sound, h.run.trans h'.run⟩

/-- What leaves the Set is marked afterwards. -/
theorem accounted_of_marked (htakes : TakesOnly setToken l w w₁)
    (hmarked : Marked setToken l' w₁ w') (hsub : l ⊆ l') : Accounted setToken 0 w w' := by
  refine ⟨hmarked.sound, Funds.Step.run (.mark (· ∈ l') ?_ hmarked.rounded fun c hc => ⟨?_, ?_⟩)⟩
  · have hsupply := htakes.supply
    rw [World.totalSupply, ← hmarked.ledgers] at hsupply
    exact hsupply
  · exact (hmarked.others c hc).le.trans (congrArg (unit · c) htakes.positions).le
  · have hbalance := htakes.balances c fun hmem => hc (hsub hmem)
    rw [← hmarked.ledgers] at hbalance
    exact hbalance

/-- An operation that takes nothing. -/
theorem accounted_of_takesOnly (hs : Sound (w.setTokens setToken))
    (htakes : TakesOnly setToken [] w w') : Accounted setToken 0 w w' := by
  have hs' : Sound (w'.setTokens setToken) := by
    rw [htakes.positions]
    exact hs
  exact accounted_of_marked htakes (.nil hs') (List.Subset.refl _)

/-- A loop of operations that cost nothing. -/
theorem Accounted.foldlM {β : Type} {f : World → β → Except Revert World} {rounds : List β}
    (body : ∀ b ∈ rounds, ∀ s s', Sound (s.setTokens setToken) → f s b = .ok s' →
      Accounted setToken 0 s s')
    (hs : Sound (w.setTokens setToken)) (h : rounds.foldlM f w = .ok w') :
    Accounted setToken 0 w w' := by
  induction rounds generalizing w with
  | nil =>
    obtain rfl : w = w' := by simpa using h
    exact ⟨hs, .start⟩
  | cons b rounds ih =>
    obtain ⟨s, hround, hrest⟩ := foldlM_cons_eq_ok.mp h
    have hhead := body b List.mem_cons_self w s hs hround
    have htail := ih (fun b' hb' => body b' (List.mem_cons_of_mem b hb')) hhead.sound hrest
    exact hhead.trans htail

end Solvency

end SetProtocol
