import EverestCore.Energy.Optimizer
import Mathlib.Order.OrderDual

/-! What an offer says about the market places between an EVSE and the root:
none of them allows less than the offer, and one of them allows no more. -/
namespace EverestCore.Energy
open Data

section Stricter

variable {α : Type*} [LinearOrder α]

/-- Where the second limit is present, the first one is, and is not larger. -/
def Stricter (a b : Option α) : Prop := ∀ x, b = some x → ∃ o, a = some o ∧ o ≤ x

/-- A limit is as strict as itself. -/
theorem Stricter.refl (a : Option α) : Stricter a a := fun x h => ⟨x, h, le_rfl⟩

/-- Strictness is passed on along the way to the root. -/
theorem Stricter.trans {a b c : Option α} (hab : Stricter a b) (hbc : Stricter b c) :
    Stricter a c := by
  intro x hx
  obtain ⟨y, hy, hyx⟩ := hbc x hx
  obtain ⟨z, hz, hzy⟩ := hab y hy
  exact ⟨z, hz, hzy.trans hyx⟩

/-- Applying a limit makes an offer stricter than it was. -/
theorem stricter_left (a b : Option α) : Stricter (applyOneLimitIfSmaller a b) a := by
  rintro x rfl
  cases b with
  | none => exact ⟨x, rfl, le_rfl⟩
  | some limit =>
      dsimp only [applyOneLimitIfSmaller]
      split_ifs with h
      · exact ⟨limit, rfl, h.le⟩
      · exact ⟨x, rfl, le_rfl⟩

/-- After a limit was applied, an offer is at least as strict as the limit. -/
theorem stricter_right (a b : Option α) : Stricter (applyOneLimitIfSmaller a b) b := by
  rintro x rfl
  cases a with
  | none => exact ⟨x, rfl, le_rfl⟩
  | some value =>
      dsimp only [applyOneLimitIfSmaller]
      split_ifs with h
      · exact ⟨x, rfl, le_rfl⟩
      · exact ⟨value, rfl, not_lt.mp h⟩

/-- The smaller of two limits is one of them. -/
theorem applyOneLimitIfSmaller_eq_some {a b : Option α} {o : α}
    (h : applyOneLimitIfSmaller a b = some o) : a = some o ∨ b = some o := by
  unfold applyOneLimitIfSmaller at h
  cases b with
  | none => exact Or.inl h
  | some limit =>
      cases a with
      | none => exact Or.inr h
      | some value =>
          dsimp only at h
          split_ifs at h
          · exact Or.inr h
          · exact Or.inl h

/-- The larger limit is the smaller one in the reversed order. -/
theorem applyOneLimitIfGreater_eq_dual (a b : Option α) :
    applyOneLimitIfGreater a b = applyOneLimitIfSmaller (α := αᵒᵈ) a b := rfl

end Stricter

/-- What is available at a market place in a direction. -/
def available (g : Globals) (node : RequestNode) (sold : Slot g → ScheduleResEntry)
    (isImport : Bool) (i : Slot g) : LimitsReq :=
  if isImport then (getAvailableEnergyImport g node sold i).limitsToRoot
  else (getAvailableEnergyExport g node sold i).limitsToRoot

/-- A limit of which an offer keeps the smallest. -/
structure IsSmallerLimit {α : Type*} [LinearOrder α] (limit : LimitsReq → Option α) : Prop where
  empty : limit {} = none
  apply : ∀ a b : ScheduleReqEntry, limit (applyLimits a b).limitsToRoot =
    applyOneLimitIfSmaller (limit a.limitsToRoot) (limit b.limitsToRoot)

/-- The current of an offer is the smallest one on the way. -/
theorem isSmallerLimit_acMaxCurrentA : IsSmallerLimit LimitsReq.acMaxCurrentA :=
  ⟨rfl, fun _ _ => rfl⟩

/-- The power of an offer is the smallest one on the way. -/
theorem isSmallerLimit_totalPowerW : IsSmallerLimit LimitsReq.totalPowerW :=
  ⟨rfl, fun _ _ => rfl⟩

/-- The number of phases is the smallest one on the way. -/
theorem isSmallerLimit_acMaxPhaseCount : IsSmallerLimit LimitsReq.acMaxPhaseCount :=
  ⟨rfl, fun _ _ => rfl⟩

/-- Minima are kept in the reversed order. -/
theorem isSmallerLimit_acMinCurrentA :
    IsSmallerLimit (α := ℚᵒᵈ) LimitsReq.acMinCurrentA :=
  ⟨rfl, fun _ _ => applyOneLimitIfGreater_eq_dual _ _⟩

section Offer

variable {m : Market} {sold : Ledger m.globals} {place : Place} {offer : Offer m.globals}

/-- At the root, only its own limits apply. -/
theorem createOffer_nil_eq_some (h : createOffer m sold [] = some offer) :
    ∃ node, m.node? [] = some node ∧
      offer = limitOffer node (sold []) ⟨emptyScheduleReq _, emptyScheduleReq _⟩ := by
  rw [createOffer] at h
  obtain ⟨node, hNode, hOffer⟩ := Option.bind_eq_some_iff.mp h
  exact ⟨node, hNode, (Option.some.inj hOffer).symm⟩

/-- Below the root, an offer is the offer of the parent with the limits of the market place applied
to it. -/
theorem createOffer_cons_eq_some {j : ℕ} (h : createOffer m sold (j :: place) = some offer) :
    ∃ node above, m.node? (j :: place) = some node ∧ createOffer m sold place = some above ∧
      offer = limitOffer node (sold (j :: place)) above := by
  rw [createOffer] at h
  obtain ⟨node, hNode, h⟩ := Option.bind_eq_some_iff.mp h
  split at h
  · obtain ⟨above, hAbove, hOffer⟩ := Option.bind_eq_some_iff.mp h
    exact ⟨node, above, hNode, hAbove, (Option.some.inj hOffer).symm⟩
  · cases h

variable {α : Type*} [LinearOrder α] {limit : LimitsReq → Option α}

/-- How one market place changes one limit of an offer. -/
theorem limit_limitOffer (hLimit : IsSmallerLimit limit) {g : Globals} (node : RequestNode)
    (sold : Slot g → ScheduleResEntry) (offer : Offer g) (isImport : Bool) (i : Slot g) :
    limit ((limitOffer node sold offer).side isImport i) =
      applyOneLimitIfSmaller (limit (offer.side isImport i))
        (limit (available g node sold isImport i)) := by
  cases isImport <;> exact hLimit.apply _ _

/-- The offer is as strict as any market place on the way. -/
theorem createOffer_stricter (hLimit : IsSmallerLimit limit)
    (hOffer : createOffer m sold place = some offer) {above : Place} {node : RequestNode}
    (hAbove : above <:+ place) (hNode : m.node? above = some node) (isImport : Bool)
    (i : m.Slot) :
    Stricter (limit (offer.side isImport i))
      (limit (available m.globals node (sold above) isImport i)) := by
  induction place generalizing offer with
  | nil =>
      obtain ⟨here, hHere, rfl⟩ := createOffer_nil_eq_some hOffer
      obtain rfl := List.suffix_nil.mp hAbove
      cases hHere.symm.trans hNode
      rw [limit_limitOffer hLimit]
      exact stricter_right _ _
  | cons j place ih =>
      obtain ⟨here, parentOffer, hHere, hParent, rfl⟩ := createOffer_cons_eq_some hOffer
      rw [limit_limitOffer hLimit]
      rcases List.suffix_cons_iff.mp hAbove with rfl | hAbove
      · cases hHere.symm.trans hNode
        exact stricter_right _ _
      · exact (stricter_left _ _).trans (ih hParent hAbove)

/-- Every limit of an offer is that of a market place on the way. -/
theorem createOffer_attained (hLimit : IsSmallerLimit limit)
    (hOffer : createOffer m sold place = some offer) {isImport : Bool} {i : m.Slot} {o : α}
    (hSome : limit (offer.side isImport i) = some o) :
    ∃ above node, above <:+ place ∧ m.node? above = some node ∧
      limit (available m.globals node (sold above) isImport i) = some o := by
  induction place generalizing offer with
  | nil =>
      obtain ⟨node, hNode, rfl⟩ := createOffer_nil_eq_some hOffer
      rw [limit_limitOffer hLimit] at hSome
      rcases applyOneLimitIfSmaller_eq_some hSome with hEmpty | hHere
      · have hNone : limit ((⟨emptyScheduleReq _, emptyScheduleReq _⟩ : Offer m.globals).side
            isImport i) = none := by
          cases isImport <;> exact hLimit.empty
        rw [hNone] at hEmpty
        cases hEmpty
      · exact ⟨[], node, List.suffix_refl _, hNode, hHere⟩
  | cons j place ih =>
      obtain ⟨node, parentOffer, hNode, hParent, rfl⟩ := createOffer_cons_eq_some hOffer
      rw [limit_limitOffer hLimit] at hSome
      rcases applyOneLimitIfSmaller_eq_some hSome with hAbove | hHere
      · obtain ⟨above, node, hSuffix, hNode, hLimit⟩ := ih hParent hAbove
        exact ⟨above, node, hSuffix.trans (List.suffix_cons _ _), hNode, hLimit⟩
      · exact ⟨j :: place, node, List.suffix_refl _, hNode, hHere⟩

end Offer

end EverestCore.Energy
