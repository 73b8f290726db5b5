import EverestCore.GenericPowermeter.Cycle

/-! Failed reads of `GenericPowermeter`: which results of a cycle leave the last values in place
and the reading thread alive. -/
namespace EverestCore.GenericPowermeter

variable {F : Type} (float : FloatArithmetic F) (conf : Conf) (hub : SerialCommHub)

/-- The value has been read with all its registers, and so has the exponent, if there is one. -/
structure IsRead (n : ℕ) (data : RegisterData F) : Prop where
  status : (registerResponse conf hub n data).statusCode = .success
  complete : ∃ values, (registerResponse conf hub n data).value = some values ∧
    values.length = data.numRegisters.toNat
  exponent : data.exponentRegister ≠ 0 →
    (exponentResponse conf hub n data).statusCode = .success ∧
      ∃ first rest, (exponentResponse conf hub n data).value = some (first :: rest)

/-- The hub reports the failure of the read, or nothing has failed and the registers are not too
many. -/
def Harmless (n : ℕ) (data : RegisterData F) : Prop :=
  (registerResponse conf hub n data).statusCode ≠ .success ∨
    IsRead conf hub n data ∧ (data.numRegisters.toNat = 1 ∨ data.numRegisters.toNat = 2)

/-- A cycle from the `n`-th read on ends, each of its reads changes the record only if the value
is read, and so does the whole cycle with each place. -/
structure KeepsValues (n : ℕ) (data : List (RegisterData F)) : Prop where
  alive : ∀ record, (∀ registerData ∈ data, Present record registerData) →
    ∃ after, readPowermeterValues float conf hub n data record = .ok after
  reads : ∀ i registerData, data[i]? = some registerData →
    ∀ record after, Present record registerData →
      readRegister float conf hub (n + i) registerData record = .ok after → after ≠ record →
        IsRead conf hub (n + i) registerData
  cycle : ∀ record after, (∀ registerData ∈ data, Present record registerData) →
    readPowermeterValues float conf hub n data record = .ok after →
      ∀ place, after.value place ≠ record.value place →
        ∃ i registerData, data[i]? = some registerData ∧
          registerData.type.storedPlace = place ∧ IsRead conf hub (n + i) registerData

section Facts

variable {float conf hub} {n : ℕ} {data : RegisterData F}

/-- What a read does depends on the record only through the optional. -/
theorem readEffect_congr {record other : Powermeter F} (hRecord : Present record data)
    (hOther : Present other data) :
    readEffect float conf hub n data record = readEffect float conf hub n data other := by
  by_cases hStatus : (registerResponse conf hub n data).statusCode = .success
  · rw [readEffect_of_success hStatus hRecord, readEffect_of_success hStatus hOther]
  · rw [readEffect_of_error hStatus, readEffect_of_error hStatus]

/-- A merge takes as many registers as are configured, and no more than two. -/
theorem merge_ok_iff {message : Modbus.Result} {values : List ℤ}
    (hValue : message.value = some values) (exponent : Int16) :
    (∃ new, mergeRegisterValuesIntoElement float data exponent message = .ok new) ↔
      values.length = data.numRegisters.toNat ∧
        (data.numRegisters.toNat = 1 ∨ data.numRegisters.toNat = 2) := by
  rw [mergeRegisterValuesIntoElement, hValue]
  generalize data.numRegisters.toNat = count
  constructor
  · rintro ⟨new, hMerge⟩
    dsimp only at hMerge
    split at hMerge
    · exact ⟨rfl, Or.inl rfl⟩
    · exact ⟨rfl, Or.inr rfl⟩
    · cases hMerge
  · rintro ⟨hLength, rfl | rfl⟩
    · obtain ⟨first, rfl⟩ := List.length_eq_one_iff.mp hLength
      exact ⟨_, rfl⟩
    · obtain ⟨first, second, rfl⟩ := List.length_eq_two.mp hLength
      exact ⟨_, rfl⟩

/-- An exponent that has been read, or that is not configured, is a number. -/
theorem exponentOf_ok {n : ℕ} (hRead : IsRead conf hub n data) :
    ∃ exponent, exponentOf (exponentResponse conf hub n data) = .ok exponent := by
  by_cases hZero : data.exponentRegister = 0
  · refine ⟨0, ?_⟩
    rw [exponentResponse, if_neg (not_not_intro hZero)]
    rfl
  · obtain ⟨_, first, rest, hValue⟩ := hRead.exponent hZero
    refine ⟨.ofInt first, ?_⟩
    rw [exponentOf, hValue]

/-- A harmless read has an effect on the data: it is no fault. -/
theorem Harmless.exists_effect {n : ℕ} (hHarmless : Harmless conf hub n data)
    {record : Powermeter F} (hPresent : Present record data) :
    ∃ effect, readEffect float conf hub n data record = .ok effect := by
  rcases hHarmless with hError | ⟨hRead, hCount⟩
  · exact ⟨.nothing, readEffect_of_error hError record⟩
  · obtain ⟨exponent, hExponent⟩ := exponentOf_ok hRead
    obtain ⟨values, hValue, hLength⟩ := hRead.complete
    obtain ⟨new, hMerge⟩ := (@merge_ok_iff F float data _ _ hValue exponent).mpr ⟨hLength, hCount⟩
    refine ⟨.store data.type.storedPlace new, ?_⟩
    rw [readEffect_of_success hRead.status hPresent, hExponent]
    simp only [bind, Except.bind, hMerge]
    rfl

/-- A harmless read stores only what has been read, in the place of its type. -/
theorem Harmless.store {n : ℕ} (hHarmless : Harmless conf hub n data) {record : Powermeter F}
    (hPresent : Present record data) {effect : Effect F}
    (hEffect : readEffect float conf hub n data record = .ok effect) :
    effect = .nothing ∨
      IsRead conf hub n data ∧ ∃ new, effect = .store data.type.storedPlace new := by
  rcases hHarmless with hError | ⟨hRead, _⟩
  · rw [readEffect_of_error hError] at hEffect
    cases hEffect
    exact Or.inl rfl
  · rcases @readEffect_cases F float conf hub n data record hPresent with
      ⟨fault, _, hFault⟩ | ⟨-, hNothing⟩ | ⟨new, hStore⟩
    · rw [hFault] at hEffect
      cases hEffect
    · exact Or.inl (Except.ok.inj (hEffect.symm.trans hNothing))
    · exact Or.inr ⟨hRead, new, Except.ok.inj (hEffect.symm.trans hStore)⟩

/-- A cycle of harmless reads ends. -/
theorem readPowermeterValues_ends {n : ℕ} {rest : List (RegisterData F)}
    (hHarmless : ∀ i registerData, rest[i]? = some registerData →
      Harmless conf hub (n + i) registerData)
    {record : Powermeter F} (hPresent : ∀ registerData ∈ rest, Present record registerData) :
    ∃ after, readPowermeterValues float conf hub n rest record = .ok after := by
  induction rest generalizing n record with
  | nil => exact ⟨record, rfl⟩
  | cons first rest ih =>
      have hFirst : Harmless conf hub n first := hHarmless 0 first rfl
      obtain ⟨effect, hEffect⟩ :=
        @Harmless.exists_effect F float conf hub first n hFirst record
          (hPresent first List.mem_cons_self)
      obtain ⟨after, hAfter⟩ := @ih (n + 1)
        (fun i registerData hAt => by
          rw [Nat.add_assoc, Nat.add_comm 1]
          exact hHarmless (i + 1) registerData hAt)
        (effect.apply record)
        (fun registerData hRest =>
          (hPresent registerData (List.mem_cons_of_mem _ hRest)).apply effect)
      refine ⟨after, ?_⟩
      rw [readPowermeterValues, readRegister_of_effect hEffect]
      exact hAfter

/-- A cycle of harmless reads changes a place only with a value that has been read for it. -/
theorem exists_isRead_of_change {n : ℕ} {rest : List (RegisterData F)}
    (hHarmless : ∀ i registerData, rest[i]? = some registerData →
      Harmless conf hub (n + i) registerData)
    {record after : Powermeter F} (hPresent : ∀ registerData ∈ rest, Present record registerData)
    (hCycle : readPowermeterValues float conf hub n rest record = .ok after) {place : Place}
    (hChange : after.value place ≠ record.value place) :
    ∃ i registerData, rest[i]? = some registerData ∧ registerData.type.storedPlace = place ∧
      IsRead conf hub (n + i) registerData := by
  induction rest generalizing n record with
  | nil =>
      cases hCycle
      exact absurd rfl hChange
  | cons first rest ih =>
      obtain ⟨next, hRead, hRest⟩ := readPowermeterValues_cons hCycle
      obtain ⟨effect, hEffect, rfl⟩ := exists_effect_of_readRegister hRead
      have hFirst := hPresent first List.mem_cons_self
      by_cases hHere : (effect.apply record).value place = record.value place
      · -- The change is made by a later read.
        obtain ⟨i, registerData, hAt, hPlace, hIsRead⟩ := ih
          (fun i registerData hAt => by
            rw [Nat.add_assoc, Nat.add_comm 1]
            exact hHarmless (i + 1) registerData hAt)
          (fun registerData hMem =>
            (hPresent registerData (List.mem_cons_of_mem _ hMem)).apply effect)
          hRest (hHere ▸ hChange)
        rw [Nat.add_assoc, Nat.add_comm 1] at hIsRead
        exact ⟨i + 1, registerData, hAt, hPlace, hIsRead⟩
      · rcases (hHarmless 0 first rfl).store hFirst hEffect with rfl | ⟨hIsRead, new, rfl⟩
        · exact absurd rfl hHere
        · refine ⟨0, first, rfl, ?_, hIsRead⟩
          by_contra hOther
          exact hHere (record.value_store_of_ne _ new (Ne.symm hOther))

/-- The record with all its quantities and without values. -/
def blank : Powermeter F := fun _ => some fun _ => none

theorem present_blank (registerData : RegisterData F) : Present blank registerData :=
  Or.inr rfl

/-- A success that is no fault has been merged and stored. -/
theorem exists_merge_of_effect {n : ℕ} {effect : Effect F}
    (hStatus : (registerResponse conf hub n data).statusCode = .success)
    (hEffect : readEffect float conf hub n data blank = .ok effect) :
    ∃ exponent new, mergeRegisterValuesIntoElement float data exponent
        (registerResponse conf hub n data) = .ok new ∧
      effect = .store data.type.storedPlace new := by
  rw [readEffect_of_success hStatus (present_blank data)] at hEffect
  cases hExponent : exponentOf (exponentResponse conf hub n data) with
  | error fault =>
      rw [hExponent] at hEffect
      cases hEffect
  | ok exponent =>
      cases hMerge : mergeRegisterValuesIntoElement float data exponent
          (registerResponse conf hub n data) with
      | error fault =>
          simp only [hExponent, bind, Except.bind, hMerge] at hEffect
          cases hEffect
      | ok new =>
          simp only [hExponent, bind, Except.bind, hMerge] at hEffect
          exact ⟨exponent, new, hMerge, (Except.ok.inj hEffect).symm⟩

/-- In a cycle that ends no read is a fault. -/
theorem exists_effect_of_cycle {n : ℕ} {rest : List (RegisterData F)}
    {record after : Powermeter F} (hPresent : ∀ registerData ∈ rest, Present record registerData)
    (hCycle : readPowermeterValues float conf hub n rest record = .ok after) {i : ℕ}
    {registerData : RegisterData F} (hAt : rest[i]? = some registerData) :
    ∃ effect, readEffect float conf hub (n + i) registerData blank = .ok effect := by
  induction rest generalizing n record i with
  | nil => cases hAt
  | cons first rest ih =>
      obtain ⟨next, hRead, hRest⟩ := readPowermeterValues_cons hCycle
      obtain ⟨effect, hEffect, rfl⟩ := exists_effect_of_readRegister hRead
      cases i with
      | zero =>
          cases hAt
          rw [readEffect_congr (present_blank _) (hPresent registerData List.mem_cons_self)]
          exact ⟨effect, hEffect⟩
      | succ i =>
          rw [Nat.add_comm i, ← Nat.add_assoc]
          exact ih (fun registerData hMem =>
            (hPresent registerData (List.mem_cons_of_mem _ hMem)).apply effect) hRest hAt

end Facts

/-- The results of a cycle leave the values in place and the thread alive if every read is
harmless. -/
theorem readPowermeterValues_keepsValues_iff (float : FloatArithmetic F) (conf : Conf)
    (hub : SerialCommHub) (n : ℕ) (data : List (RegisterData F)) :
    KeepsValues float conf hub n data ↔
      ∀ i registerData, data[i]? = some registerData → Harmless conf hub (n + i) registerData := by
  constructor
  · intro hKeeps i registerData hAt
    by_cases hStatus : (registerResponse conf hub (n + i) registerData).statusCode = .success
    · obtain ⟨after, hCycle⟩ := hKeeps.alive blank fun registerData _ => present_blank registerData
      obtain ⟨effect, hEffect⟩ := exists_effect_of_cycle
        (fun registerData _ => present_blank registerData) hCycle hAt
      obtain ⟨exponent, new, hMerge, rfl⟩ := exists_merge_of_effect hStatus hEffect
      have hIsRead := hKeeps.reads i registerData hAt blank _ (present_blank _)
        (readRegister_of_effect hEffect) fun hSame => by
          have hValue := congrArg (Powermeter.value · registerData.type.storedPlace) hSame
          exact absurd ((Powermeter.value_store_self _ _ new).symm.trans hValue) (by nofun)
      obtain ⟨values, hValue, _⟩ := hIsRead.complete
      exact Or.inr ⟨hIsRead, ((merge_ok_iff hValue exponent).mp ⟨new, hMerge⟩).2⟩
    · exact Or.inl hStatus
  · intro hHarmless
    refine ⟨fun record hPresent => readPowermeterValues_ends hHarmless hPresent, ?_,
      fun record after hPresent hCycle place hChange =>
        exists_isRead_of_change hHarmless hPresent hCycle hChange⟩
    intro i registerData hAt record after hPresent hRead hChange
    obtain ⟨effect, hEffect, rfl⟩ := exists_effect_of_readRegister hRead
    rcases (hHarmless i registerData hAt).store hPresent hEffect with rfl | ⟨hIsRead, _⟩
    · exact absurd rfl hChange
    · exact hIsRead

/-- An energy whose registers come back empty. -/
theorem readPowermeterValues_keepsValues_empty :
    ¬∀ (F : Type) (float : FloatArithmetic F) (conf : Conf) (hub : SerialCommHub) (n : ℕ)
      (data : List (RegisterData F)), KeepsValues float conf hub n data := by
  intro hAll
  have hKeeps := hAll ℤ ⟨0, fun bits multiplier _ => bits.toNat * multiplier⟩ ⟨1, 30001⟩
    (fun _ _ _ _ _ => ⟨.success, none⟩) 0
    [⟨(.energyWhImport, .top), 1, .energyWhImportTotal, 10, .readHoldingRegister, 0,
      .readHoldingRegister, 1⟩]
  have hIsRead := hKeeps.reads 0 _ rfl (Powermeter.empty.store (.energyWhImport, .total) 1000)
    _ (Or.inl rfl) rfl fun hSame => by
      have hValue := congrArg (Powermeter.value · (.energyWhImport, .total)) hSame
      exact absurd hValue (by decide)
  obtain ⟨values, hValue, _⟩ := hIsRead.complete
  cases hValue

end EverestCore.GenericPowermeter
