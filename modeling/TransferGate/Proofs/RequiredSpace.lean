import TransferGate.Proofs.Billing

/-! # The requirement is one constant

The space requirement is asked for by callers, compared with free space past the server,
and recorded with every complete reading. Whoever comes first, everybody works from then on
with what followed from the one answer of the host, however the size changes later.

The requirement is known to the conditions exactly if observing has ever begun, as are
registration and wifi, which only signals and complete readings bring in.
-/

namespace TransferGate

open Activity

/-- The record tells one limit, and so many bytes follow from it. -/
def Settings.Requires (settings : Settings) (record : List Effect) (bytes : UInt64) : Prop :=
  ∃ limit, limitsIn record = [limit] ∧
    bytes.toNat = min (limit.toNat * max settings.spaceMultiplier.toNat 1) (UInt64.size - 1)

/-- What is true of the requirement when all this was recorded and these are the conditions. -/
structure Settings.Governs (settings : Settings) (record : List Effect)
    (conditions : Conditions) : Prop where
  asksOnce : (limitsIn record).length ≤ 1
  required : conditions.requiredBytes.isSome = everObserved record
  registered : conditions.registered.isSome = everObserved record
  wifi : conditions.wifi.isSome = everObserved record
  /-- All conditions that there are or have been know no other requirement, and those under which
  a queue may be let through know it, so that free space is compared with it. -/
  stored : ∀ other, other = conditions ∨ .revised other ∈ record →
    (∀ bytes, other.requiredBytes = some bytes → settings.Requires record bytes) ∧
    (other.unprepared = false → ∃ bytes, other.requiredBytes = some bytes ∧
      other.belowRequirement = Gate.isShort other.freeBytes bytes)

namespace Settings

private theorem toNat_effectiveMultiplier (settings : Settings) :
    settings.effectiveMultiplier.toNat = max settings.spaceMultiplier.toNat 1 := by
  change (if settings.spaceMultiplier ≤ 1 then 1 else settings.spaceMultiplier).toNat = _
  split
  · next small =>
      have least : settings.spaceMultiplier.toNat ≤ 1 := UInt64.le_iff_toNat_le.mp small
      exact (Nat.max_eq_right least).symm
  · next large =>
      have more : ¬settings.spaceMultiplier.toNat ≤ 1 := fun small =>
        large (UInt64.le_iff_toNat_le.mpr small)
      exact (Nat.max_eq_left (Nat.le_of_not_le more)).symm

private theorem requires_of_mem {settings : Settings} {record : List Effect} {limit : UInt64}
    (once : (limitsIn record).length ≤ 1) (member : limit ∈ limitsIn record) :
    settings.Requires record (saturatingMul limit settings.effectiveMultiplier) := by
  refine ⟨limit, ?_, by rw [toNat_saturatingMul, settings.toNat_effectiveMultiplier]⟩
  have some := List.length_pos_of_mem member
  rcases List.length_eq_one_iff.mp (Nat.le_antisymm once some) with ⟨only, single⟩
  rw [single] at member ⊢
  rw [List.mem_singleton.mp member]

end Settings

namespace Controller

/-- Everybody knows of the requirement what the record tells, and always did. -/
structure Abreast (settings : Settings) (record : List Effect) (controller : Controller) :
    Prop where
  informed : Informed settings.effectiveMultiplier (limitsIn record) (everObserved record)
    controller
  revised : ∀ conditions, .revised conditions ∈ record →
    ∃ known, conditions.InStep settings.effectiveMultiplier (limitsIn record) known

namespace Abreast

variable {settings : Settings} {record : List Effect} {controller : Controller}

theorem later (abreast : Abreast settings record controller) {more : List Effect}
    {after : Controller}
    (informs : (informing settings.effectiveMultiplier).holds controller more after) :
    Abreast settings (record ++ more) after := by
  rcases informs _ _ abreast.informed with ⟨informed, revised⟩
  rw [← limitsIn_append, ← everObserved_append] at informed
  refine ⟨informed, fun conditions member => ?_⟩
  rw [limitsIn_append]
  rcases List.mem_append.mp member with inRecord | inMore
  · rcases abreast.revised conditions inRecord with ⟨known, inStep⟩
    exact ⟨known, inStep.later _⟩
  · exact revised conditions inMore

theorem governs (abreast : Abreast settings record controller) :
    settings.Governs record controller.conditions where
  asksOnce := abreast.informed.billed.once
  required := abreast.informed.inStep.required
  registered := abreast.informed.inStep.registered
  wifi := abreast.informed.inStep.wifi
  stored other occurs := by
    have some : ∃ known,
        other.InStep settings.effectiveMultiplier (limitsIn record) known := by
      rcases occurs with rfl | member
      · exact ⟨_, abreast.informed.inStep⟩
      · exact abreast.revised other member
    rcases some with ⟨known, inStep⟩
    refine ⟨fun bytes same => ?_, fun prepared => ?_⟩
    · rcases inStep.billed bytes same with ⟨limit, member, rfl⟩
      exact Settings.requires_of_mem abreast.informed.billed.once member
    · have isRegistered : other.registered = Option.some true := by
        simp only [Conditions.unprepared, Bool.or_eq_false_iff] at prepared
        simpa using prepared.2
      have isKnown : other.requiredBytes.isSome = true := by
        rw [inStep.required, ← inStep.registered, isRegistered]
        rfl
      rcases Option.isSome_iff_exists.mp isKnown with ⟨bytes, same⟩
      exact ⟨bytes, same, Conditions.belowRequirement_of_requiredBytes same⟩

theorem requires (abreast : Abreast settings record controller) {whole : List Effect}
    (once : (limitsIn whole).length ≤ 1)
    (follows : record ++ (Host.requiredBytes.run controller.host).effects <+: whole) :
    settings.Requires whole (Host.requiredBytes.run controller.host).value := by
  have billed := Host.requiredBytes_bills settings.effectiveMultiplier controller.host _
    abreast.informed.billed
  have known := billed.known
  rw [Host.known_requiredBytes] at known
  rcases Option.map_eq_some_iff.mp known.symm with ⟨limit, first, same⟩
  rw [← same]
  apply Settings.requires_of_mem once
  rcases follows with ⟨behind, rfl⟩
  rw [limitsIn_append, limitsIn_append]
  exact List.mem_append_left _ (List.mem_of_head? first)

end Abreast

private theorem prefix_recordOf_requiredBytes (later : List Operation) (controller : Controller) :
    (Host.requiredBytes.run controller.host).effects <+:
      controller.recordOf (.requiredBytes :: later) := by
  simp only [recordOf, run_performAll_cons, Operation.perform, run_map]
  exact List.prefix_append _ _

theorem abreast_create (settings : Settings) (sources : Sources) (hasBattery : Bool) :
    let created := create.run (Host.create settings sources hasBattery)
    Abreast settings created.effects created.value :=
  ⟨⟨⟨Nat.zero_le 1, rfl, rfl⟩, .unread _, fun observing => by cases observing⟩, fun _ member => by
    cases List.mem_singleton.mp member⟩

end Controller

namespace Gate

open Controller

theorem informing_allows (multiplier : UInt64) : Allows (informing multiplier) where
  stages := informing_stages multiplier
  foreign controller effect foreign := by
    cases effect with
    | announced notice =>
        refine emit_informs rfl ?_ (by simp) controller
        simp only [Effect.isForeign] at foreign
        simp only [Effect.beginsObserving, beq_eq_false_iff_ne, ne_eq]
        intro started
        rw [started] at foreign
        cases foreign
    | revised conditions => cases foreign
    | asked exchange => cases foreign
    | _ => exact emit_informs rfl rfl (by simp) controller
  signal controller signal := emit_informs rfl rfl (by simp) controller

private theorem isSome_sendIf (needed : Bool) (request : Request) (gate : Gate) :
    ((sendIf needed request).run gate).value.isSome = needed := by
  cases needed <;> rfl

theorem quickCheck_compares (gate : Gate) :
    let required := Host.requiredBytes.run gate.controller.host
    ∃ answer behind,
      (Move.quickCheck.perform.run gate).effects =
        required.effects ++ .asked ⟨.lookUp .freeSpace, answer⟩ :: behind ∧
      (Move.quickCheck.perform.run gate).value.isSome =
        isShort answer.toOption required.value := by
  intro required
  let free := Host.freeSpace.run required.state
  let answer := (required.state.sources.lookUp .freeSpace).1
  have looked := Host.run_lookUp .freeSpace required.state
  obtain ⟨lines, asked⟩ : ∃ lines, free.effects = .asked ⟨.lookUp .freeSpace, answer⟩ :: lines :=
    ⟨_, congrArg Outcome.effects looked⟩
  have found : free.value = answer.toOption := congrArg Outcome.value looked
  let lookedAt := ((onHost Host.freeSpace).run (requiredBytes.run gate).state).state
  let sent := (sendIf (isShort free.value required.value) .refreshSpace).run lookedAt
  have run : quickCheck.run gate =
      ⟨sent.value, sent.state, required.effects ++ (free.effects ++ sent.effects)⟩ := rfl
  refine ⟨answer, lines ++ sent.effects, ?_, ?_⟩
  · rw [Move.perform, run_map, run, asked]
    rfl
  · rw [Move.perform, run_map, run, Option.isSome_map, isSome_sendIf, found]

/-- Of every controller and of every gate: the host tells the size of the largest download at most
once, and whatever requirement is known, yielded or compared with is the one that follows from
that size. It is known to the conditions, as registration and wifi are, exactly if
observing ever began. -/
theorem requirement_is_constant (settings : Settings) (sources : Sources) (hasBattery : Bool) :
    let host := Host.create settings sources hasBattery
    (∀ operations,
      let created := Controller.create.run host
      let record := created.effects ++ created.value.recordOf operations
      settings.Governs record (created.value.following operations).conditions ∧
      ∀ earlier later, operations = earlier ++ .requiredBytes :: later →
        settings.Requires record
          ((Controller.onHost Host.requiredBytes).run (created.value.following earlier)).value) ∧
    ∀ subscribers attached built, build settings host subscribers attached = .ok built →
      ∀ moves,
      let record := built.effects ++ built.state.recordOf moves
      settings.Governs record (built.state.following moves).controller.conditions ∧
      (∀ earlier later, moves = earlier ++ .requiredBytes :: later →
        settings.Requires record (requiredBytes.run (built.state.following earlier)).value) ∧
      ∀ earlier later, moves = earlier ++ .quickCheck :: later →
        let checked := Move.quickCheck.perform.run (built.state.following earlier)
        ∃ bytes answer, settings.Requires record bytes ∧
          .asked ⟨.lookUp .freeSpace, answer⟩ ∈ checked.effects ∧
          checked.value.isSome = isShort answer.toOption bytes := by
  intro host
  have created := Controller.abreast_create settings sources hasBattery
  refine ⟨fun operations => ?_, fun subscribers attached built succeeds moves => ?_⟩
  · have abreast (operations : List Operation) :=
      created.later ((informing_stages _).run operations _)
    refine ⟨(abreast operations).governs, ?_⟩
    rintro earlier later rfl
    refine (abreast earlier).requires (abreast _).governs.asksOnce ?_
    rw [Controller.recordOf_append, ← List.append_assoc]
    exact (List.prefix_append_right_inj _).mpr (prefix_recordOf_requiredBytes later _)
  · have fresh := fresh_of_build succeeds
    have begun : Abreast settings built.effects built.state.controller := by
      rw [fresh.effects, fresh.controller]
      exact created
    have abreast (moves : List Move) :=
      begun.later ((informing_allows _).follow fresh.sound moves)
    refine ⟨(abreast moves).governs, ?_, ?_⟩
    · rintro earlier later rfl
      refine (abreast earlier).requires (abreast _).governs.asksOnce ?_
      rw [recordOf_append, ← List.append_assoc, recordOf_cons, Move.perform, run_map]
      exact (List.prefix_append_right_inj _).mpr (List.prefix_append _ _)
    · rintro earlier later rfl
      obtain ⟨answer, behind, effects, compared⟩ :=
        quickCheck_compares (built.state.following earlier)
      refine ⟨_, answer, ?_, effects ▸ by simp, compared⟩
      refine (abreast earlier).requires (abreast _).governs.asksOnce ?_
      rw [recordOf_append, recordOf_cons, effects, ← List.append_assoc,
        List.append_assoc _ _ (recordOf _ _)]
      exact (List.prefix_append_right_inj _).mpr (List.prefix_append _ _)

/-- The size changes after the first answer, which a caller asked for. Observing begins after
that and ends with the server, and a last caller still gets what the first one got. -/
theorem requirement_is_constant_of_shrinking :
    let sources := { Sources.calm with maxDownload := ⟨100, [7]⟩ }
    let earlier : List Move := [.requiredBytes, .turn .server, .send (.begin .upload),
      .turn .server, .quickCheck, .cancel, .turn .server]
    ∃ built, build {} (.create {} sources true) [] false = .ok built ∧
      let record := built.effects ++ built.state.recordOf (earlier ++ [.requiredBytes])
      let bytes := (requiredBytes.run (built.state.following earlier)).value
      limitsIn record = [100] ∧ everObserved record = true ∧ bytes = 500 ∧
      (built.state.following earlier).isClosed = true ∧
      ({} : Settings).Requires record bytes := by
  intro sources earlier
  have requires := fun built succeeds =>
    ((requirement_is_constant {} sources true).2 [] false built succeeds
      (earlier ++ [.requiredBytes])).2.1 earlier [] rfl
  refine ⟨_, rfl, ?_, ?_, ?_, ?_, requires _ rfl⟩ <;> decide +kernel

end Gate

end TransferGate
