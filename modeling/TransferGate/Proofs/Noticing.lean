import TransferGate.Proofs.Beats

/-! # What the server hears of the signals

Each time the server begins to observe, it takes a seat on the bus. `Gate.Sitting` divides the
record at the last time when it did, and collects what has been read there since then. The bus has
carried every notice of the record, and the place of the server on it is right behind the events
that its receipts account for: `Gate.Attentive`. No beat changes that, so it holds however waits and
other things take turns.
-/

namespace TransferGate

namespace Gate

open Activity

/-! ## What has been read since the server took its seat -/

/-- The notices from before the server took its seat for the last time and those since then, and
what it has read there. -/
structure Sitting where
  earlier : List Notice
  since : List Notice
  received : List Receipt

namespace Sitting

/-- The server takes its seat with `attached`, and what was told before that is none of its
business. -/
def after (sitting : Sitting) : Effect → Sitting
  | .announced notice => { sitting with since := sitting.since ++ [notice] }
  | .attached => ⟨sitting.earlier ++ sitting.since, [], []⟩
  | _ => sitting

def reading (sitting : Sitting) (receipt? : Option Receipt) : Sitting :=
  { sitting with received := sitting.received ++ receipt?.toList }

/-- A moment begins with what is read, and then its effects happen. -/
def next (sitting : Sitting) (moment : Moment) : Sitting :=
  moment.effects.foldl after (sitting.reading moment.received?)

def told (sitting : Sitting) : List Notice := sitting.earlier ++ sitting.since

def events (sitting : Sitting) : List Event := Event.number sitting.earlier.length sitting.since

def read (sitting : Sitting) : Nat := (sitting.received.map Receipt.span).sum

def heard (sitting : Sitting) : List Event := sitting.events.take sitting.read

def items (sitting : Sitting) : List Receipt := sitting.received.filter Receipt.matters

private theorem events_eq (sitting : Sitting) :
    sitting.events = (Event.number 0 sitting.told).drop sitting.earlier.length := by
  rw [told, Event.number_append, Nat.zero_add]
  exact (List.drop_left' (Event.length_number ..)).symm

@[simp] theorem told_reading (sitting : Sitting) (receipt? : Option Receipt) :
    (sitting.reading receipt?).told = sitting.told := rfl

private theorem told_after (sitting : Sitting) (effect : Effect) :
    (sitting.after effect).told = sitting.told ++ effect.notice?.toList := by
  cases effect with
  | announced notice => exact (List.append_assoc ..).symm
  | attached => rfl
  | _ => exact (List.append_nil _).symm

private theorem told_foldl (sitting : Sitting) (effects : List Effect) :
    (effects.foldl after sitting).told = sitting.told ++ effects.filterMap Effect.notice? := by
  induction effects generalizing sitting with
  | nil => exact (List.append_nil _).symm
  | cons effect rest induction =>
      rw [List.foldl_cons, induction, told_after, List.append_assoc, List.filterMap_cons]
      cases effect.notice? <;> rfl

def Accounts (sitting : Sitting) : Prop := Covers sitting.received sitting.heard

private theorem Accounts.read_le {sitting : Sitting} (accounts : sitting.Accounts) :
    sitting.read ≤ sitting.events.length := by
  have length : sitting.heard.length = sitting.read := accounts.length
  rw [heard, List.length_take] at length
  omega

private theorem Accounts.after {sitting : Sitting} (accounts : sitting.Accounts) (effect : Effect) :
    (sitting.after effect).Accounts := by
  cases effect with
  | announced notice =>
      have same : (sitting.after (.announced notice)).heard = sitting.heard := by
        change (Event.number _ (sitting.since ++ [notice])).take sitting.read = _
        rw [Event.number_append]
        exact List.take_append_of_le_length accounts.read_le
      rw [Accounts, same]
      exact accounts
  | attached => exact .nothing
  | _ => exact accounts

private theorem Accounts.foldl {sitting : Sitting} (accounts : sitting.Accounts)
    (effects : List Effect) :
    (effects.foldl Sitting.after sitting).Accounts := by
  induction effects generalizing sitting with
  | nil => exact accounts
  | cons effect rest induction => exact induction (accounts.after effect)

/-- The bus has carried all notices, and the place of the server is behind what it is through
with. -/
structure Fits (sitting : Sitting) (bus : Bus Seat) : Prop where
  carries : bus.Carries sitting.told
  cursor : ∀ cursor, bus.cursor? .observation = some cursor →
    cursor = sitting.earlier.length + sitting.read

namespace Fits

variable {sitting : Sitting} {bus : Bus Seat}

private theorem reseats (fits : sitting.Fits bus) {seats : List Seat} {after : Bus Seat}
    (reseats : Bus.Reseats seats bus after) (untouched : .observation ∉ seats) :
    sitting.Fits after where
  carries := fits.carries.reseats reseats
  cursor cursor seated := fits.cursor cursor ((reseats.cursor? _ untouched).symm.trans seated)

private theorem absorb (fits : sitting.Fits bus) (somebody : bus.cursors ≠ []) (effect : Effect) :
    (sitting.after effect).Fits (bus.absorb effect) where
  carries := by
    rw [told_after]
    exact fits.carries.absorb somebody effect
  cursor := by
    intro cursor seated
    cases effect with
    | announced notice =>
        exact fits.cursor cursor ((bus.cursor?_publish notice .observation).symm.trans seated)
    | attached =>
        have subscribed : (bus.subscribe .observation).cursor? .observation = some bus.sent :=
          bus.cursor?_moveTo_self .observation bus.sent
        have atEnd : bus.sent = cursor := Option.some.inj (subscribed.symm.trans seated)
        rw [← atEnd, fits.carries.keeps.sent, Event.length_number]
        rfl
    | detached =>
        have left : (bus.leave .observation).cursor? .observation = none :=
          bus.cursor?_leave_self .observation
        cases left.symm.trans seated
    | _ => exact fits.cursor cursor seated

private theorem absorbAll (fits : sitting.Fits bus) {seat : Seat} (other : seat ≠ .observation)
    (seated : (bus.cursor? seat).isSome = true) (effects : List Effect) :
    (effects.foldl Sitting.after sitting).Fits (bus.absorbAll effects) := by
  induction effects generalizing sitting bus with
  | nil => exact fits
  | cons effect rest induction =>
      apply induction (fits.absorb (Bus.cursors_ne_nil seated) effect)
      rw [bus.cursor?_absorb_other effect other, seated]

private theorem absorbs (fits : sitting.Fits bus) {seats : List Seat} {effects : List Effect}
    {after : Bus Seat} (absorbs : Bus.Absorbs seats bus effects after)
    (untouched : .observation ∉ seats) {seat : Seat} (kept : seat ∉ seats)
    (other : seat ≠ .observation) (seated : (bus.cursor? seat).isSome = true) :
    (effects.foldl Sitting.after sitting).Fits after := by
  rcases absorbs with ⟨base, first, second⟩
  have stillSeated : (base.cursor? seat).isSome = true := by rw [first.cursor? seat kept, seated]
  have absorbed := (fits.reseats first untouched).absorbAll other stillSeated effects
  exact absorbed.reseats second untouched

private theorem receive (fits : sitting.Fits bus) (accounts : sitting.Accounts) {receipt : Receipt}
    {next : Bus Seat} (received : bus.receive .observation = some (receipt, next)) :
    (sitting.reading (some receipt)).Fits next ∧ (sitting.reading (some receipt)).Accounts := by
  rcases Bus.cursor?_of_receive received with ⟨cursor, seated⟩
  have place := fits.cursor cursor seated
  rw [place] at seated
  have keeps := fits.carries.keeps
  have through : (sitting.reading (some receipt)).read = sitting.read + receipt.span := by
    simp [read, reading]
  have accounted : Covers sitting.received
      (((Event.number 0 sitting.told).drop sitting.earlier.length).take sitting.read) := by
    rw [← events_eq]
    exact accounts
  rcases Covers.receive_since keeps seated received accounted with ⟨seatedNext, covers⟩
  constructor
  · constructor
    · exact fits.carries.reseats (keeps.reseats_receive received)
    · intro after seatedAfter
      rw [through]
      exact Option.some.inj (seatedAfter.symm.trans seatedNext)
  · rw [← events_eq] at covers
    rw [Accounts, heard, through]
    exact covers

end Fits

private theorem items_foldl (sitting : Sitting) {effects : List Effect}
    (keeps : ∀ effect ∈ effects, effect.keepsSeat = true) :
    (effects.foldl after sitting).items = sitting.items := by
  induction effects generalizing sitting with
  | nil => rfl
  | cons effect rest induction =>
      rw [List.foldl_cons, induction _ fun other member => keeps other (List.mem_cons_of_mem _ member)]
      cases effect with
      | attached => cases keeps .attached (List.mem_cons_self ..)
      | _ => rfl

private theorem items_next (sitting : Sitting) {moment : Moment}
    (keeps : ∀ effect ∈ moment.effects, effect.keepsSeat = true) :
    (sitting.next moment).items =
      sitting.items ++ moment.received?.toList.filter Receipt.matters := by
  rw [next, items_foldl _ keeps, items, reading, List.filter_append]
  rfl

end Sitting

def sitting (past : List Moment) : Sitting := past.foldl Sitting.next ⟨[], [], []⟩

private theorem sitting_concat (past : List Moment) (moment : Moment) :
    sitting (past ++ [moment]) = (sitting past).next moment := List.foldl_concat ..

private theorem told_sitting (past : List Moment) :
    (sitting past).told = past.flatMap Moment.notices := by
  induction past using List.reverseRecOn with
  | nil => rfl
  | append_singleton past moment induction =>
      rw [sitting_concat, Sitting.next, Sitting.told_foldl, Sitting.told_reading, induction,
        List.flatMap_append, List.flatMap_singleton]
      rfl

/-! ## Many beats -/

/-- What stays true from beat to beat: the receipts account for what the server is through with, and
as long as it runs, its place on the bus is right behind that. -/
structure Attentive (past : List Moment) (gate : Gate) : Prop where
  sound : ∃ log, gate.Sound log
  accounts : (sitting past).Accounts
  fits : gate.server ≠ .stopped → (sitting past).Fits gate.bus
  released : gate.isClosed = true → gate.controller.observation = none

namespace Attentive

variable {past : List Moment} {gate : Gate}

private theorem reading (attentive : Attentive past gate) (beat : Beat) (receipt? : Option Receipt)
    (reads : Moment.received? ⟨gate, beat⟩ = receipt?) :
    ((sitting past).reading receipt?).Accounts ∧
      (gate.server ≠ .stopped → ((sitting past).reading receipt?).Fits (beat.base gate)) := by
  cases receipt? with
  | none =>
      have same : (sitting past).reading none = sitting past := by simp [Sitting.reading]
      rw [same]
      refine ⟨attentive.accounts, fun running => ⟨?_, ?_⟩⟩
      · exact (attentive.fits running).carries.receives (beat.receives gate)
      · rw [Moment.cursor?_base_of_unread reads]
        exact (attentive.fits running).cursor
  | some receipt =>
      rcases Moment.reads reads with ⟨bus, serving, received, base, -⟩
      have running : gate.server ≠ .stopped := by
        rw [serving]
        decide
      rcases (attentive.fits running).receive attentive.accounts received with ⟨fits, accounts⟩
      rw [base]
      exact ⟨accounts, fun _ => fits⟩

private theorem next (attentive : Attentive past gate) (beat : Beat) :
    Attentive (past ++ [⟨gate, beat⟩]) (beat.perform.run gate).state := by
  rcases attentive.sound with ⟨log, sound⟩
  rcases attentive.reading beat _ rfl with ⟨accounts, fits⟩
  rcases beat.sound sound with ⟨more, soundAfter⟩
  constructor
  · exact ⟨_, soundAfter⟩
  · rw [sitting_concat]
    exact accounts.foldl _
  · intro goesOn
    rcases Beat.goesOn goesOn with ⟨running, kept⟩
    rw [sitting_concat]
    -- The seat for readiness is taken all the time, so nothing is sent while nobody is on the bus.
    apply (fits running).absorbs (beat.absorbs sound) (beat.observation_notMem_seats gate) kept
      (by decide)
    rw [(beat.receives gate).isSome]
    exact sound.seated running
  · exact fun closed => Beat.released sound attentive.released closed

end Attentive

private theorem attentive_through {settings : Settings} {host : Host}
    {subscribers : List Subscriber} {attached : Bool} {built : Outcome Gate Unit}
    (succeeds : build settings host subscribers attached = .ok built) (beats : List Beat) :
    Attentive (built.state.moments beats) (built.state.through beats) := by
  induction beats using List.reverseRecOn with
  | nil =>
      have fresh := fresh_of_build succeeds
      have observing := fresh.sound.observing
      rw [fresh.controller] at observing
      constructor
      · exact ⟨[], fresh.sound⟩
      · exact Covers.nothing
      · intro _
        constructor
        · exact carries_of_build succeeds
        · intro cursor seated
          rw [through] at seated
          rw [seated] at observing
          cases observing
      · intro closed
        rw [through, isClosed, fresh.server] at closed
        cases closed
  | append_singleton beats beat induction =>
      rw [moments_concat, through_concat]
      exact induction.next beat

private theorem proper_of_mem {settings : Settings} {host : Host} {subscribers : List Subscriber}
    {attached : Bool} {built : Outcome Gate Unit}
    (succeeds : build settings host subscribers attached = .ok built) (beats : List Beat) :
    ∀ moment ∈ built.state.moments beats, moment.Proper := by
  induction beats using List.reverseRecOn with
  | nil => exact List.forall_mem_nil _
  | append_singleton beats beat induction =>
      intro moment member
      rw [moments_concat, List.mem_append, List.mem_singleton] at member
      rcases member with before | rfl
      · exact induction moment before
      · rcases (attentive_through succeeds beats).sound with ⟨log, sound⟩
        exact Moment.proper sound

/-- What the waits of the server have ended with, and what is still to come. -/
structure Noticed (past : List Moment) (gate : Gate) : Prop where
  told : (sitting past).earlier ++ (sitting past).since = past.flatMap Moment.notices
  yields : Yields (sitting past).items (sitting past).heard
  rest : gate.controller.isObserving = true → (sitting past).events =
    (sitting past).heard ++ gate.bus.unread (Event.number 0 (sitting past).told) .observation
  complete : gate.controller.isObserving = true → gate.bus.receive .observation = none →
    Yields (sitting past).items (sitting past).events
  /-- Each event is told once, and in the order in which they were sent. -/
  once : ((sitting past).items.filterMap Receipt.event?).Pairwise
    fun earlier later => earlier.seq < later.seq
  /-- No other event is told, nor one from before the server took its seat. -/
  only : ∀ event ∈ (sitting past).items.filterMap Receipt.event?,
    event ∈ (sitting past).events ∧ (sitting past).earlier.length ≤ event.seq ∧
      ∃ signal, event.kind = .signal signal ∧ signal ≠ .appReady
  /-- If nothing has been missed, every event that counts is told. -/
  gapless : (∀ item ∈ (sitting past).items, item.event?.isSome = true) →
    (sitting past).items.filterMap Receipt.event? =
      (sitting past).heard.filter Event.isObserved
  inactive : gate.controller.isObserving = false → gate.awaited? = none

private theorem Attentive.fits_of_observing {past : List Moment} {gate : Gate}
    (attentive : Attentive past gate) (observing : gate.controller.isObserving = true) :
    (sitting past).Fits gate.bus := by
  apply attentive.fits
  intro stopped
  have released := attentive.released (by rw [isClosed, stopped]; rfl)
  rw [Controller.isObserving, released] at observing
  cases observing

private theorem Attentive.rest {past : List Moment} {gate : Gate} (attentive : Attentive past gate)
    (observing : gate.controller.isObserving = true) :
    (sitting past).events = (sitting past).heard ++
      gate.bus.unread (Event.number 0 (sitting past).told) .observation := by
  have fits := attentive.fits_of_observing observing
  rcases attentive.sound with ⟨log, sound⟩
  rw [← sound.observing] at observing
  rcases Option.isSome_iff_exists.mp observing with ⟨cursor, seated⟩
  rw [Bus.unread_of_cursor? seated, fits.cursor cursor seated, ← List.drop_drop,
    ← Sitting.events_eq, Sitting.heard, List.take_append_drop]

theorem Attentive.noticed {past : List Moment} {gate : Gate} (attentive : Attentive past gate) :
    Noticed past gate := by
  have yields := attentive.accounts.yields
  have told : ((sitting past).items.filterMap Receipt.event?).Sublist (sitting past).events :=
    yields.sublist.trans (List.filter_sublist.trans (List.take_sublist _ _))
  constructor
  case told => exact told_sitting past
  case yields => exact yields
  case rest => exact attentive.rest
  case complete =>
    intro observing nothing
    have keeps := (attentive.fits_of_observing observing).carries.keeps
    rw [attentive.rest observing, keeps.unread_of_nothing nothing, List.append_nil]
    exact yields
  case once => exact (Event.number_increases _ _).sublist told
  case only =>
    intro event member
    have counts := (List.mem_filter.mp (yields.sublist.subset member)).2
    exact ⟨told.subset member, Event.le_seq_of_mem_number (told.subset member),
      event.isObserved_iff.mp counts⟩
  case gapless => exact yields.eq_of_gapless
  case inactive =>
    intro resting
    rcases attentive.sound with ⟨log, sound⟩
    rw [← sound.observing, Option.isSome_eq_false_iff, Option.isNone_iff_eq_none] at resting
    unfold awaited?
    split
    · rw [Bus.receive, resting]
    · rfl

private theorem keepsSeat_waitOn {gate : Gate} {log : List Event} (sound : gate.Sound log) :
    ∀ effect ∈ Moment.effects ⟨gate, .waitOn⟩, effect.keepsSeat = true := by
  cases found : gate.awaited? with
  | some next => exact (Moment.proper sound).keepsSeat (received?_waitOn found)
  | none =>
      rw [Moment.effects, Moment.outcome, Beat.perform, run_waitOn_idle found]
      exact List.forall_mem_nil _

private theorem items_waitOn {gate : Gate} {log : List Event} (sound : gate.Sound log)
    {beats : List Beat} (only : ∀ beat ∈ beats, beat = .waitOn) (sitting : Sitting) :
    ((gate.moments beats).foldl Sitting.next sitting).items = sitting.items ++
      ((gate.moments beats).filterMap Moment.received?).filter Receipt.matters := by
  induction beats generalizing gate log sitting with
  | nil => exact (List.append_nil _).symm
  | cons beat rest induction =>
      cases only beat (List.mem_cons_self ..)
      rcases Beat.sound sound .waitOn with ⟨more, soundAfter⟩
      rw [moments, List.foldl_cons,
        induction soundAfter fun other member => only other (List.mem_cons_of_mem _ member),
        Sitting.items_next sitting (keepsSeat_waitOn sound), List.append_assoc,
        ← List.filter_append, List.filterMap_cons]
      cases Moment.received? ⟨gate, .waitOn⟩ <;> rfl

/-- However waits are given up, the server hears of each signal that counts once. -/
theorem signals_noticed {settings : Settings} {host : Host} {subscribers : List Subscriber}
    {attached : Bool} {built : Outcome Gate Unit}
    (succeeds : build settings host subscribers attached = .ok built) (beats : List Beat) :
    let gate := built.state.through beats
    Noticed (built.state.moments beats) gate ∧
      (∀ moment ∈ built.state.moments beats, moment.Proper) ∧
      ∀ limit, ∃ more, gate.WaitsBy limit more ∧
        (sitting (built.state.moments (beats ++ more))).items =
          (sitting (built.state.moments beats)).items ++ ((wait limit).run gate).value.toList ∧
        Noticed (built.state.moments (beats ++ more)) ((wait limit).run gate).state := by
  intro gate
  constructor
  · exact (attentive_through succeeds beats).noticed
  constructor
  · exact proper_of_mem succeeds beats
  · intro limit
    rcases gate.waitsBy limit with ⟨more, waits⟩
    refine ⟨more, waits, ?_, ?_⟩
    · rcases (attentive_through succeeds beats).sound with ⟨log, sound⟩
      rw [waits.value, moments_append, sitting, List.foldl_append]
      exact items_waitOn sound waits.only _
    · rw [waits.state, ← through_append]
      exact (attentive_through succeeds (beats ++ more)).noticed

/-- On a bus with two slots, the first wait is told that two events are gone. A signal from before
the server took its seat is not told, nor is anything else but the one signal that counts, although
waits are given up for a request and for the readiness of the application. -/
theorem signals_noticed_of_two_slots :
    let beats : List Beat :=
      [.makes (.publish (.signal .willEnterForeground)), .makes (.turn .server),
        .makes (.send (.begin .upload)), .makes (.turn .server), .waitOn, .waitOn,
        .makes (.send .isObserving), .makes (.turn .server), .waitOn,
        .makes (.publish (.signal .appReady)), .makes (.turn .server),
        .makes (.publish (.signal .reachabilityChanged)), .waitOn, .waitOn]
    ∃ built, build { busCapacity := 2 } (.create {} .calm true) [] false = .ok built ∧
      (sitting (built.state.moments beats)).items =
        [.lagged 2, .event { Notice.signal .reachabilityChanged with seq := 6 }] ∧
      Noticed (built.state.moments beats) (built.state.through beats) := by
  intro beats
  refine ⟨_, rfl, ?_, (signals_noticed (show build { busCapacity := 2 } (.create {} .calm true) []
    false = _ from rfl) beats).1⟩
  decide +kernel

end Gate

end TransferGate
