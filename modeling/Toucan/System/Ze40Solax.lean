import Toucan.Tasks.Ze40
import Toucan.Tasks.Solax

/-!
# Toucan.System.Ze40Solax

A ZE40 pack and a Solax inverter on one controller: `bms_rx` writes `BMS` and
`LAST_BMS_MESSAGE`, `inverter_rx` reads both and commands the contactor.

A command to close should rest on a pack that is valid and was updated with
success at most 10 s ago.  Four things come between the cells and that:
`inverter_rx` only warns about an invalid pack, the stamp is written before the
update is known to succeed, its age is counted in whole seconds, and the command
is given after the answer has been queued.  `along_closesSoundly` is what holds
once the initialised loop ends its positive exchanges on sound cells only.
-/

namespace Toucan.Ze40Solax

/-! ## The two tasks together -/

/-- The shared cells and the two receive loops. -/
structure World (F B D I : Type) where
  st : Statics F B
  bms : Ze40.State F D
  inverter : Solax.State I
deriving Inhabited

/-- Time passes, another task replaces `BMS.config`, or a loop is resumed. -/
inductive Event (F : Type) where
  | elapse (d : Nat)
  | config (config : BmsConfig F)
  | bms (input : Ze40.Input)
  | inverter (input : Inverter.Input)

inductive Out (F B E : Type) where
  | bms (out : Ze40.Out F B E)
  | inverter (out : Inverter.Out)

section Machine

variable [F32 F] (cfg : Features) (std : BmsStandard F B E) (dec : Ze40.Decoder F D P)
  (parser : Solax.Parser I F B X)

def machine : Machine (World F B D I) (Event F) (Out F B E) where
  step w
    | .elapse d => some ({ w with st := { w.st with now := w.st.now + d } }, [])
    | .config config => some ({ w with st := { w.st with bms := { w.st.bms with config } } }, [])
    | .bms input =>
      (Ze40.bmsRx cfg std dec w.st w.bms input).map fun r =>
        ({ w with st := r.1, bms := r.2.1 }, r.2.2.map .bms)
    | .inverter input =>
      (Solax.inverterRx cfg parser w.st w.inverter input).map fun r =>
        ({ w with inverter := r.1 }, r.2.map .inverter)

/-- What `bms_rx` did in a step. -/
def bmsOuts (os : List (Out F B E)) : List (Ze40.Out F B E) :=
  os.filterMap fun
    | .bms out => some out
    | .inverter _ => none

/-- The updates of the run: when the last successful one was, and whether the
last one at all was successful. -/
structure Updates where
  lastOk : Option Nat
  lastIsOk : Bool

def Updates.none : Updates := { lastOk := Option.none, lastIsOk := false }

def Updates.next (u : Updates) (now : Nat) : Option (Except E Unit) → Updates
  | some (.ok _) => { lastOk := some now, lastIsOk := true }
  | some (.error _) => { u with lastIsOk := false }
  | Option.none => u

/-- The two tasks with the updates of the run. -/
def updatesMachine : Machine (World F B D I × Updates) (Event F) (Out F B E) :=
  (machine cfg std dec parser).withHistory fun u w _ os =>
    u.next w.st.now (Ze40.lastUpdate (bmsOuts os))

end Machine

/-- The initial state: no update yet, both loops at their top. -/
def World.start (st : Statics F B) (data : Ze40.Data F D) (inverter : I) : World F B D I :=
  { st, bms := .start data, inverter := .start inverter }

/-! ## Sound commands -/

/-- A command to close rests on a valid pack, updated with success at most 10 s
ago. -/
def ClosesSoundly (os : List (Out F B E)) (p' : World F B D I × Updates) : Prop :=
  .inverter (.contactorState true) ∈ os →
    p'.1.st.bms.valid = true ∧
      ∃ time, p'.2.lastOk = some time ∧ p'.1.st.now ≤ time + lastReadingTimeoutSecs * tickHz

/-- The cells as `inverter_rx` sees them are sound: `BMS` is valid, its last
update succeeded, and the stamp is at most 10 s old to the tick. -/
structure SoundCells (st : Statics F B) (u : Updates) : Prop where
  valid : st.bms.valid = true
  lastIsOk : u.lastIsOk = true
  recent : ∀ time, st.lastBmsMessage = some time → st.now ≤ time + lastReadingTimeoutSecs * tickHz

/-- The initialised loop ends a positive exchange only on sound cells. -/
def EndsSoundly (cfg : Features) (parser : Solax.Parser I F B X) (p : World F B D I × Updates) :
    Event F → Prop
  | .inverter input =>
    cfg.teslaM3 = false → Solax.endsPositive parser p.1.st p.1.inverter input = true →
      p.1.inverter.initalised = true → SoundCells p.1.st p.2
  | _ => True

/-- As long as the last update was successful, the stamp is that of the last
successful one. -/
def StampTellsLast (p : World F B D I × Updates) : Prop :=
  p.2.lastIsOk = true → ∃ time, p.1.st.lastBmsMessage = some time ∧ p.2.lastOk = some time

theorem bmsOuts_map_bms (os : List (Ze40.Out F B E)) : bmsOuts (os.map .bms) = os := by
  rw [bmsOuts, List.filterMap_map]
  exact List.filterMap_some

theorem bmsOuts_map_inverter (os : List Inverter.Out) :
    bmsOuts (os.map .inverter : List (Out F B E)) = [] := by
  rw [bmsOuts, List.filterMap_map]
  exact List.filterMap_eq_nil_iff.mpr fun _ _ => rfl

theorem mem_map_inverter {os : List Inverter.Out} :
    (Out.inverter (.contactorState true) : Out F B E) ∈ os.map .inverter ↔
      .contactorState true ∈ os := by
  simp

/-- Sound cells under a stamp of the last successful update are what a command
should rest on. -/
theorem closesSoundly_of_soundCells {p p' : World F B D I × Updates} {os : List (Out F B E)}
    (hI : StampTellsLast p) (hsound : SoundCells p.1.st p.2) (hst : p'.1.st = p.1.st)
    (hu : p'.2 = p.2) : ClosesSoundly os p' := by
  intro _
  obtain ⟨time, hlast, hok⟩ := hI hsound.lastIsOk
  rw [hst, hu]
  exact ⟨hsound.valid, time, hok, hsound.recent time hlast⟩

/-- A step of `inverter_rx`. -/
theorem closesSoundly_inverter {cfg : Features} {parser : Solax.Parser I F B X}
    {w v : World F B D I} {u : Updates} {input : Inverter.Input} {os : List Inverter.Out}
    (hI : StampTellsLast (w, u))
    (hs : Solax.inverterRx cfg parser w.st w.inverter input = some (v.inverter, os))
    (hst : v.st = w.st) (hC : EndsSoundly cfg parser (w, u) (.inverter input)) :
    ClosesSoundly (os.map .inverter : List (Out F B E)) (v, u) := by
  intro hclose
  obtain ⟨hm3, hends, hinit⟩ := (Solax.closes_iff hs).mp (mem_map_inverter.mp hclose)
  have hsound : SoundCells w.st u := hC hm3 hends hinit
  exact closesSoundly_of_soundCells hI hsound hst rfl hclose

section Runs

variable [F32 F] {cfg : Features} {std : BmsStandard F B E} {dec : Ze40.Decoder F D P}
  {parser : Solax.Parser I F B X}

/-- A step of `bms_rx`: the stamp and the record of the update are written
together. -/
theorem stampTellsLast_bms {w v : World F B D I} {u : Updates} {os : List (Ze40.Out F B E)}
    (hI : StampTellsLast (w, u))
    (hs : Ze40.bmsRx cfg std dec w.st w.bms input = some (v.st, v.bms, os)) :
    StampTellsLast (v, u.next w.st.now (Ze40.lastUpdate os)) := by
  rcases Ze40.bmsRx_cases hs with ⟨⟨hst, hnone⟩, _⟩ | ⟨_, kind, _, _, _, hst, hos⟩
  · have hlast : Ze40.lastUpdate os = none := by rw [Ze40.lastUpdate, hnone]; rfl
    intro hu
    rw [hlast] at hu ⊢
    rw [hst]
    exact hI hu
  · have hlast : Ze40.lastUpdate os =
        some (Ze40.updateOf std v.bms.data kind w.st.bms).1 := by
      rw [Ze40.lastUpdate, hos, Ze40.updates_runUpdate]
      rfl
    have hstamp : v.st.lastBmsMessage = some w.st.now := by rw [hst]; rfl
    intro hu
    rw [hlast] at hu ⊢
    cases hr : (Ze40.updateOf std v.bms.data kind w.st.bms).1 with
    | ok a => exact ⟨w.st.now, hstamp, rfl⟩
    | error e => simp [hr, Updates.next] at hu

/-- **Step lemma**: a step that ends soundly closes soundly. -/
theorem closesSoundly_step {p p' : World F B D I × Updates} {e : Event F}
    (hI : StampTellsLast p) (hstep : (updatesMachine cfg std dec parser).step p e = some (p', os))
    (hC : EndsSoundly cfg parser p e) : ClosesSoundly os p' ∧ StampTellsLast p' := by
  obtain ⟨w, u⟩ := p
  obtain ⟨w', u'⟩ := p'
  obtain ⟨hs, hu⟩ := Machine.withHistory_step_eq_some.mp hstep
  dsimp only at hs hu
  subst hu
  cases e with
  | elapse d =>
      obtain ⟨rfl, rfl⟩ := Prod.mk.inj (Option.some.inj hs)
      exact ⟨fun hclose => by simp at hclose, hI⟩
  | config config =>
      obtain ⟨rfl, rfl⟩ := Prod.mk.inj (Option.some.inj hs)
      exact ⟨fun hclose => by simp at hclose, hI⟩
  | bms input =>
      obtain ⟨⟨st', bms', os'⟩, hb, he⟩ := Option.map_eq_some_iff.mp hs
      obtain ⟨rfl, rfl⟩ := Prod.mk.inj he
      rw [bmsOuts_map_bms]
      refine ⟨fun hclose => by simp at hclose, ?_⟩
      exact stampTellsLast_bms (v := { w with st := st', bms := bms' }) hI hb
  | inverter input =>
      obtain ⟨⟨inverter', os'⟩, hi, he⟩ := Option.map_eq_some_iff.mp hs
      obtain ⟨rfl, rfl⟩ := Prod.mk.inj he
      rw [bmsOuts_map_inverter]
      exact ⟨closesSoundly_inverter (v := { w with inverter := inverter' }) hI hi rfl hC, hI⟩

end Runs

/-! ### Two requests after an update -/

/-- A pack whose cell readings are rejected, and an inverter that has nothing to
say. -/
def rejectCellsMachine : Machine (World Rat Unit Unit Unit × Updates) (Event Rat)
    (Out Rat Unit Unit) :=
  updatesMachine default Ze40.rejectCells Ze40.everyFrame Solax.nothingToSay

def twoRequests (id : UInt16) (h : id ≤ 0x7FF) : List (Event Rat) :=
  [.bms (.frame (Ze40.standardFrame id h)), .inverter (.frame Solax.inverterFrame),
    .inverter (.frame Solax.inverterFrame)]

end Toucan.Ze40Solax
