import Toucan.Tasks.Solax
import Toucan.Tasks.ForceH2

/-!
# Toucan.Tasks.Staleness

How long the contactor stays closed on an old BMS message.  The inverter loops
have no timer: the age of `LAST_BMS_MESSAGE` is tested when an inverter frame is
taken, and the contactor keeps its last command until then.

`World` puts a loop among the cells it reads, the clock, and the frames it takes.
`closed_stale_only_untaken` is the bound that holds for the Solax and the Force
H2 loop: a closed contactor on a message older than 12 s means that the loop
took no inverter frame since the message was 11 s old.
-/

namespace Toucan.Staleness

open Inverter

/-! ## Loops that wait for inverter frames -/

/-- A loop that is resumed by inverter frames; `busy` while it queues an answer,
`signals` unless the build leaves `CONTACTOR_STATE` alone. -/
structure FrameLoop (F B σ : Type) where
  step : Statics F B → σ → Input → Option (σ × List Out)
  wanted : Frame → Bool
  busy : σ → Bool
  signals : Bool

/-- What the bound rests on. -/
structure FrameLoop.Lawful (L : FrameLoop F B σ) : Prop where
  /-- A filtered frame does nothing. -/
  filtered : ∀ {st s frame s' os}, L.step st s (.frame frame) = some (s', os) →
    L.wanted frame = false → s' = s ∧ os = []
  /-- An answer in progress was begun by a frame. -/
  answers : ∀ {st s s' os}, L.step st s .sent = some (s', os) → L.busy s = true
  /-- A wanted frame that finds the pack stale opens the contactor. -/
  opens : ∀ {st s frame s' os}, L.step st s (.frame frame) = some (s', os) →
    L.wanted frame = true → st.stale = true →
    L.busy s' = false ∧ (L.signals = true → ∀ last, contactorAfter last os = some false)
  /-- Without `signals` no command is given. -/
  silent : ∀ {st s i s' os}, L.signals = false → L.step st s i = some (s', os) →
    ∀ last, contactorAfter last os = last

/-- The loop among the shared cells.  `contactor` is the last command it gave,
`lastTaken` the instant it last took a frame that passes its filter. -/
structure World (F B σ : Type) where
  st : Statics F B
  loop : σ
  contactor : Option Bool
  lastTaken : Option Nat

/-- Time passes, a BMS task stamps `LAST_BMS_MESSAGE` or writes `BMS`, or the loop
is resumed. -/
inductive Event (F B : Type) where
  | elapse (d : Nat)
  | bmsMessage
  | bms (bms : Bms F B)
  | loop (input : Input)

/-- The instant of the last wanted frame, after one more resumption. -/
def FrameLoop.taken (L : FrameLoop F B σ) (now : Nat) (lastTaken : Option Nat) :
    Input → Option Nat
  | .frame frame => if L.wanted frame then some now else lastTaken
  | .sent => lastTaken

def FrameLoop.machine (L : FrameLoop F B σ) : Machine (World F B σ) (Event F B) Out where
  step w
    | .elapse d => some ({ w with st := { w.st with now := w.st.now + d } }, [])
    | .bmsMessage => some ({ w with st := w.st.touch }, [])
    | .bms bms => some ({ w with st := { w.st with bms } }, [])
    | .loop input =>
      (L.step w.st w.loop input).map fun r =>
        ({ w with
            loop := r.1
            contactor := contactorAfter w.contactor r.2
            lastTaken := L.taken w.st.now w.lastTaken input }, r.2)

def World.start (st : Statics F B) (loop : σ) : World F B σ :=
  { st, loop, contactor := none, lastTaken := none }

/-! ## The bound -/

/-- The contactor is not closed on a message older than 12 s. -/
def World.OpenWhenStale (w : World F B σ) : Prop :=
  ∀ time, w.st.lastBmsMessage = some time → time + 12 * tickHz < w.st.now →
    w.contactor ≠ some true

/-- The contactor is closed on a message older than 12 s only if no wanted frame
was taken since that message was 11 s old. -/
def World.ClosedOnlyUntaken (w : World F B σ) : Prop :=
  ∀ time, w.st.lastBmsMessage = some time → time + 12 * tickHz < w.st.now →
    w.contactor = some true → ∀ taken, w.lastTaken = some taken → taken < time + 11 * tickHz

/-- Whatever may still close the contactor, or did, was taken before the message
was 11 s old. -/
structure FrameLoop.TakenInvariant (L : FrameLoop F B σ) (w : World F B σ) : Prop where
  past : ∀ taken, w.lastTaken = some taken → taken ≤ w.st.now
  silent : L.signals = false → w.contactor = none
  early : ∀ time taken, w.st.lastBmsMessage = some time → w.lastTaken = some taken →
    L.busy w.loop = true ∨ w.contactor = some true → taken < time + 11 * tickHz

theorem FrameLoop.TakenInvariant.closedOnlyUntaken {L : FrameLoop F B σ} {w : World F B σ}
    (hI : L.TakenInvariant w) : w.ClosedOnlyUntaken :=
  fun time hl _ hc taken ht => hI.early time taken hl ht (Or.inr hc)

/-- A frame taken while the pack is not stale is early enough by the test itself. -/
theorem lt_of_not_stale {st : Statics F B} (h : st.stale = false)
    (hl : st.lastBmsMessage = some time) : st.now < time + 11 * tickHz := by
  unfold Statics.stale at h
  rw [hl] at h
  exact (st.not_readingTimedOut_iff time).mp h

/-- The loop's own steps keep the invariant. -/
theorem takenInvariant_loop {L : FrameLoop F B σ} (hL : L.Lawful) {w : World F B σ}
    (hI : L.TakenInvariant w) (hs : L.step w.st w.loop input = some (s', os)) :
    L.TakenInvariant { w with
      loop := s'
      contactor := contactorAfter w.contactor os
      lastTaken := L.taken w.st.now w.lastTaken input } := by
  have hsilent : L.signals = false → contactorAfter w.contactor os = none := by
    intro hq
    rw [hL.silent hq hs]
    exact hI.silent hq
  cases input with
  | sent =>
      refine ⟨hI.past, hsilent, fun time taken hl ht _ => ?_⟩
      exact hI.early time taken hl ht (Or.inl (hL.answers hs))
  | frame frame =>
      by_cases hw : L.wanted frame = true
      · simp only [FrameLoop.taken, hw, if_true]
        refine ⟨fun taken ht => ?_, hsilent, fun time taken hl ht hc => ?_⟩
        · exact Nat.le_of_eq (Option.some.inj ht).symm
        · rw [← Option.some.inj ht]
          by_cases hstale : w.st.stale = true
          · obtain ⟨hbusy, hopen⟩ := hL.opens hs hw hstale
            dsimp only at hc
            rcases hc with hc | hc
            · rw [hbusy] at hc
              contradiction
            · by_cases hq : L.signals = true
              · rw [hopen hq] at hc
                contradiction
              · rw [hsilent (by simpa using hq)] at hc
                contradiction
          · rw [Bool.not_eq_true] at hstale
            exact lt_of_not_stale hstale hl
      · rw [Bool.not_eq_true] at hw
        obtain ⟨rfl, rfl⟩ := hL.filtered hs hw
        simpa [FrameLoop.taken, hw] using hI

/-- **Step lemma**: every event keeps the invariant. -/
theorem takenInvariant_step {L : FrameLoop F B σ} (hL : L.Lawful) {w w' : World F B σ}
    (hI : L.TakenInvariant w) (hstep : L.machine.step w e = some (w', os)) :
    L.TakenInvariant w' := by
  cases e with
  | elapse d =>
      simp only [FrameLoop.machine, Option.some.injEq, Prod.mk.injEq] at hstep
      rw [← hstep.1]
      exact ⟨fun taken ht => Nat.le_add_right_of_le (hI.past taken ht), hI.silent, hI.early⟩
  | bmsMessage =>
      simp only [FrameLoop.machine, Option.some.injEq, Prod.mk.injEq] at hstep
      rw [← hstep.1]
      refine ⟨hI.past, hI.silent, fun time taken hl ht _ => ?_⟩
      have hpast := hI.past taken ht
      have hnow : w.st.now = time := by simpa using hl
      simp only [tickHz]
      omega
  | bms bms =>
      simp only [FrameLoop.machine, Option.some.injEq, Prod.mk.injEq] at hstep
      rw [← hstep.1]
      exact ⟨hI.past, hI.silent, hI.early⟩
  | loop input =>
      simp only [FrameLoop.machine, Option.map_eq_some_iff, Prod.mk.injEq] at hstep
      obtain ⟨⟨s', os'⟩, hs, hw', _⟩ := hstep
      rw [← hw']
      exact takenInvariant_loop hL hI hs

/-- The bound for any such loop, at every time of every run. -/
theorem FrameLoop.along_closedOnlyUntaken {L : FrameLoop F B σ} (hL : L.Lawful)
    (st : Statics F B) (loop : σ) (es : List (Event F B)) :
    L.machine.Along (fun _ _ _ w' => w'.ClosedOnlyUntaken) (.start st loop) es := by
  refine Machine.along_of_invariant (I := L.TakenInvariant) (fun w e w' os hI hs => ?_) ?_
  · have hI' := takenInvariant_step hL hI hs
    exact ⟨hI'.closedOnlyUntaken, hI'⟩
  · refine ⟨fun taken ht => ?_, fun _ => rfl, fun time taken _ ht => ?_⟩
    · simp [World.start] at ht
    · simp [World.start] at ht

/-! ## The two loops -/

def solax (cfg : Features) (parser : Solax.Parser I F B X) :
    FrameLoop F B (Solax.State I) where
  step := Solax.inverterRx cfg parser
  wanted := Solax.wanted
  busy s := s.sending.isSome
  signals := !cfg.teslaM3

def forceH2 (cfg : Features) (parser : ForceH2.Parser I F B X) :
    FrameLoop F B (ForceH2.State I) where
  step := ForceH2.inverterRx cfg parser
  wanted := ForceH2.wanted
  busy s := s.sending.isSome
  signals := true

theorem solax_frame {cfg : Features} {parser : Solax.Parser I F B X} {st : Statics F B}
    {s : Solax.State I} (hs : Solax.inverterRx cfg parser st s (.frame frame) = some r) :
    s.sending = none ∧ r = Solax.receive cfg parser st s frame := by
  cases hw : s.sending with
  | some q => simp [Solax.inverterRx, hw] at hs
  | none =>
      simp only [Solax.inverterRx, hw, Option.some.injEq] at hs
      exact ⟨rfl, hs.symm⟩

/-- On `tesla_m3` an exchange ends without a command. -/
theorem contactorAfter_solax_endExchange {cfg : Features} (hq : cfg.teslaM3 = true)
    (s : Solax.State I) (inverterCommsValid : Bool) (last : Option Bool) :
    contactorAfter last (Solax.endExchange cfg s inverterCommsValid).2 = last := by
  unfold Solax.endExchange Solax.contactorSignal
  cases s.initalised <;> simp [hq]

theorem contactorAfter_solax_sendFrames {cfg : Features} (hq : cfg.teslaM3 = true)
    (s : Solax.State I) (frames : List Frame) (last : Option Bool) :
    contactorAfter last (Solax.sendFrames cfg s frames).2 = last := by
  cases frames with
  | cons frame rest => rfl
  | nil =>
      obtain ⟨_, pre, hpre, hos⟩ := Solax.sendFrames_nil cfg s
      rw [hos, contactorAfter_append, contactorAfter_of_forall_ne last hpre]
      exact contactorAfter_solax_endExchange hq s true last

theorem contactorAfter_solax_handled {cfg : Features} (hq : cfg.teslaM3 = true)
    {s : Solax.State I} {att : Option Solax.Attempt} {nothing : Bool}
    {r : Solax.State I × List Out} (hh : Solax.Handled cfg s att nothing r) (last : Option Bool) :
    contactorAfter last r.2 = last := by
  cases hh with
  | skipped inverter => rfl
  | cutOff => simp [Solax.contactorSignal, hq]
  | refused inverter => exact contactorAfter_solax_endExchange hq _ false last
  | ended inverter pre hpre =>
      rw [contactorAfter_append, contactorAfter_of_forall_ne last hpre]
      exact contactorAfter_solax_endExchange hq _ true last
  | answering inverter f rest => rfl

theorem lawful_solax (cfg : Features) (parser : Solax.Parser I F B X) :
    (solax cfg parser).Lawful where
  filtered := by
    intro st s frame s' os hs hw
    obtain ⟨_, hr⟩ := solax_frame hs
    have hw' : Solax.wanted frame = false := hw
    simp only [Solax.receive, hw', Bool.not_false, if_true] at hr
    exact Prod.mk.inj hr
  answers := by
    intro st s s' os hs
    cases hw : s.sending with
    | none => simp [solax, Solax.inverterRx, hw] at hs
    | some q => simp [solax, hw]
  opens := by
    intro st s frame s' os hs hw hstale
    obtain ⟨hnone, hr⟩ := solax_frame hs
    have hw' : Solax.wanted frame = true := hw
    have hcut : Solax.receive cfg parser st s frame = (s, Solax.contactorSignal cfg false) := by
      unfold Statics.stale at hstale
      unfold Solax.receive
      cases hl : st.lastBmsMessage with
      | none => simp [hl] at hstale
      | some time =>
          rw [hl] at hstale
          simp [hw', hstale]
    obtain ⟨rfl, rfl⟩ := Prod.mk.inj (hr.trans hcut)
    refine ⟨by simp [solax, hnone], fun hq last => ?_⟩
    have hq' : cfg.teslaM3 = false := by simpa [solax] using hq
    simp [Solax.contactorSignal, hq']
  silent := by
    intro st s i s' os hq hs last
    have hq' : cfg.teslaM3 = true := by simpa [solax] using hq
    rcases Solax.inverterRx_cases hs with ⟨frame, _, _, hh⟩ | ⟨frame, rest, _, _, hr⟩
    · exact contactorAfter_solax_handled hq' hh last
    · rw [(Prod.mk.inj hr).2]
      exact contactorAfter_solax_sendFrames hq' s rest last

theorem lawful_forceH2 (cfg : Features) (parser : ForceH2.Parser I F B X) :
    (forceH2 cfg parser).Lawful where
  filtered := by
    intro st s frame s' os hs hw
    have hw' : ForceH2.wanted frame = false := hw
    cases hb : s.sending with
    | some q => simp [forceH2, ForceH2.inverterRx, hb] at hs
    | none =>
        simp only [forceH2, ForceH2.inverterRx, hb, ForceH2.receive, hw', Bool.not_false,
          if_true, Option.some.injEq, Prod.mk.injEq] at hs
        exact ⟨hs.1.symm, hs.2.symm⟩
  answers := by
    intro st s s' os hs
    cases hb : s.sending with
    | none => simp [forceH2, ForceH2.inverterRx, hb] at hs
    | some q => simp [forceH2, hb]
  opens := by
    intro st s frame s' os hs hw hstale
    have hw' : ForceH2.wanted frame = true := hw
    cases hb : s.sending with
    | some q => simp [forceH2, ForceH2.inverterRx, hb] at hs
    | none =>
        simp only [forceH2, ForceH2.inverterRx, hb, ForceH2.receive, hw', hstale, Bool.not_true,
          Bool.false_eq_true, if_false, if_true, Option.some.injEq, Prod.mk.injEq] at hs
        rw [← hs.1, ← hs.2]
        exact ⟨by simp [forceH2], fun _ last => rfl⟩
  silent := by
    intro st s i s' os hq
    exact absurd hq (by simp [forceH2])

/-- **The bound**: in every timed run of the Solax loop and of the Force H2 loop,
whatever frames arrive, the contactor is closed on a message older than 12 s only
as long as no wanted frame was taken since that message was 11 s old. -/
theorem closed_stale_only_untaken (cfg : Features) (st : Statics F B) (es : List (Event F B))
    (parser : Solax.Parser I F B X) (inverter : I) (parser' : ForceH2.Parser J F B Y)
    (inverter' : J) :
    (solax cfg parser).machine.Along (fun _ _ _ w' => w'.ClosedOnlyUntaken)
        (.start st (.start inverter)) es ∧
      (forceH2 cfg parser').machine.Along (fun _ _ _ w' => w'.ClosedOnlyUntaken)
        (.start st (.start inverter')) es := by
  constructor
  · exact FrameLoop.along_closedOnlyUntaken (lawful_solax cfg parser) st _ es
  · exact FrameLoop.along_closedOnlyUntaken (lawful_forceH2 cfg parser') st _ es

/-! ### An inverter that falls silent -/

/-- Two answered requests close the contactor, then nobody says anything for
thirteen seconds. -/
def silentInverter : List (Event Rat Unit) :=
  [.bmsMessage, .loop (.frame Solax.inverterFrame), .loop (.frame Solax.inverterFrame),
    .elapse (13 * tickHz)]

/-- The contactor can be closed on a message older than 12 s. -/
theorem not_openWhenStale :
    ¬ ∀ es, (solax default Solax.nothingToSay).machine.Along
        (fun _ _ _ w' => World.OpenWhenStale w') (.start default (.start ())) es := by
  intro h
  obtain ⟨_, _, _, hopen, _⟩ := h silentInverter
  exact hopen 0 rfl (by decide) rfl

end Toucan.Staleness
