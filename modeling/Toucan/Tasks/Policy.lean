import Toucan.Tasks.Pylontech
import Toucan.Tasks.ForceH2
import Toucan.Lib.Machine

/-!
# Toucan.Tasks.Policy

What the PylonTech and the Force H2 loops make of the contactor.  Both run in
cycles: something triggers one, and at its end the contactor should be closed
exactly when the pack is fresh and valid (and, for Force H2, the inverter was
understood).

A `CycleLoop` is a loop seen as such cycles; `followsPolicy_iff_meets` settles
any of them from what one cycle commands, and the two loops are instances.
-/

namespace Toucan.Policy

open Inverter

/-! ## Loops that run in cycles -/

/-- A loop with the cycles it runs in: which resumptions begin one, what is still
to be commanded by a cycle in progress, what a cycle begun here commands
(`none`: nothing), and what it should. -/
structure CycleLoop (F B σ ι : Type) where
  step : Statics F B → σ → ι → Option (σ × List Out)
  trigger : ι → Bool
  pending : σ → Option Bool
  command : Statics F B → σ → ι → Option Bool
  policy : Statics F B → σ → ι → Bool

/-- The cycles are those of the loop's steps. -/
structure CycleLoop.Lawful (L : CycleLoop F B σ ι) : Prop where
  begins : ∀ {st s i s' os}, L.step st s i = some (s', os) → L.trigger i = true →
    (L.pending s' = none ∧ ∀ last, contactorAfter last os = (L.command st s i).or last) ∨
      ∃ closed, L.pending s' = some closed ∧ L.command st s i = some closed
  continues : ∀ {st s i s' os closed}, L.step st s i = some (s', os) →
    L.pending s = some closed →
    L.trigger i = false ∧ (L.pending s' = some closed ∨
      L.pending s' = none ∧ ∀ last, contactorAfter last os = some closed)
  idles : ∀ {st s i s' os}, L.step st s i = some (s', os) → L.trigger i = false →
    L.pending s = none → L.pending s' = none

/-- What a run remembers: the last command, and the policy and the verdict `meets`
of the latest cycle as they were when it began. -/
structure Cycle where
  contactor : Option Bool
  policy : Bool
  meets : Bool

def Cycle.start : Cycle := { contactor := none, policy := false, meets := false }

variable {F B σ ι : Type}

/-- The loop in any surroundings, with that memory. -/
def CycleLoop.machine (L : CycleLoop F B σ ι)
    (meets : Statics F B → Option Bool → σ → ι → Bool) :
    Machine (σ × Cycle) (Statics F B × ι) Out :=
  Machine.withHistory ⟨fun s i => L.step i.1 s i.2⟩ fun c s i os =>
    let contactor := contactorAfter c.contactor os
    if L.trigger i.2 then
      { contactor, policy := L.policy i.1 s i.2, meets := meets i.1 c.contactor s i.2 }
    else { c with contactor }

/-- This step ends a cycle. -/
def CycleLoop.ends (L : CycleLoop F B σ ι) (s : σ) (i : ι) (s' : σ) : Bool :=
  (L.trigger i || (L.pending s).isSome) && (L.pending s').isNone

/-- After every cycle the last command is what the policy says. -/
def CycleLoop.FollowsPolicy (L : CycleLoop F B σ ι) (p : σ × Cycle) (i : Statics F B × ι)
    (_ : List Out) (p' : σ × Cycle) : Prop :=
  L.ends p.1 i.2 p'.1 = true → p'.2.contactor = some p'.2.policy

/-- Every cycle that ended had begun where `meets` holds. -/
def CycleLoop.MeetsPolicy (L : CycleLoop F B σ ι) (p : σ × Cycle) (i : Statics F B × ι)
    (_ : List Out) (p' : σ × Cycle) : Prop :=
  L.ends p.1 i.2 p'.1 = true → p'.2.meets = true

/-- The verdict on a cycle in progress is about what it has still to command. -/
def CycleLoop.PendingInvariant (L : CycleLoop F B σ ι) (p : σ × Cycle) : Prop :=
  ∀ closed, L.pending p.1 = some closed → (closed = p.2.policy ↔ p.2.meets = true)

theorem CycleLoop.followsPolicy_step {L : CycleLoop F B σ ι} (hL : L.Lawful)
    {meets : Statics F B → Option Bool → σ → ι → Bool}
    (hmeets : ∀ st last s i, L.trigger i = true →
      (meets st last s i = true ↔ (L.command st s i).or last = some (L.policy st s i)))
    {p p' : σ × Cycle} (hI : L.PendingInvariant p)
    (hstep : (L.machine meets).step p i = some (p', os)) :
    (L.FollowsPolicy p i os p' ↔ L.MeetsPolicy p i os p') ∧ L.PendingInvariant p' := by
  obtain ⟨s, c⟩ := p
  obtain ⟨s', c'⟩ := p'
  obtain ⟨hs, hc'⟩ := Machine.withHistory_step_eq_some.mp hstep
  dsimp only at hs hc'
  unfold FollowsPolicy MeetsPolicy ends PendingInvariant
  by_cases ht : L.trigger i.2 = true
  · have hm := hmeets i.1 c.contactor s i.2 ht
    rw [if_pos ht] at hc'
    subst hc'
    rcases hL.begins hs ht with ⟨hnone, hos⟩ | ⟨closed, hsome, hcmd⟩
    · rw [hnone]
      refine ⟨?_, by simp⟩
      simp only [hos, hm]
    · rw [hcmd, Option.some_or, Option.some.injEq] at hm
      rw [hsome]
      refine ⟨by simp, fun b hb => ?_⟩
      rw [← Option.some.inj hb, hm]
  · rw [Bool.not_eq_true] at ht
    rw [if_neg (by simp [ht])] at hc'
    subst hc'
    cases hp : L.pending s with
    | none =>
        have hp' := hL.idles hs ht hp
        simp [hp', ht]
    | some closed =>
        have hc := hI closed hp
        rcases (hL.continues hs hp).2 with hsome | ⟨hnone, hos⟩
        · rw [hsome]
          refine ⟨by simp, fun b hb => ?_⟩
          rw [← Option.some.inj hb]
          exact hc
        · rw [hnone]
          refine ⟨?_, by simp⟩
          simp only [hos, Option.some.injEq]
          exact imp_congr_right fun _ => hc

/-- **The policy, for any loop that runs in cycles**: it is followed after every
cycle of a run exactly when every cycle of the run began where what it commands
(or, if nothing, what was commanded before) is what the policy says. -/
theorem CycleLoop.followsPolicy_iff_meets {L : CycleLoop F B σ ι} (hL : L.Lawful)
    {meets : Statics F B → Option Bool → σ → ι → Bool}
    (hmeets : ∀ st last s i, L.trigger i = true →
      (meets st last s i = true ↔ (L.command st s i).or last = some (L.policy st s i)))
    {s : σ} (h0 : L.pending s = none) {is : List (Statics F B × ι)} :
    (L.machine meets).Along L.FollowsPolicy (s, .start) is ↔
      (L.machine meets).Along L.MeetsPolicy (s, .start) is := by
  refine Machine.along_iff_along (I := L.PendingInvariant) ?_ ?_ ?_
  · exact fun p i p' os hI hs => (followsPolicy_step hL hmeets hI hs).1
  · exact fun p i p' os hI hs _ => (followsPolicy_step hL hmeets hI hs).2
  · intro closed hp
    rw [h0] at hp
    contradiction

/-! ## The PylonTech loop -/

/-- The loop in cycles: its timer begins one, and what is to be commanded is the
flag as it stands. -/
def pylontech (cfg : Features) (iter : Bms F B → List Frame) :
    CycleLoop F B Pylontech.State Pylontech.Input where
  step := Pylontech.inverterRx cfg iter
  trigger
    | .timer => true
    | .sent => false
  pending s :=
    match s.await with
    | .timer _ => none
    | .sending _ _ => some s.inverterCommsValid
  -- nothing in the loop ever sets `inverter_comms_valid`
  command st _ _ := if st.stale then some false else if !st.bms.valid then none else some false
  policy st _ _ := st.fresh && st.bms.valid

/-- The pack is stale, or it is valid but was never heard, or it is invalid and
the contactor was commanded open before. -/
def pylontechMeets (st : Statics F B) (last : Option Bool) (_ : Pylontech.State)
    (_ : Pylontech.Input) : Bool :=
  st.stale || if st.bms.valid then st.lastBmsMessage.isNone else last == some false

theorem contactorAfter_endCycle (last : Option Bool) (cfg : Features) (now : Nat)
    (s : Pylontech.State) :
    contactorAfter last (Pylontech.endCycle cfg now s).2 = some s.inverterCommsValid := by
  unfold Pylontech.endCycle
  cases cfg.mqtt <;> rfl

theorem pylontech_sendFrames (cfg : Features) (iter : Bms F B → List Frame) (now : Nat)
    (s : Pylontech.State) (frames : List Frame) :
    (pylontech cfg iter).pending (Pylontech.sendFrames cfg now s frames).1 =
        some s.inverterCommsValid ∨
      (pylontech cfg iter).pending (Pylontech.sendFrames cfg now s frames).1 = none ∧
        ∀ last, contactorAfter last (Pylontech.sendFrames cfg now s frames).2 =
          some s.inverterCommsValid := by
  cases frames with
  | nil => exact Or.inr ⟨rfl, fun last => contactorAfter_endCycle last cfg now s⟩
  | cons frame rest => exact Or.inl rfl

theorem lawful_pylontech (cfg : Features) (iter : Bms F B → List Frame) :
    (pylontech cfg iter).Lawful where
  begins := by
    intro st s i s' os hs ht
    cases i with
    | sent => contradiction
    | timer =>
        cases hw : s.await with
        | sending frame rest => simp [pylontech, Pylontech.inverterRx, hw] at hs
        | timer wake =>
            simp only [pylontech, Pylontech.inverterRx, hw, Option.ite_none_right_eq_some,
              Option.some.injEq] at hs
            obtain ⟨_, hs⟩ := hs
            have hcmd : (pylontech cfg iter).command st s .timer =
              if st.stale then some false else if !st.bms.valid then none else some false := rfl
            rw [hcmd]
            unfold Pylontech.cycle at hs
            by_cases hstale : st.stale = true
            · rw [if_pos hstale] at hs ⊢
              obtain ⟨rfl, rfl⟩ := Prod.mk.inj hs
              exact Or.inl ⟨rfl, fun last => rfl⟩
            · rw [if_neg hstale] at hs ⊢
              by_cases hv : (!st.bms.valid) = true
              · rw [if_pos hv] at hs ⊢
                obtain ⟨rfl, rfl⟩ := Prod.mk.inj hs
                exact Or.inl ⟨rfl, fun last => rfl⟩
              · rw [if_neg hv] at hs ⊢
                have hsend := pylontech_sendFrames cfg iter st.now
                  { s with inverterCommsValid := false } (iter st.bms)
                rw [hs] at hsend
                rcases hsend with hsome | ⟨hnone, hos⟩
                · exact Or.inr ⟨false, hsome, rfl⟩
                · exact Or.inl ⟨hnone, hos⟩
  continues := by
    intro st s i s' os closed hs hp
    cases hw : s.await with
    | timer wake => simp [pylontech, hw] at hp
    | sending frame rest =>
        have hclosed : s.inverterCommsValid = closed := by simpa [pylontech, hw] using hp
        cases i with
        | timer => simp [pylontech, Pylontech.inverterRx, hw] at hs
        | sent =>
            simp only [pylontech, Pylontech.inverterRx, hw, Option.some.injEq] at hs
            obtain ⟨rfl, rfl⟩ := Prod.mk.inj hs
            have hsend := pylontech_sendFrames cfg iter st.now s rest
            rw [hclosed] at hsend
            exact ⟨rfl, hsend⟩
  idles := by
    intro st s i s' os hs ht hp
    cases i with
    | timer => contradiction
    | sent =>
        cases hw : s.await with
        | timer wake => simp [pylontech, Pylontech.inverterRx, hw] at hs
        | sending frame rest => simp [pylontech, hw] at hp

theorem pylontechMeets_iff (cfg : Features) (iter : Bms F B → List Frame) (st : Statics F B)
    (last : Option Bool) (s : Pylontech.State) (i : Pylontech.Input) :
    pylontechMeets st last s i = true ↔
      ((pylontech cfg iter).command st s i).or last =
        some ((pylontech cfg iter).policy st s i) := by
  simp only [pylontechMeets, pylontech]
  by_cases hstale : st.stale = true
  · simp [hstale, Statics.fresh_of_stale hstale]
  · rw [Bool.not_eq_true] at hstale
    rw [Statics.fresh_of_not_stale hstale]
    cases st.bms.valid <;> cases st.lastBmsMessage <;> simp [hstale]

/-! ## The Force H2 loop -/

/-- The loop in cycles: a wanted frame begins one, and what is to be commanded is
the flag as the parser set it. -/
def forceH2 (cfg : Features) (parser : ForceH2.Parser I F B X) :
    CycleLoop F B (ForceH2.State I) Input where
  step := ForceH2.inverterRx cfg parser
  trigger
    | .frame frame => ForceH2.wanted frame
    | .sent => false
  pending s := s.sending.map fun _ => s.inverterCommsValid
  command st s
    | .frame frame =>
      if st.stale then some false
      else if !st.bms.valid then none
      else some (parser st.bms frame s.inverter).1.isOk
    | .sent => none
  policy st s
    | .frame frame => st.fresh && st.bms.valid && (parser st.bms frame s.inverter).1.isOk
    | .sent => false

/-- The pack is stale, or it is valid and either was heard or the parser fails,
or it is invalid and the contactor was commanded open before. -/
def forceH2Meets (parser : ForceH2.Parser I F B X) (st : Statics F B) (last : Option Bool)
    (s : ForceH2.State I) : Input → Bool
  | .frame frame =>
    st.stale ||
      if st.bms.valid then
        st.lastBmsMessage.isSome || !(parser st.bms frame s.inverter).1.isOk
      else last == some false
  | .sent => true

theorem contactorAfter_forceH2_endCycle (last : Option Bool) (cfg : Features)
    (s : ForceH2.State I) :
    contactorAfter last (ForceH2.endCycle cfg s).2 = some s.inverterCommsValid := by
  unfold ForceH2.endCycle
  cases cfg.mqtt <;> rfl

theorem forceH2_sendFrames (cfg : Features) (parser : ForceH2.Parser I F B X)
    (s : ForceH2.State I) (frames : List Frame) :
    (forceH2 cfg parser).pending (ForceH2.sendFrames cfg s frames).1 =
        some s.inverterCommsValid ∨
      (forceH2 cfg parser).pending (ForceH2.sendFrames cfg s frames).1 = none ∧
        ∀ last, contactorAfter last (ForceH2.sendFrames cfg s frames).2 =
          some s.inverterCommsValid := by
  cases frames with
  | nil => exact Or.inr ⟨rfl, fun last => contactorAfter_forceH2_endCycle last cfg s⟩
  | cons frame rest => exact Or.inl rfl

/-- The end of a cycle commands whether the parser returned `Ok`. -/
theorem forceH2_handleResponse (cfg : Features) (parser : ForceH2.Parser I F B X)
    {s : ForceH2.State I} (hf : s.inverterCommsValid = false)
    (r : Except X (List Frame)) :
    (forceH2 cfg parser).pending (ForceH2.handleResponse cfg s r).1 = some r.isOk ∨
      (forceH2 cfg parser).pending (ForceH2.handleResponse cfg s r).1 = none ∧
        ∀ last, contactorAfter last (ForceH2.handleResponse cfg s r).2 = some r.isOk := by
  cases r with
  | ok frames => exact forceH2_sendFrames cfg parser { s with inverterCommsValid := true } frames
  | error e =>
      refine Or.inr ⟨rfl, fun last => ?_⟩
      have hend := contactorAfter_forceH2_endCycle last cfg s
      rw [hf] at hend
      exact hend

theorem lawful_forceH2 (cfg : Features) (parser : ForceH2.Parser I F B X) :
    (forceH2 cfg parser).Lawful where
  begins := by
    intro st s i s' os hs ht
    cases i with
    | sent => contradiction
    | frame frame =>
        cases hw : s.sending with
        | some q => simp [forceH2, ForceH2.inverterRx, hw] at hs
        | none =>
            have hwanted : (!ForceH2.wanted frame) = false := by
              rw [Bool.not_eq_false']
              exact ht
            simp only [forceH2, ForceH2.inverterRx, hw, Option.some.injEq] at hs
            have hcmd : (forceH2 cfg parser).command st s (.frame frame) =
              if st.stale then some false
              else if !st.bms.valid then none
              else some (parser st.bms frame s.inverter).1.isOk := rfl
            rw [hcmd]
            unfold ForceH2.receive at hs
            rw [hwanted, if_neg Bool.false_ne_true] at hs
            by_cases hstale : st.stale = true
            · rw [if_pos hstale] at hs ⊢
              obtain ⟨rfl, rfl⟩ := Prod.mk.inj hs
              exact Or.inl ⟨by simp [forceH2, hw], fun last => rfl⟩
            · rw [if_neg hstale] at hs ⊢
              by_cases hv : (!st.bms.valid) = true
              · rw [if_pos hv] at hs ⊢
                obtain ⟨rfl, rfl⟩ := Prod.mk.inj hs
                exact Or.inl ⟨by simp [forceH2, hw], fun last => rfl⟩
              · rw [if_neg hv] at hs ⊢
                have hend := forceH2_handleResponse cfg parser
                  (s := { s with
                    inverterCommsValid := false
                    inverter := (parser st.bms frame s.inverter).2 })
                  rfl (parser st.bms frame s.inverter).1
                rw [hs] at hend
                rcases hend with hsome | ⟨hnone, hos⟩
                · exact Or.inr ⟨_, hsome, rfl⟩
                · exact Or.inl ⟨hnone, hos⟩
  continues := by
    intro st s i s' os closed hs hp
    cases hw : s.sending with
    | none => simp [forceH2, hw] at hp
    | some q =>
        obtain ⟨frame, rest⟩ := q
        have hclosed : s.inverterCommsValid = closed := by simpa [forceH2, hw] using hp
        cases i with
        | frame frame' => simp [forceH2, ForceH2.inverterRx, hw] at hs
        | sent =>
            simp only [forceH2, ForceH2.inverterRx, hw, Option.some.injEq] at hs
            obtain ⟨rfl, rfl⟩ := Prod.mk.inj hs
            have hsend := forceH2_sendFrames cfg parser s rest
            rw [hclosed] at hsend
            exact ⟨rfl, hsend⟩
  idles := by
    intro st s i s' os hs ht hp
    cases hw : s.sending with
    | some q => simp [forceH2, hw] at hp
    | none =>
        cases i with
        | sent => simp [forceH2, ForceH2.inverterRx, hw] at hs
        | frame frame =>
            simp only [forceH2, ForceH2.inverterRx, hw, Option.some.injEq] at hs ht
            simp only [ForceH2.receive, ht, Bool.not_false, if_true] at hs
            obtain ⟨rfl, _⟩ := Prod.mk.inj hs
            exact hp

theorem forceH2Meets_iff (cfg : Features) (parser : ForceH2.Parser I F B X) (st : Statics F B)
    (last : Option Bool) (s : ForceH2.State I) {i : Input}
    (ht : (forceH2 cfg parser).trigger i = true) :
    forceH2Meets parser st last s i = true ↔
      ((forceH2 cfg parser).command st s i).or last =
        some ((forceH2 cfg parser).policy st s i) := by
  cases i with
  | sent => contradiction
  | frame frame =>
      simp only [forceH2Meets, forceH2]
      by_cases hstale : st.stale = true
      · simp [hstale, Statics.fresh_of_stale hstale]
      · rw [Bool.not_eq_true] at hstale
        rw [Statics.fresh_of_not_stale hstale]
        cases st.bms.valid <;> cases st.lastBmsMessage <;>
          cases (parser st.bms frame s.inverter).1.isOk <;> simp [hstale]

/-! ## Both loops -/

/-- **The contactor policy**: in every run of the PylonTech loop and of the Force
H2 loop, the command left by every cycle is what freshness, validity and the
parser say exactly when every cycle began where `pylontechMeets`, respectively
`forceH2Meets`, holds. -/
theorem followsPolicy_iff (cfg : Features) (iter : Bms F B → List Frame) (now : Nat)
    (is : List (Statics F B × Pylontech.Input)) (parser : ForceH2.Parser I F B X) (inverter : I)
    (js : List (Statics F B × Input)) :
    (((pylontech cfg iter).machine pylontechMeets).Along (pylontech cfg iter).FollowsPolicy
          (.start now, .start) is ↔
        ((pylontech cfg iter).machine pylontechMeets).Along (pylontech cfg iter).MeetsPolicy
          (.start now, .start) is) ∧
      (((forceH2 cfg parser).machine (forceH2Meets parser)).Along
            (forceH2 cfg parser).FollowsPolicy (.start inverter, .start) js ↔
        ((forceH2 cfg parser).machine (forceH2Meets parser)).Along
            (forceH2 cfg parser).MeetsPolicy (.start inverter, .start) js) := by
  constructor
  · exact CycleLoop.followsPolicy_iff_meets (lawful_pylontech cfg iter)
      (fun st last s i _ => pylontechMeets_iff cfg iter st last s i) rfl
  · exact CycleLoop.followsPolicy_iff_meets (lawful_forceH2 cfg parser)
      (fun st last s i ht => forceH2Meets_iff cfg parser st last s ht) rfl

/-! ### A pack that is fresh and valid, then invalid -/

def pack (valid : Bool) : Statics Rat Unit :=
  { now := 32768, lastBmsMessage := some 32768, bms := { (default : Bms Rat Unit) with valid } }

def pollFrame : Frame := { id := .extended ⟨0x4210, by decide⟩, data := some .zeros }

def noIter : Bms Rat Unit → List Frame := fun _ => []

def understood : ForceH2.Parser Unit Rat Unit Unit := fun _ _ => pure []

/-- Neither loop follows the policy: PylonTech never closes the contactor on a
fresh and valid pack, Force H2 leaves it closed when the pack turns invalid. -/
theorem not_followsPolicy :
    ¬ ((pylontech default noIter).machine pylontechMeets).Along
        (pylontech default noIter).FollowsPolicy (.start 0, .start) [(pack true, .timer)] ∧
      ¬ ((forceH2 default understood).machine (forceH2Meets understood)).Along
        (forceH2 default understood).FollowsPolicy (.start (), .start)
        [(pack true, .frame pollFrame), (pack false, .frame pollFrame)] := by
  constructor
  · rintro ⟨hopen, _⟩
    exact absurd (hopen rfl) (by decide)
  · rintro ⟨_, hclosed, _⟩
    exact absurd (hclosed rfl) (by decide)

end Toucan.Policy
