import Toucan.Tasks.Solax

/-!
# Toucan.Tasks.SolaxFault

The fault that the Solax/FoxESS loop reports in `GLOBALSTATE`.  It is written at
the end of an exchange, but only under `!initalised`, a flag that the exchange
updates afterwards: the fault follows the last two exchanges, not the last one
(`fault_eq_reported`).
-/

namespace Toucan.Solax

open Inverter

/-! ## Exchanges that end -/

/-- `inverter_comms_valid` of the exchange that an answer ends at once. -/
def endsWith : Response X → Option Bool
  | .ok [] => some true
  | .ok (_ :: _) => none
  | .error (.invalidFrameEncode _) => some false
  | .error (.badId _) => some false
  | .error (.timeStamp _) => none
  | .error .unwantedFrame => none
  | .error (.other _) => some true

/-- `inverter_comms_valid` of the exchange that reaches the end of the loop body
in this resumption, if one does. -/
def ended (parser : Parser I F B X) (st : Statics F B) (s : State I) : Input → Option Bool
  | .frame frame =>
    if !wanted frame then none
    else
      match st.lastBmsMessage with
      | some time =>
        if st.readingTimedOut time then none
        else endsWith (parser frame st.bms true s.inverter).1
      | none => none
  | .sent =>
    match s.sending with
    | some (_, []) => some true
    | _ => none

/-- `GLOBALSTATE.fault` after the effects `os`. -/
def faultAfter (fault : Fault) (os : List Out) : Fault :=
  (Machine.lastOf (fun | .setFault fault => some fault | _ => none) os).getD fault

/-- Effects that report nothing. -/
theorem faultAfter_of_forall_ne {fault : Fault} (h : ∀ fault', Out.setFault fault' ∉ os) :
    faultAfter fault os = fault := by
  have hnil : os.filterMap (fun | Out.setFault fault => some fault | _ => none) = [] := by
    rw [List.filterMap_eq_nil_iff]
    intro o ho
    cases o with
    | setFault fault' => exact absurd ho (h fault')
    | send frame => rfl
    | contactorState closed => rfl
    | sendMqtt => rfl
  rw [faultAfter, Machine.lastOf, hnil]
  rfl

theorem faultAfter_append (fault : Fault) (os ps : List Out) :
    faultAfter fault (os ++ ps) = faultAfter (faultAfter fault os) ps := by
  unfold faultAfter
  rw [Machine.lastOf_append]
  cases Machine.lastOf _ ps <;> simp

/-- The bottom of the loop body reports the exchange unless the loop is
`initalised`. -/
theorem faultAfter_endExchange (cfg : Features) (s : State I) (valid : Bool) (fault : Fault) :
    faultAfter fault (endExchange cfg s valid).2 =
      if s.initalised then fault else if valid then .none else .invFault := by
  unfold endExchange contactorSignal faultAfter
  cases s.initalised <;> cases cfg.teslaM3 <;> rfl

/-- What a resumption does to the flag and the fault. -/
structure Concluded (s : State I) (outcome : Option Bool) (fault : Fault)
    (r : State I × List Out) : Prop where
  initalised : r.1.initalised = outcome.getD s.initalised
  fault : faultAfter fault r.2 =
    if s.initalised then fault
    else outcome.elim fault fun valid => if valid then .none else .invFault

theorem concluded_of_silent {s s' : State I} (fault : Fault) (h : s'.initalised = s.initalised)
    (hos : ∀ fault', Out.setFault fault' ∉ os) : Concluded s none fault (s', os) where
  initalised := h
  fault := by rw [faultAfter_of_forall_ne hos]; simp

theorem concluded_endExchange (cfg : Features) {s t : State I} (h : t.initalised = s.initalised)
    (valid : Bool) (fault : Fault) {r : State I × List Out} (hst : r.1 = (endExchange cfg t valid).1)
    (hos : ∃ pre, (∀ fault', Out.setFault fault' ∉ pre) ∧ r.2 = pre ++ (endExchange cfg t valid).2) :
    Concluded s (some valid) fault r where
  initalised := by rw [hst]; rfl
  fault := by
    obtain ⟨pre, hpre, hos⟩ := hos
    rw [hos, faultAfter_append, faultAfter_of_forall_ne hpre, faultAfter_endExchange, h]
    rfl

/-- What the end of an answer puts in front of its report is no report. -/
theorem concluded_sendFrames_nil (cfg : Features) {s t : State I}
    (h : t.initalised = s.initalised) (fault : Fault) (sent : List Frame) :
    Concluded s (some true) fault
      ((sendFrames cfg t []).1, sent.map .send ++ (sendFrames cfg t []).2) := by
  refine concluded_endExchange cfg h true fault rfl
    ⟨sent.map .send ++ if cfg.mqtt then [.sendMqtt] else [], fun fault' => ?_, ?_⟩
  · cases cfg.mqtt <;> simp
  · rw [List.append_assoc]
    rfl

theorem concluded_handleResponse (cfg : Features) (s : State I) (inverter : I) (r : Response X)
    (fault : Fault) :
    Concluded s (endsWith r) fault (handleResponse cfg { s with inverter } r) := by
  have hflag : { s with inverter }.initalised = s.initalised := rfl
  cases r with
  | ok frames =>
      cases frames with
      | nil => exact concluded_sendFrames_nil cfg hflag fault []
      | cons frame rest => exact concluded_of_silent fault rfl (by simp)
  | error e =>
      cases e with
      | timeStamp time => exact concluded_of_silent fault rfl (by simp)
      | unwantedFrame => exact concluded_of_silent fault rfl (by simp)
      | invalidFrameEncode id =>
          exact concluded_endExchange cfg hflag false fault rfl ⟨[], by simp, rfl⟩
      | badId id => exact concluded_endExchange cfg hflag false fault rfl ⟨[], by simp, rfl⟩
      | other x => exact concluded_endExchange cfg hflag true fault rfl ⟨[], by simp, rfl⟩

theorem setFault_not_mem_contactorSignal (cfg : Features) (closed : Bool) (fault : Fault) :
    Out.setFault fault ∉ contactorSignal cfg closed := by
  unfold contactorSignal
  split <;> simp

/-- **Step lemma**: every resumption updates the flag with the exchange that ends
in it, and reports that exchange unless the flag was set. -/
theorem concluded_inverterRx {cfg : Features} {parser : Parser I F B X} {st : Statics F B}
    {s : State I} (h : inverterRx cfg parser st s input = some r) (fault : Fault) :
    Concluded s (ended parser st s input) fault r := by
  cases input with
  | frame frame =>
      cases hs : s.sending with
      | some q => simp [inverterRx, hs] at h
      | none =>
          simp only [inverterRx, hs, Option.some.injEq] at h
          subst h
          unfold receive ended
          by_cases hw : wanted frame = true
          · simp only [hw, Bool.not_true, Bool.false_eq_true, if_false]
            cases hl : st.lastBmsMessage with
            | none =>
                exact concluded_of_silent fault rfl (setFault_not_mem_contactorSignal cfg false)
            | some time =>
                by_cases ht : st.readingTimedOut time = true
                · simp only [ht, if_true]
                  exact concluded_of_silent fault rfl (setFault_not_mem_contactorSignal cfg false)
                · simp only [ht]
                  exact concluded_handleResponse cfg s _ _ fault
          · simp only [hw, Bool.not_false, if_true]
            exact concluded_of_silent fault rfl (by simp)
  | sent =>
      cases hs : s.sending with
      | none => simp [inverterRx, hs] at h
      | some q =>
          obtain ⟨frame, rest⟩ := q
          simp only [inverterRx, hs, Option.some.injEq] at h
          subst h
          cases rest with
          | cons f rest =>
              simp only [ended, hs]
              exact concluded_of_silent fault rfl (by simp [sendFrames])
          | nil =>
              simp only [ended, hs]
              exact concluded_sendFrames_nil cfg rfl fault [frame]

/-! ## The last two exchanges -/

/-- What `GLOBALSTATE` reports, and the exchanges that have ended. -/
structure Reports where
  fault : Fault
  outcomes : List Bool

/-- The loop with the fault and the exchanges so far. -/
def faultMachine (cfg : Features) (parser : Parser I F B X) :
    Machine (State I × Reports) (Statics F B × Input) Out :=
  (machine cfg parser).withHistory fun g s i os =>
    { fault := faultAfter g.fault os, outcomes := g.outcomes ++ (ended parser i.1 s i.2).toList }

/-- The fault is that of the last exchange. -/
def ReportsLast (g : Reports) : Prop :=
  g.fault = if g.outcomes.getLast? = some true then .none else .invFault

/-- The fault is that of the last exchange when the one before it was no positive
one; after a positive exchange there is none. -/
def ReportsLastTwo (g : Reports) : Prop :=
  g.fault =
    if g.outcomes.getLast? = some true ∨ g.outcomes.dropLast.getLast? = some true then .none
    else .invFault

/-- The flag remembers a positive exchange, and with it no fault is reported. -/
structure FaultInvariant (p : State I × Reports) : Prop where
  initalised : p.1.initalised = true ↔ p.2.outcomes.getLast? = some true
  fault : p.1.initalised = true → p.2.fault = .none

/-- An exchange that ends keeps the invariant, and the fault reports the last two. -/
theorem reportsLastTwo_of_concluded {s : State I} {g : Reports} {valid : Bool}
    {r : State I × List Out} (hI : FaultInvariant (s, g))
    (hc : Concluded s (some valid) g.fault r) :
    let g' : Reports := { fault := faultAfter g.fault r.2, outcomes := g.outcomes ++ [valid] }
    ReportsLastTwo g' ∧ FaultInvariant (r.1, g') := by
  intro g'
  have hinit : r.1.initalised = valid := hc.initalised
  have hlast : g'.outcomes.getLast? = some valid := by simp [g']
  have hbefore : g'.outcomes.dropLast = g.outcomes := by simp [g']
  have hfault : g'.fault =
      if s.initalised then g.fault else if valid then .none else .invFault := hc.fault
  have hreports : ReportsLastTwo g' := by
    unfold ReportsLastTwo
    simp only [hlast, hbefore, hfault, ← hI.initalised]
    by_cases hi : s.initalised = true
    · have hnone : g.fault = .none := hI.fault hi
      simp [hi, hnone]
    · cases valid <;> simp [hi]
  refine ⟨hreports, ?_, fun hi => ?_⟩
  · simp [hinit, hlast]
  · rw [hreports, hlast, ← hinit]
    simp only at hi
    simp [hi]

/-- A resumption that ends no exchange keeps the invariant. -/
theorem faultInvariant_of_concluded {s : State I} {g : Reports} {r : State I × List Out}
    (hI : FaultInvariant (s, g)) (hc : Concluded s none g.fault r) :
    FaultInvariant (r.1, { fault := faultAfter g.fault r.2, outcomes := g.outcomes ++ [] }) := by
  have hinit : r.1.initalised = s.initalised := hc.initalised
  have hfault : faultAfter g.fault r.2 = g.fault := by rw [hc.fault]; simp
  refine ⟨?_, fun hi => ?_⟩
  · simpa [hinit] using hI.initalised
  · rw [hfault]
    exact hI.fault (hinit ▸ hi)

/-- **The reported fault**: in every run, after every exchange that reaches the
end of the loop body the fault is `InvFault` if neither that exchange nor the one
before it was positive, and `None` otherwise. -/
theorem fault_eq_reported {cfg : Features} {parser : Parser I F B X} (inverter : I) (fault : Fault)
    (is : List (Statics F B × Input)) :
    (faultMachine cfg parser).Along
      (fun p i _ p' => ended parser i.1 p.1 i.2 ≠ none → ReportsLastTwo p'.2)
      (.start inverter, { fault, outcomes := [] }) is := by
  refine Machine.along_of_invariant (I := FaultInvariant) ?_ ?_
  · rintro ⟨s, g⟩ ⟨st, input⟩ ⟨s', g'⟩ os hI hstep
    obtain ⟨hs, hg⟩ := Machine.withHistory_step_eq_some.mp hstep
    have hc := concluded_inverterRx (r := (s', os)) hs g.fault
    dsimp only at hg ⊢
    subst hg
    cases he : ended parser st s input with
    | none =>
        rw [he] at hc
        exact ⟨fun h => absurd rfl h, faultInvariant_of_concluded hI hc⟩
    | some valid =>
        rw [he] at hc
        obtain ⟨hreports, hI'⟩ := reportsLastTwo_of_concluded hI hc
        exact ⟨fun _ => hreports, hI'⟩
  · exact ⟨by simp [State.start], by simp [State.start]⟩

/-! ### A refused exchange after a good one -/

/-- An inverter crate that answers data frames and refuses remote ones. -/
def refusesRemote : Parser Unit Rat Unit Unit := fun frame _ _ inverter =>
  if frame.data.isSome then (.ok [], inverter) else (.error (.badId 0x1871), inverter)

/-- One good exchange and one refused, with the pack just heard. -/
def goodThenRefused : List (Statics Rat Unit × Input) :=
  let heard : Statics Rat Unit := { (default : Statics Rat Unit) with lastBmsMessage := some 0 }
  [(heard, .frame inverterFrame), (heard, .frame { inverterFrame with data := none })]

/-- The first refused exchange after a good one reports nothing. -/
theorem not_reportsLast :
    ¬ ∀ is, (faultMachine default refusesRemote).Along
        (fun p i _ p' => ended refusesRemote i.1 p.1 i.2 ≠ none → ReportsLast p'.2)
        (.start (), { fault := .none, outcomes := [] }) is := by
  intro h
  obtain ⟨_, hrefused, _⟩ := h goodThenRefused
  have hlast : ReportsLast { fault := .none, outcomes := [true, false] } := hrefused nofun
  simp [ReportsLast] at hlast

end Toucan.Solax
