import Toucan.Tasks.Inverter
import Toucan.Lib.Machine

/-!
# Toucan.Tasks.Solax

The Solax/FoxESS inverter loop (`can_processors_solax.rs`).  The inverter asks,
the loop answers from the state of the pack, and commands the contactor at the
end of every exchange.

The loop is modelled from one await point to the next: a received frame is
handled in one step up to the answer, whose frames are then queued one by one
(`State.sending`), and the exchange ends when the last one is queued.  The
protocol crate's `parser` is a parameter.
-/

namespace Toucan.Solax

open Inverter

/-! ## The loop -/

/-- Errors of the protocol crate; `other` are those the loop only warns about. -/
inductive InverterError (X : Type) where
  | invalidFrameEncode (id : UInt32)
  | badId (id : UInt32)
  | timeStamp (time : Vector UInt8 6)
  | unwantedFrame
  | other (error : X)

/-- `inverter.parser(frame, &bms, true)`, on a parser state `I`. -/
abbrev Parser (I F B X : Type) :=
  Frame → Bms F B → Bool → Method I (InverterError X) (List Frame)

/-- Locals of the loop; `sending` is the frame whose `sender.send` is awaited and
those after it, `none` while the loop waits for a frame. -/
structure State (I : Type) where
  inverter : I
  initalised : Bool
  sending : Option (Frame × List Frame)
deriving Inhabited

def State.start (inverter : I) : State I := { inverter, initalised := false, sending := none }

/-- The identifier filter: it looks at extended identifiers only. -/
def wanted (frame : Frame) : Bool :=
  match frame.id with
  | .extended id => id.asRaw == 0x1871
  | .standard _ => true

/-- `CONTACTOR_STATE.signal`, compiled out on `tesla_m3`. -/
def contactorSignal (cfg : Features) (closed : Bool) : List Out :=
  if cfg.teslaM3 then [] else [.contactorState closed]

/-- The bottom of the loop body, with `inverter_comms_valid` as given. -/
def endExchange (cfg : Features) (s : State I) (inverterCommsValid : Bool) :
    State I × List Out :=
  let fault : List Out :=
    if !s.initalised then [.setFault (if inverterCommsValid then .none else .invFault)] else []
  ({ s with initalised := inverterCommsValid, sending := none },
    -- waits for 2 positive results before activating contactor
    fault ++ contactorSignal cfg (inverterCommsValid && s.initalised))

/-- Queue the frames of an answer; the exchange ends after the last. -/
def sendFrames (cfg : Features) (s : State I) : List Frame → State I × List Out
  | [] =>
    let r := endExchange cfg s true
    (r.1, (if cfg.mqtt then [.sendMqtt] else []) ++ r.2)
  | frame :: rest => ({ s with sending := some (frame, rest) }, [])

/-- What `parser` answers. -/
abbrev Response (X : Type) := Except (InverterError X) (List Frame)

/-- `match response`, up to the first suspension. -/
def handleResponse (cfg : Features) (s : State I) : Response X → State I × List Out
  | .ok frames => sendFrames cfg s frames
  | .error (.invalidFrameEncode _) => endExchange cfg s false -- disable contactor
  | .error (.badId _) => endExchange cfg s false -- disable contactor
  | .error (.timeStamp _) => (s, [])
  | .error .unwantedFrame => (s, [])
  | .error (.other _) => endExchange cfg s true

/-- One pass of the loop body over `frame`, up to the first suspension. -/
def receive (cfg : Features) (parser : Parser I F B X) (st : Statics F B) (s : State I)
    (frame : Frame) : State I × List Out :=
  if !wanted frame then (s, [])
  else
    match st.lastBmsMessage with
    | some time =>
      if st.readingTimedOut time then (s, contactorSignal cfg false)
      else
        -- an invalid `BMS` is only warned about
        let r := parser frame st.bms true s.inverter
        handleResponse cfg { s with inverter := r.2 } r.1
    | none => (s, contactorSignal cfg false)

/-- `inverter_rx` from one await point to the next. -/
def inverterRx (cfg : Features) (parser : Parser I F B X) (st : Statics F B) (s : State I) :
    Input → Option (State I × List Out)
  | .frame frame =>
    match s.sending with
    | some _ => none
    | none => some (receive cfg parser st s frame)
  | .sent =>
    match s.sending with
    | some (frame, rest) =>
      let r := sendFrames cfg s rest
      some (r.1, .send frame :: r.2)
    | none => none

/-- The loop in any surroundings: every input comes with the cells as they are. -/
def machine (cfg : Features) (parser : Parser I F B X) :
    Machine (State I) (Statics F B × Input) Out where
  step s i := inverterRx cfg parser i.1 s i.2

/-! ## Exchange attempts -/

/-- How a frame that asks for an exchange was dealt with: answered, refused as a
critical error, or cut off before the parser because the pack is stale or was
never seen. -/
inductive Attempt where
  | positive
  | negative
  | cutOff
deriving DecidableEq

/-- The attempt an answer of `parser` makes; the skipped answers make none. -/
def verdict : Response X → Option Attempt
  | .ok _ => some .positive
  | .error (.invalidFrameEncode _) => some .negative
  | .error (.badId _) => some .negative
  | .error (.timeStamp _) => none
  | .error .unwantedFrame => none
  | .error (.other _) => some .positive

/-- The attempt `frame` makes; `none` for a filtered or skipped frame. -/
def attempt (parser : Parser I F B X) (st : Statics F B) (s : State I) (frame : Frame) :
    Option Attempt :=
  if !wanted frame then none
  else
    match st.lastBmsMessage with
    | some time =>
      if st.readingTimedOut time then some .cutOff
      else verdict (parser frame st.bms true s.inverter).1
    | none => some .cutOff

/-- The answer has no frame to queue. -/
def queuesNothing : Response X → Bool
  | .ok frames => frames.isEmpty
  | .error _ => true

/-- This resumption ends a positive exchange. -/
def endsPositive (parser : Parser I F B X) (st : Statics F B) (s : State I) : Input → Bool
  | .frame frame =>
    attempt parser st s frame == some .positive &&
      queuesNothing (parser frame st.bms true s.inverter).1
  | .sent =>
    match s.sending with
    | some (_, rest) => rest.isEmpty
    | none => false

/-! ## What a step can do -/

theorem sendFrames_nil (cfg : Features) (s : State I) :
    (sendFrames cfg s []).1 = (endExchange cfg s true).1 ∧
      ∃ pre, (∀ closed, Out.contactorState closed ∉ pre) ∧
        (sendFrames cfg s []).2 = pre ++ (endExchange cfg s true).2 := by
  refine ⟨rfl, if cfg.mqtt then [.sendMqtt] else [], fun closed hm => ?_, rfl⟩
  split at hm <;> simp at hm

/-- What the loop does for each kind of attempt; the flag tells whether there is
nothing to queue for it. -/
inductive Handled (cfg : Features) (s : State I) : Option Attempt → Bool → State I × List Out → Prop
  | skipped (inverter : I) (nothing : Bool) : Handled cfg s none nothing ({ s with inverter }, [])
  | cutOff (nothing : Bool) : Handled cfg s (some .cutOff) nothing (s, contactorSignal cfg false)
  | refused (inverter : I) (nothing : Bool) :
      Handled cfg s (some .negative) nothing (endExchange cfg { s with inverter } false)
  | ended (inverter : I) (pre : List Out) (hpre : ∀ closed, Out.contactorState closed ∉ pre) :
      Handled cfg s (some .positive) true
        ((endExchange cfg { s with inverter } true).1,
          pre ++ (endExchange cfg { s with inverter } true).2)
  | answering (inverter : I) (frame : Frame) (rest : List Frame) :
      Handled cfg s (some .positive) false ({ s with inverter, sending := some (frame, rest) }, [])

theorem handled_handleResponse (cfg : Features) (s : State I) (inverter : I) (r : Response X) :
    Handled cfg s (verdict r) (queuesNothing r) (handleResponse cfg { s with inverter } r) := by
  cases r with
  | ok frames =>
      cases frames with
      | nil =>
          obtain ⟨hst, pre, hpre, hos⟩ := sendFrames_nil cfg { s with inverter }
          have hr : handleResponse cfg { s with inverter } (.ok [] : Response X)
              = ((endExchange cfg { s with inverter } true).1,
                pre ++ (endExchange cfg { s with inverter } true).2) := by
            rw [← hst, ← hos]
            rfl
          rw [hr]
          exact .ended inverter pre hpre
      | cons frame rest => exact .answering inverter frame rest
  | error e =>
      cases e with
      | invalidFrameEncode id => exact .refused inverter _
      | badId id => exact .refused inverter _
      | timeStamp time => exact .skipped inverter _
      | unwantedFrame => exact .skipped inverter _
      | other x => exact .ended inverter [] (by simp)

/-- **Step lemma**: every frame is handled in one of the ways of `Handled`. -/
theorem handled_receive (cfg : Features) (parser : Parser I F B X) (st : Statics F B)
    (s : State I) (frame : Frame) :
    Handled cfg s (attempt parser st s frame)
      (queuesNothing (parser frame st.bms true s.inverter).1)
      (receive cfg parser st s frame) := by
  unfold receive attempt
  by_cases hw : wanted frame = true
  · simp only [hw, Bool.not_true, Bool.false_eq_true, if_false]
    cases hl : st.lastBmsMessage with
    | none => exact .cutOff _
    | some time =>
        by_cases ht : st.readingTimedOut time = true
        · simp only [ht, if_true]
          exact .cutOff _
        · simp only [ht]
          exact handled_handleResponse cfg s _ _
  · simp only [hw, Bool.not_false, if_true]
    exact .skipped s.inverter _

/-- The two ways the loop is resumed, with what each does. -/
theorem inverterRx_cases {cfg : Features} {parser : Parser I F B X} {st : Statics F B}
    {s : State I} (h : inverterRx cfg parser st s input = some r) :
    (∃ frame, input = .frame frame ∧ s.sending = none ∧
        Handled cfg s (attempt parser st s frame)
          (queuesNothing (parser frame st.bms true s.inverter).1) r) ∨
      ∃ frame rest, input = .sent ∧ s.sending = some (frame, rest) ∧
        r = ((sendFrames cfg s rest).1, .send frame :: (sendFrames cfg s rest).2) := by
  cases input with
  | frame frame =>
      cases hs : s.sending with
      | some q => simp [inverterRx, hs] at h
      | none =>
          simp only [inverterRx, hs, Option.some.injEq] at h
          exact Or.inl ⟨frame, rfl, rfl, h ▸ handled_receive cfg parser st s frame⟩
  | sent =>
      cases hs : s.sending with
      | none => simp [inverterRx, hs] at h
      | some q =>
          obtain ⟨frame, rest⟩ := q
          simp only [inverterRx, hs, Option.some.injEq] at h
          exact Or.inr ⟨frame, rest, rfl, rfl, h.symm⟩

/-- An exchange commands `true` only when it is positive, the loop was
`initalised` before it, and the build signals at all. -/
theorem mem_endExchange (cfg : Features) (s : State I) (inverterCommsValid : Bool) :
    Out.contactorState true ∈ (endExchange cfg s inverterCommsValid).2 ↔
      cfg.teslaM3 = false ∧ inverterCommsValid = true ∧ s.initalised = true := by
  unfold endExchange contactorSignal
  cases cfg.teslaM3 <;> cases inverterCommsValid <;> cases s.initalised <;> simp

/-- The contactor is closed exactly when a positive exchange ends in an
`initalised` loop, on a build that signals. -/
theorem closes_iff {cfg : Features} {parser : Parser I F B X} {st : Statics F B} {s : State I}
    (h : inverterRx cfg parser st s input = some r) :
    Out.contactorState true ∈ r.2 ↔
      cfg.teslaM3 = false ∧ endsPositive parser st s input = true ∧ s.initalised = true := by
  rcases inverterRx_cases h with ⟨frame, rfl, _, hh⟩ | ⟨frame, rest, rfl, hsome, hr⟩
  · simp only [endsPositive]
    generalize attempt parser st s frame = att at hh ⊢
    generalize queuesNothing (parser frame st.bms true s.inverter).1 = nothing at hh ⊢
    cases hh with
    | skipped inverter => simp
    | cutOff => simp [contactorSignal]
    | refused inverter => simp [mem_endExchange]
    | ended inverter pre hpre =>
        rw [List.mem_append, mem_endExchange]
        simp [hpre]
    | answering inverter f rest => simp
  · simp only [hr, endsPositive, hsome]
    cases rest with
    | cons f rest => simp [sendFrames]
    | nil =>
        obtain ⟨_, pre, hpre, hos⟩ := sendFrames_nil cfg s
        rw [hos, List.mem_cons, List.mem_append, mem_endExchange]
        simp [hpre]

/-! ## The two-positives rule -/

/-- A frame adds the attempt it makes, if any. -/
def attemptsAfter (parser : Parser I F B X) (attempts : List Attempt) (s : State I) :
    Statics F B × Input → List Attempt
  | (st, .frame frame) => attempts ++ (attempt parser st s frame).toList
  | (_, .sent) => attempts

/-- The attempts so far, the current one included. -/
def attemptMachine (cfg : Features) (parser : Parser I F B X) :
    Machine (State I × List Attempt) (Statics F B × Input) Out :=
  (machine cfg parser).withHistory fun attempts s i _ => attemptsAfter parser attempts s i

/-- The last attempt before the one `input` belongs to. -/
def before (attempts : List Attempt) : Input → Option Attempt
  | .frame _ => attempts.getLast?
  | .sent => attempts.dropLast.getLast?

/-- The contactor is closed on two positive attempts in a row. -/
def TwoPositives (os : List Out) (p' : State I × List Attempt) : Prop :=
  Out.contactorState true ∈ os → ∃ earlier, p'.2 = earlier ++ [.positive, .positive]

/-- No positive exchange ends on an `initalised` flag left over by a cut-off
attempt. -/
def NoCutOffBetween (cfg : Features) (parser : Parser I F B X) (p : State I × List Attempt)
    (i : Statics F B × Input) : Prop :=
  cfg.teslaM3 = false → endsPositive parser i.1 p.1 i.2 = true → p.1.initalised = true →
    before p.2 i.2 ≠ some .cutOff

/-- The attempts whose exchange is over. -/
def completed (p : State I × List Attempt) : List Attempt :=
  if p.1.sending.isSome then p.2.dropLast else p.2

/-- A frame being queued belongs to a positive attempt; `initalised` remembers a
positive attempt, over any number of cut-off ones. -/
structure AttemptInvariant (p : State I × List Attempt) : Prop where
  sending : p.1.sending.isSome = true → p.2.getLast? = some .positive
  initalised : p.1.initalised = true →
    ((completed p).filter (· ≠ .cutOff)).getLast? = some .positive

theorem append_positive_iff {l : List Attempt} :
    (∃ earlier, l ++ [.positive] = earlier ++ [.positive, .positive]) ↔
      l.getLast? = some .positive := by
  rw [List.getLast?_eq_some_iff]
  constructor
  · rintro ⟨earlier, h⟩
    have h' : l ++ [.positive] = (earlier ++ [.positive]) ++ [.positive] := by simpa using h
    exact ⟨earlier, List.append_cancel_right h'⟩
  · rintro ⟨earlier, rfl⟩
    exact ⟨earlier, by simp⟩

/-- Past the cut-off attempts the last one is positive: then the last one of all
is positive or cut off. -/
theorem getLast?_ne_cutOff_iff {l : List Attempt}
    (h : (l.filter (· ≠ .cutOff)).getLast? = some .positive) :
    l.getLast? ≠ some .cutOff ↔ l.getLast? = some .positive := by
  rcases List.eq_nil_or_concat l with rfl | ⟨earlier, last, rfl⟩
  · simp at h
  · cases last with
    | positive => simp
    | negative => simp at h
    | cutOff => simp

theorem attemptInvariant_endExchange (cfg : Features) (s : State I) (l : List Attempt) :
    AttemptInvariant ((endExchange cfg s true).1, l ++ [.positive]) where
  sending := fun h => by simp [endExchange] at h
  initalised := fun _ => by simp [completed, endExchange]

/-- The attempts when a positive exchange ends: the last one is its own, and
before it `initalised` remembers a positive one. -/
theorem attempts_of_endsPositive {parser : Parser I F B X} {st : Statics F B} {s : State I}
    {l : List Attempt} (hI : AttemptInvariant (s, l))
    (henabled : inverterRx cfg parser st s input = some r)
    (hends : endsPositive parser st s input = true) (hi : s.initalised = true) :
    ∃ earlier, attemptsAfter parser l s (st, input) = earlier ++ [.positive] ∧
      before l input = earlier.getLast? ∧
      (earlier.filter (· ≠ .cutOff)).getLast? = some .positive := by
  have hflag := hI.initalised hi
  rcases inverterRx_cases henabled with ⟨frame, rfl, hnone, _⟩ | ⟨frame, rest, rfl, hsome, _⟩
  · obtain ⟨hatt, _⟩ := (Bool.and_eq_true _ _).mp hends
    refine ⟨l, ?_, rfl, by simpa [completed, hnone] using hflag⟩
    simp [attemptsAfter, eq_of_beq hatt]
  · have hlast : l.getLast? = some .positive := hI.sending (by simp [hsome])
    obtain ⟨earlier, rfl⟩ := List.getLast?_eq_some_iff.mp hlast
    exact ⟨earlier, rfl, by simp [before], by simpa [completed, hsome] using hflag⟩

/-- What a frame that is handled adds to the attempts. -/
theorem attemptInvariant_handled {cfg : Features} {s : State I} {att : Option Attempt}
    {nothing : Bool} {r : State I × List Out} {l : List Attempt}
    (hh : Handled cfg s att nothing r) (hI : AttemptInvariant (s, l)) (hnone : s.sending = none) :
    AttemptInvariant (r.1, l ++ att.toList) := by
  have hflag : s.initalised = true → (l.filter (· ≠ .cutOff)).getLast? = some .positive := by
    simpa [completed, hnone] using hI.initalised
  cases hh with
  | skipped inverter =>
      refine ⟨fun h => by simp [hnone] at h, ?_⟩
      simpa [completed, hnone] using hflag
  | cutOff =>
      refine ⟨fun h => by simp [hnone] at h, ?_⟩
      simpa [completed, hnone] using hflag
  | refused inverter =>
      exact ⟨fun h => by simp [endExchange] at h, fun h => by simp [endExchange] at h⟩
  | ended inverter pre hpre => exact attemptInvariant_endExchange cfg _ l
  | answering inverter f rest =>
      refine ⟨fun _ => by simp, ?_⟩
      simpa [completed] using hflag

/-- What the next frame of an answer adds to the attempts. -/
theorem attemptInvariant_sendFrames (cfg : Features) {s : State I} {frame : Frame}
    {rest : List Frame} {l : List Attempt} (hI : AttemptInvariant (s, l))
    (hsome : s.sending = some (frame, rest)) :
    AttemptInvariant ((sendFrames cfg s rest).1, l) := by
  have hlast : l.getLast? = some .positive := hI.sending (by simp [hsome])
  cases rest with
  | nil =>
      obtain ⟨earlier, rfl⟩ := List.getLast?_eq_some_iff.mp hlast
      exact attemptInvariant_endExchange cfg s earlier
  | cons f rest =>
      refine ⟨fun _ => hlast, ?_⟩
      simpa [completed, sendFrames, hsome] using hI.initalised

section Runs

variable {cfg : Features} {parser : Parser I F B X}

/-- Every resumption keeps what `initalised` remembers. -/
theorem attemptInvariant_inverterRx {st : Statics F B} {s : State I} {l : List Attempt}
    (hI : AttemptInvariant (s, l)) (hs : inverterRx cfg parser st s input = some r) :
    AttemptInvariant (r.1, attemptsAfter parser l s (st, input)) := by
  rcases inverterRx_cases hs with ⟨frame, rfl, hnone, hh⟩ | ⟨frame, rest, rfl, hsome, hr⟩
  · exact attemptInvariant_handled hh hI hnone
  · rw [hr]
    exact attemptInvariant_sendFrames cfg hI hsome

/-- **Step lemma**: a step closes the contactor on two positive attempts exactly
when it does not rely on a flag left over by a cut-off one. -/
theorem twoPositives_step {p p' : State I × List Attempt} {i : Statics F B × Input}
    (hI : AttemptInvariant p) (hstep : (attemptMachine cfg parser).step p i = some (p', os)) :
    (TwoPositives os p' ↔ NoCutOffBetween cfg parser p i) ∧ AttemptInvariant p' := by
  obtain ⟨s, l⟩ := p
  obtain ⟨s', l'⟩ := p'
  obtain ⟨st, input⟩ := i
  obtain ⟨hs, hl'⟩ := Machine.withHistory_step_eq_some.mp hstep
  dsimp only [machine] at hs hl'
  rw [hl']
  refine ⟨?_, attemptInvariant_inverterRx hI hs⟩
  simp only [TwoPositives, NoCutOffBetween, closes_iff hs, and_imp]
  refine imp_congr_right fun _ => imp_congr_right fun hends => imp_congr_right fun hi => ?_
  obtain ⟨earlier, hl, hbefore, hflag⟩ := attempts_of_endsPositive hI hs hends hi
  rw [hl, hbefore, append_positive_iff, getLast?_ne_cutOff_iff hflag]

/-- **Two positives**: every command to close the contactor follows two positive
attempts in a row exactly when no positive exchange relies on an `initalised`
flag that a cut-off attempt left as it was. -/
theorem twoPositives_iff {inverter : I} {is : List (Statics F B × Input)} :
    (attemptMachine cfg parser).Along (fun _ _ os p' => TwoPositives os p')
        (.start inverter, []) is ↔
      (attemptMachine cfg parser).Along (fun p i _ _ => NoCutOffBetween cfg parser p i)
        (.start inverter, []) is := by
  refine Machine.along_iff_along (I := AttemptInvariant) ?_ ?_ ?_
  · exact fun p i p' os hI hs => (twoPositives_step hI hs).1
  · exact fun p i p' os hI hs _ => (twoPositives_step hI hs).2
  · exact ⟨fun h => by simp [State.start] at h, fun h => by simp [State.start] at h⟩

end Runs

/-! ### A cut-off between two positives -/

/-- An inverter crate that has nothing to answer and no complaint. -/
def nothingToSay : Parser Unit Rat Unit Unit := fun _ _ _ => pure []

def inverterFrame : Frame := { id := .extended ⟨0x1871, by decide⟩, data := some .zeros }

/-- Asked at once, again eleven seconds after the pack was heard, and once more
when the pack is back. -/
def cutOffBetween : List (Statics Rat Unit × Input) :=
  let heard (now time : Nat) : Statics Rat Unit :=
    { now, lastBmsMessage := some time, bms := { (default : Bms Rat Unit) with valid := true } }
  [(heard 0 0, .frame inverterFrame), (heard 360448 0, .frame inverterFrame),
    (heard 360449 360449, .frame inverterFrame)]

/-- The contactor can be closed by one positive attempt after a cut-off one. -/
theorem not_twoPositives :
    ¬ ∀ is, (attemptMachine default nothingToSay).Along (fun _ _ os p' => TwoPositives os p')
        (.start (), []) is := by
  intro h
  obtain ⟨_, _, hclosed, _⟩ := h cutOffBetween
  have hbefore := (append_positive_iff (l := [.positive, .cutOff])).mp
    (hclosed (List.mem_singleton.mpr rfl))
  simp at hbefore

end Toucan.Solax
