import Toucan.Tasks.SolaxFault

/-!
# Toucan.Tasks.SolaxInputs

What the Solax/FoxESS loop lets other nodes do.  Its identifier filter looks at
extended identifiers only, so a standard frame goes the way of a request of the
inverter, to the staleness test and to the parser.

`observed_eq` compares two runs that differ in frames of other nodes.  A run is
brought to the form `exchanges`, one pass over the frames of the inverter, of
which a loop that is still sending owes the end (`flush`).
-/

namespace Toucan.Solax

open Inverter

/-! ## Frames of the inverter -/

/-- A request of the inverter: an extended frame with id 0x1871. -/
def fromInverter (frame : Frame) : Bool :=
  match frame.id with
  | .extended id => id.asRaw == 0x1871
  | .standard _ => false

/-- The requests of the inverter in a run, each with the cells as they were. -/
def inverterFrames (is : List (Statics F B × Input)) : List (Statics F B × Frame) :=
  is.filterMap fun
    | (st, .frame frame) => if fromInverter frame then some (st, frame) else none
    | (_, .sent) => none

@[simp] theorem inverterFrames_sent (st : Statics F B) (is : List (Statics F B × Input)) :
    inverterFrames ((st, .sent) :: is) = inverterFrames is := by
  simp [inverterFrames]

theorem inverterFrames_request (st : Statics F B) (is : List (Statics F B × Input))
    (h : fromInverter frame = true) :
    inverterFrames ((st, .frame frame) :: is) = (st, frame) :: inverterFrames is := by
  simp [inverterFrames, h]

theorem inverterFrames_other (st : Statics F B) (is : List (Statics F B × Input))
    (h : fromInverter frame = false) :
    inverterFrames ((st, .frame frame) :: is) = inverterFrames is := by
  simp [inverterFrames, h]

/-- What the surroundings see of the loop: frames sent to the inverter, commands
to the contactor, and reports to `GLOBALSTATE`. -/
def observed (os : List Out) : List Out := os.filter (· != .sendMqtt)

@[simp] theorem observed_nil : observed [] = [] := rfl

@[simp] theorem observed_append (os ps : List Out) :
    observed (os ++ ps) = observed os ++ observed ps := by
  simp [observed]

/-! ## Standard frames nobody notices -/

/-- A standard frame goes unnoticed if the pack was heard recently and the parser
keeps its state and skips the frame -- or, in a build that gives no commands, if
the pack was not heard recently, or the loop is `initalised` and the parser has
nothing to send and no complaint. -/
def Unnoticed (cfg : Features) (parser : Parser I F B X) (st : Statics F B) (s : State I)
    (frame : Frame) : Prop :=
  if st.fresh then
    let r := parser frame st.bms true s.inverter
    r.2 = s.inverter ∧
      (verdict r.1 = none ∨ cfg.teslaM3 = true ∧ s.initalised = true ∧ endsWith r.1 = some true)
  else cfg.teslaM3 = true

/-- Standard frames go unnoticed whenever they arrive. -/
def OthersUnnoticed (cfg : Features) (parser : Parser I F B X) (s : State I)
    (i : Statics F B × Input) : Prop :=
  ∀ frame id, i.2 = .frame frame → frame.id = .standard id → Unnoticed cfg parser i.1 s frame

/-- An answer that leaves no mark. -/
theorem handleResponse_silent_iff (cfg : Features) (s : State I) (r : Response X)
    (hs : s.sending = none) :
    (observed (handleResponse cfg s r).2 = [] ∧ (handleResponse cfg s r).1 = s) ↔
      verdict r = none ∨ cfg.teslaM3 = true ∧ s.initalised = true ∧ endsWith r = some true := by
  obtain ⟨inverter, initalised, sending⟩ := s
  dsimp only at hs
  subst hs
  cases r with
  | ok frames =>
      cases frames with
      | nil =>
          cases initalised <;> cases hm : cfg.mqtt <;> cases ht : cfg.teslaM3 <;>
            simp [handleResponse, sendFrames, endExchange, contactorSignal, observed, verdict,
              endsWith, hm, ht]
      | cons frame rest => simp [handleResponse, sendFrames, verdict, endsWith]
  | error e =>
      cases e <;> cases initalised <;> cases ht : cfg.teslaM3 <;>
        simp [handleResponse, endExchange, contactorSignal, observed, verdict, endsWith, ht]

theorem handleResponse_inverter (cfg : Features) (s : State I) (r : Response X) :
    (handleResponse cfg s r).1.inverter = s.inverter := by
  cases r with
  | ok frames => cases frames <;> simp [handleResponse, sendFrames, endExchange]
  | error e => cases e <;> simp [handleResponse, endExchange]

theorem receive_of_fresh {cfg : Features} {parser : Parser I F B X} {st : Statics F B}
    {s : State I} (hw : wanted frame = true) (hf : st.fresh = true) :
    receive cfg parser st s frame =
      handleResponse cfg { s with inverter := (parser frame st.bms true s.inverter).2 }
        (parser frame st.bms true s.inverter).1 := by
  unfold Statics.fresh at hf
  cases hl : st.lastBmsMessage with
  | none => simp [hl] at hf
  | some time =>
      have ht : st.readingTimedOut time = false := by simpa [hl] using hf
      simp [receive, hw, hl, ht]

theorem receive_of_not_fresh {cfg : Features} {parser : Parser I F B X} {st : Statics F B}
    {s : State I} (hw : wanted frame = true) (hf : st.fresh = false) :
    receive cfg parser st s frame = (s, contactorSignal cfg false) := by
  unfold Statics.fresh at hf
  cases hl : st.lastBmsMessage with
  | none => simp [receive, hw, hl]
  | some time =>
      have ht : st.readingTimedOut time = true := by simpa [hl] using hf
      simp [receive, hw, hl, ht]

/-- **Step lemma**: a standard frame goes unnoticed exactly when nothing is
observed and the loop is as it was. -/
theorem unnoticed_iff {cfg : Features} {parser : Parser I F B X} {st : Statics F B} {s : State I}
    {id : StandardId} (hs : s.sending = none) (hid : frame.id = .standard id) :
    (observed (receive cfg parser st s frame).2 = [] ∧ (receive cfg parser st s frame).1 = s) ↔
      Unnoticed cfg parser st s frame := by
  have hw : wanted frame = true := by simp [wanted, hid]
  unfold Unnoticed
  cases hf : st.fresh with
  | false =>
      rw [receive_of_not_fresh hw hf]
      cases ht : cfg.teslaM3 <;> simp [contactorSignal, observed, ht]
  | true =>
      rw [receive_of_fresh hw hf]
      by_cases hinv : (parser frame st.bms true s.inverter).2 = s.inverter
      · simpa [hinv] using handleResponse_silent_iff cfg s _ hs
      · have hchanged : (handleResponse cfg
            { s with inverter := (parser frame st.bms true s.inverter).2 }
            (parser frame st.bms true s.inverter).1).1 ≠ s := by
          intro heq
          have hkept := handleResponse_inverter cfg
            { s with inverter := (parser frame st.bms true s.inverter).2 }
            (parser frame st.bms true s.inverter).1
          simp only [heq] at hkept
          exact hinv hkept.symm
        simp [hinv, hchanged]

/-- A frame of another node goes unnoticed, with a standard identifier by
`Unnoticed` and with an extended one always. -/
theorem receive_other {cfg : Features} {parser : Parser I F B X} {st : Statics F B} {s : State I}
    (hs : s.sending = none) (hother : fromInverter frame = false)
    (hunnoticed : ∀ id, frame.id = .standard id → Unnoticed cfg parser st s frame) :
    observed (receive cfg parser st s frame).2 = [] ∧ (receive cfg parser st s frame).1 = s := by
  cases hid : frame.id with
  | standard id => exact (unnoticed_iff hs hid).mpr (hunnoticed id hid)
  | extended id =>
      have hw : wanted frame = false := by simpa [fromInverter, wanted, hid] using hother
      simp [receive, hw]

/-! ## A run as a pass over the requests -/

/-- The loop once it has sent what it is sending, and what it does until then. -/
def flush (cfg : Features) (s : State I) : State I × List Out :=
  match s.sending with
  | none => (s, [])
  | some (frame, rest) =>
    let r := sendFrames cfg s []
    (r.1, (frame :: rest).map .send ++ r.2)

/-- A request and all that follows from it. -/
def exchange (cfg : Features) (parser : Parser I F B X) (s : State I)
    (request : Statics F B × Frame) : State I × List Out :=
  let r := receive cfg parser request.1 s request.2
  let q := flush cfg r.1
  (q.1, r.2 ++ q.2)

/-- One request after the other. -/
def exchanges (cfg : Features) (parser : Parser I F B X) (s : State I) :
    List (Statics F B × Frame) → State I × List Out
  | [] => (s, [])
  | request :: rest =>
    let r := exchange cfg parser s request
    let q := exchanges cfg parser r.1 rest
    (q.1, r.2 ++ q.2)

theorem flush_of_waiting (cfg : Features) {s : State I} (h : s.sending = none) :
    flush cfg s = (s, []) := by
  simp [flush, h]

/-- A frame sent is a piece of what `flush` does. -/
theorem flush_sent (cfg : Features) {s : State I} (h : s.sending = some (frame, rest)) :
    flush cfg s =
      ((flush cfg (sendFrames cfg s rest).1).1,
        .send frame :: (sendFrames cfg s rest).2 ++ (flush cfg (sendFrames cfg s rest).1).2) := by
  cases rest with
  | nil => simp [flush, h, sendFrames, endExchange]
  | cons f rest => simp [flush, h, sendFrames, endExchange]

/-- A run without noticed frames of others, with what is still to be sent, is one
pass over the requests of the inverter. -/
theorem run_eq_exchanges {cfg : Features} {parser : Parser I F B X} {s t : State I}
    {is : List (Statics F B × Input)}
    (hunnoticed : (machine cfg parser).Along (fun s i _ _ => OthersUnnoticed cfg parser s i) s is)
    (hrun : (machine cfg parser).run s is = some (t, os)) :
    observed os ++ observed (flush cfg t).2 =
      observed (flush cfg s).2 ++
        observed (exchanges cfg parser (flush cfg s).1 (inverterFrames is)).2 := by
  induction is generalizing s os with
  | nil =>
      simp only [Machine.run_nil, Option.some.injEq, Prod.mk.injEq] at hrun
      obtain ⟨rfl, rfl⟩ := hrun
      simp [inverterFrames, exchanges]
  | cons i is ih =>
      obtain ⟨st, input⟩ := i
      obtain ⟨s', os', qs, hs, hrun', rfl⟩ := Machine.run_cons_eq_some.mp hrun
      obtain ⟨hnow, hlater⟩ := (Machine.along_cons_of_step hs).mp hunnoticed
      have hrest := ih hlater hrun'
      rw [observed_append, List.append_assoc, hrest]
      cases input with
      | sent =>
          cases hsending : s.sending with
          | none => simp [machine, inverterRx, hsending] at hs
          | some q =>
              obtain ⟨frame, rest⟩ := q
              simp only [machine, inverterRx, hsending, Option.some.injEq, Prod.mk.injEq] at hs
              obtain ⟨rfl, rfl⟩ := hs
              rw [inverterFrames_sent, flush_sent cfg hsending, observed_append, List.append_assoc]
      | frame frame =>
          cases hsending : s.sending with
          | some q => simp [machine, inverterRx, hsending] at hs
          | none =>
              simp only [machine, inverterRx, hsending, Option.some.injEq] at hs
              rw [flush_of_waiting cfg hsending]
              cases hfrom : fromInverter frame with
              | true =>
                  rw [inverterFrames_request st is hfrom]
                  simp [exchanges, exchange, hs]
              | false =>
                  have hsilent := receive_other hsending hfrom fun id => hnow frame id rfl
                  simp only [hs] at hsilent
                  obtain ⟨hobs, rfl⟩ := hsilent
                  rw [inverterFrames_other st is hfrom, hobs, flush_of_waiting cfg hsending]
                  simp

/-! ## Two runs -/

/-- **Frames of other nodes**: two runs with the same requests of the inverter, in
which the standard frames go unnoticed, show the same to the surroundings -- all
of it when neither is still sending, and otherwise as far as each has come. -/
theorem observed_eq {cfg : Features} {parser : Parser I F B X} {inverter : I} {s t : State I}
    {xs ys : List (Statics F B × Input)}
    (hx : (machine cfg parser).run (.start inverter) xs = some (s, os))
    (hy : (machine cfg parser).run (.start inverter) ys = some (t, ps))
    (hsame : inverterFrames xs = inverterFrames ys)
    (hxs : (machine cfg parser).Along (fun s i _ _ => OthersUnnoticed cfg parser s i)
      (.start inverter) xs)
    (hys : (machine cfg parser).Along (fun s i _ _ => OthersUnnoticed cfg parser s i)
      (.start inverter) ys) :
    (observed os <+: observed ps ∨ observed ps <+: observed os) ∧
      (s.sending = none → t.sending = none → observed os = observed ps) := by
  have hos := run_eq_exchanges hxs hx
  have hps := run_eq_exchanges hys hy
  rw [← hsame, ← hos] at hps
  obtain ⟨hcompare, heq⟩ := Machine.compare_of_append_eq hps.symm
  refine ⟨hcompare, fun hs ht => heq ?_ ?_⟩
  · simp [flush_of_waiting cfg hs]
  · simp [flush_of_waiting cfg ht]

/-! ### A standard frame before the pack is heard -/

/-- A frame with the standard identifier 0x351. -/
def standardFrame : Frame := { id := .standard ⟨0x351, by decide⟩, data := some .zeros }

/-- An inverter crate that skips frames of other nodes. -/
def skipsOthers : Parser Unit Rat Unit Unit := fun frame _ _ inverter =>
  if fromInverter frame then (.ok [frame], inverter) else (.error .unwantedFrame, inverter)

def heardNow : Statics Rat Unit := { now := 0, lastBmsMessage := some 0, bms := default }

/-- A request, and the answer sent. -/
def answeredRequest : List (Statics Rat Unit × Input) :=
  [(heardNow, .frame inverterFrame), (heardNow, .sent)]

/-- A request with a skipped frame before it, and without. -/
theorem observed_eq_skipped :
    ∃ (s t : State Unit) (os ps : List Out),
      (machine default skipsOthers).run (.start ())
          ((heardNow, .frame standardFrame) :: answeredRequest) = some (s, os) ∧
      (machine default skipsOthers).run (.start ()) answeredRequest = some (t, ps) ∧
      observed os = observed ps := by
  have hy : (machine default skipsOthers).run (.start ()) answeredRequest =
      some ({ inverter := (), initalised := true, sending := none },
        [.send inverterFrame, .setFault .none, .contactorState false]) := rfl
  have hx : (machine default skipsOthers).run (.start ())
      ((heardNow, .frame standardFrame) :: answeredRequest) =
      some ({ inverter := (), initalised := true, sending := none },
        [.send inverterFrame, .setFault .none, .contactorState false]) := rfl
  refine ⟨_, _, _, _, hx, hy, (observed_eq hx hy rfl ?_ ?_).2 rfl rfl⟩
  · refine ⟨?_, ?_, ?_, trivial⟩
    · rintro frame id hf -
      obtain rfl := Input.frame.inj hf
      exact ⟨rfl, Or.inl rfl⟩
    · rintro frame id hf hid
      obtain rfl := Input.frame.inj hf
      contradiction
    · rintro frame id hf -
      contradiction
  · refine ⟨?_, ?_, trivial⟩
    · rintro frame id hf hid
      obtain rfl := Input.frame.inj hf
      contradiction
    · rintro frame id hf -
      contradiction

/-- One standard frame before the pack was heard commands the contactor. -/
theorem not_observed_eq :
    ¬ ∀ (xs ys : List (Statics Rat Unit × Input)) (s t : State Unit) (os ps : List Out),
      (machine default skipsOthers).run (.start ()) xs = some (s, os) →
      (machine default skipsOthers).run (.start ()) ys = some (t, ps) →
      inverterFrames xs = inverterFrames ys → s.sending = none → t.sending = none →
      observed os = observed ps := by
  intro h
  have hobs := h [(default, .frame standardFrame)] [] _ _ [.contactorState false] [] rfl rfl rfl
    rfl rfl
  simp [observed] at hobs

end Toucan.Solax
