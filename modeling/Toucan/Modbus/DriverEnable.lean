import Toucan.Modbus.Task

/-!
# Toucan.Modbus.DriverEnable

The driver-enable pin of the RS485 line.  `transmit` raises it before its write and
lowers it after its second flush, unless one of the two fails or the timer drops
the flow there: then it stays high, in the flows that follow too.

`pinLow_iff` says that nothing else keeps it high.
-/

namespace Toucan.Modbus

/-! ## The pin, from the answers -/

/-- Only `transmit` awaits these. -/
def transmits : Op → Bool
  | .uartFlush => true
  | .uartWrite _ => true
  | _ => false

/-- A write or a flush fails. -/
def fails : (op : Op) × Ans op → Bool
  | ⟨.uartFlush, .error _⟩ => true
  | ⟨.uartWrite _, .error _⟩ => true
  | _ => false

def isWrite : (op : Op) × Ans op → Bool
  | ⟨.uartWrite _, _⟩ => true
  | _ => false

/-- The write of `transmit`, or the flush after it. -/
def driving (f : Flow) : Op → Bool
  | .uartWrite _ => true
  | .uartFlush => f.answers.any isWrite
  | _ => false

/-- The pin after these answers: the first flush raises it, the second lowers it. -/
def pinAfter (pin : Bool) (tr : Trace Ans) : Bool :=
  tr.foldl (fun pin x =>
    match x with
    | ⟨.uartFlush, .ok _⟩ => !pin
    | _ => pin) pin

theorem pinAfter_append (pin : Bool) (tr tr' : Trace Ans) :
    pinAfter pin (tr ++ tr') = pinAfter (pinAfter pin tr) tr' := List.foldl_append

/-- What the socket and the serial line hand over moves neither. -/
structure Quiet (tr : Trace Ans) : Prop where
  pin : ∀ pin, pinAfter pin tr = pin
  fails : tr.any fails = false
  isWrite : tr.any isWrite = false

theorem Quiet.append {tr tr' : Trace Ans} (h : Quiet tr) (h' : Quiet tr') :
    Quiet (tr ++ tr') where
  pin := by
    intro pin
    rw [pinAfter_append, h.pin, h'.pin]
  fails := by rw [List.any_append, h.fails, h'.fails, Bool.or_false]
  isWrite := by rw [List.any_append, h.isWrite, h'.isWrite, Bool.or_false]

theorem quiet_received (header : Vector UInt8 3) (bytes : ReadBytes) :
    Quiet (received header bytes) := by
  induction bytes with
  | nil => exact ⟨fun _ => rfl, rfl, rfl⟩
  | cons b bytes ih => exact ⟨ih.pin, ih.fails, ih.isWrite⟩

theorem quiet_arrived (got : BoundedVec UInt8 6) (reads : Client.Reads) :
    Quiet (Client.arrived got reads) := by
  induction reads with
  | nil => exact ⟨fun _ => rfl, rfl, rfl⟩
  | cons b reads ih => exact ⟨ih.pin, ih.fails, ih.isWrite⟩

/-! ## What flows do with the pin -/

/-- A flow that begins with the pin low has it high exactly while it transmits, and
leaves it high only when a write or a flush failed. -/
structure DrivesPin (I : Gateway → Trace Ans → Op → Gateway → Prop)
    (Q : Gateway → Trace Ans → Outcome Gateway (Except ModbusError Unit) → Prop) : Prop where
  first : ∀ g op g', I g [] op g' → transmits op = false ∧ g'.txEn = g.txEn
  notAtOnce : ∀ g o, ¬ Q g [] o
  awaits : ∀ g tr op g', g.txEn = false → I g tr op g' → g'.txEn = pinAfter false tr ∧
    g'.txEn = driving ⟨g, tr⟩ op ∧ tr.any fails = false
  returns : ∀ g tr result g', g.txEn = false → Q g tr (.returned result g') →
    g'.txEn = pinAfter false tr ∧ (g'.txEn = true → tr.any fails = true)
  panics : ∀ g tr g', Q g tr (.panicked g') → g'.txEn = false ∧ tr.any fails = false

/-- A flow may always end with the pin low. -/
theorem ends_low {g : Gateway} {tr : Trace Ans} (hlow : g.txEn = false)
    (hpin : pinAfter false tr = false) :
    g.txEn = pinAfter false tr ∧ (g.txEn = true → tr.any fails = true) := by
  rw [hlow, hpin]
  exact ⟨rfl, fun h => nomatch h⟩

/-! ### Bridge mode -/

/-- Once `transmit` is over, the pin stays low. -/
theorem pinAfter_sent_received (request : Vector UInt8 12) (header : Vector UInt8 3)
    (bytes : ReadBytes) : pinAfter false (sent request ++ received header bytes) = false := by
  rw [pinAfter_append, (quiet_received header bytes).pin]
  rfl

theorem fails_sent_received (request : Vector UInt8 12) (header : Vector UInt8 3)
    (bytes : ReadBytes) : (sent request ++ received header bytes).any fails = false := by
  rw [List.any_append, (quiet_received header bytes).fails]
  rfl

theorem BridgeAwait.pin {g g' : Gateway} {tr : Trace Ans} {op : Op} (h : BridgeAwait g tr op g')
    (hg : g.txEn = false) :
    g'.txEn = pinAfter false tr ∧ g'.txEn = driving ⟨g, tr⟩ op ∧ tr.any fails = false := by
  cases h with
  | listen _ ht => exact ⟨ht.trans hg, ht.trans hg, rfl⟩
  | drain request _ ht => exact ⟨ht.trans hg, ht.trans hg, rfl⟩
  | write request _ ht => exact ⟨ht, ht, rfl⟩
  | flush request _ ht => exact ⟨ht, ht, rfl⟩
  | header request _ ht => exact ⟨ht, ht, rfl⟩
  | byte request header bytes _ ht =>
      rw [pinAfter_sent_received]
      exact ⟨ht, ht, fails_sent_received request header bytes⟩
  | answer request header bytes _ ht =>
      rw [pinAfter_sent_received]
      exact ⟨ht, ht, fails_sent_received request header bytes⟩

theorem BridgeEnd.pin {g g' : Gateway} {tr : Trace Ans} {result : Except ModbusError Unit}
    (h : BridgeEnd overflowChecks g tr (.returned result g')) (hg : g.txEn = false) :
    g'.txEn = pinAfter false tr ∧ (g'.txEn = true → tr.any fails = true) := by
  cases h with
  | listen _ ht => exact ends_low (ht.trans hg) rfl
  | drain request _ ht => exact ends_low (ht.trans hg) rfl
  | write request _ ht => exact ⟨ht, fun _ => rfl⟩
  | flush request _ ht => exact ⟨ht, fun _ => rfl⟩
  | header request _ ht => exact ends_low ht rfl
  | byte request header bytes b _ ht =>
      apply ends_low ht
      rw [pinAfter_append, pinAfter_sent_received]
      rfl
  | crc request header bytes e _ ht => exact ends_low ht (pinAfter_sent_received request header bytes)
  | answer request header bytes _ ht =>
      apply ends_low ht
      rw [pinAfter_append, pinAfter_sent_received]
      rfl
  | answered request header bytes n _ ht =>
      apply ends_low ht
      rw [pinAfter_append, pinAfter_sent_received]
      rfl

theorem drivesPin_bridge (overflowChecks : Bool) :
    DrivesPin BridgeAwait (BridgeEnd overflowChecks) where
  first := by
    intro g op g' h
    generalize htr : ([] : Trace Ans) = tr at h
    cases h with
    | listen _ ht => exact ⟨rfl, ht⟩
    | _ => contradiction
  notAtOnce := by
    intro g o h
    generalize htr : ([] : Trace Ans) = tr at h
    cases h <;> contradiction
  awaits := fun _ _ _ _ hg h => h.pin hg
  returns := fun _ _ _ _ hg h => h.pin hg
  panics := by
    intro g tr g' h
    cases h with
    | length request header _ ht => exact ⟨ht, fails_sent_received request header []⟩

/-! ### Client mode -/

/-- Until `transmit` begins, the pin stays low. -/
theorem quiet_asked_arrived (g : Gateway) (buf : Vector UInt8 8) (n : Nat)
    (got : BoundedVec UInt8 6) (reads : Client.Reads) :
    Quiet (Client.asked g buf n ++ Client.arrived got reads) :=
  Quiet.append ⟨fun _ => rfl, rfl, rfl⟩ (quiet_arrived got reads)

theorem Client.ClientAwait.pin {g g' : Gateway} {tr : Trace Ans} {op : Op}
    (h : ClientAwait g tr op g') (hg : g.txEn = false) :
    g'.txEn = pinAfter false tr ∧ g'.txEn = driving ⟨g, tr⟩ op ∧ tr.any fails = false := by
  cases h with
  | listen _ hagrees => exact ⟨hagrees.txEn.trans hg, hagrees.txEn.trans hg, rfl⟩
  | request buf _ hcrc hagrees => exact ⟨hagrees.txEn.trans hg, hagrees.txEn.trans hg, rfl⟩
  | header buf n _ hagrees => exact ⟨hagrees.txEn.trans hg, hagrees.txEn.trans hg, rfl⟩
  | body buf n got reads _ hagrees =>
      have hquiet := quiet_asked_arrived g buf n got reads
      have hlow : g'.txEn = false := hagrees.txEn.trans hg
      rw [hquiet.pin]
      exact ⟨hlow, hlow, hquiet.fails⟩
  | drain buf n got reads _ hagrees =>
      have hquiet := quiet_asked_arrived g buf n got reads
      have hlow : g'.txEn = false := hagrees.txEn.trans hg
      rw [hquiet.pin]
      exact ⟨hlow, hlow.trans hquiet.isWrite.symm, hquiet.fails⟩
  | write buf n got reads _ hagrees =>
      have hquiet := quiet_asked_arrived g buf n got reads
      have hhigh : g'.txEn = true := hagrees.txEn
      rw [pinAfter_append, hquiet.pin, List.any_append, hquiet.fails]
      exact ⟨hhigh, hhigh, rfl⟩
  | flush buf n got reads _ hagrees =>
      have hquiet := quiet_asked_arrived g buf n got reads
      have hhigh : g'.txEn = true := hagrees.txEn
      rw [pinAfter_append, pinAfter_append, hquiet.pin, driving, List.any_append, List.any_append,
        hquiet.isWrite, List.any_append, List.any_append, hquiet.fails]
      exact ⟨hhigh, hhigh, rfl⟩

theorem Client.ClientEnd.pin {g g' : Gateway} {tr : Trace Ans} {result : Except ModbusError Unit}
    (h : ClientEnd g tr (.returned result g')) (hg : g.txEn = false) :
    g'.txEn = pinAfter false tr ∧ (g'.txEn = true → tr.any fails = true) := by
  cases h with
  | listen _ hagrees => exact ends_low (hagrees.txEn.trans hg) rfl
  | crc buf e _ hcrc hagrees => exact ends_low (hagrees.txEn.trans hg) rfl
  | request buf _ hagrees => exact ends_low (hagrees.txEn.trans hg) rfl
  | header buf n _ hagrees => exact ends_low (hagrees.txEn.trans hg) rfl
  | short buf n got _ hagrees => exact ends_low (hagrees.txEn.trans hg) rfl
  | full buf n got reads _ hagrees =>
      exact ends_low (hagrees.txEn.trans hg) ((quiet_asked_arrived g buf n got reads).pin false)
  | id buf n got reads _ hagrees =>
      exact ends_low (hagrees.txEn.trans hg) ((quiet_asked_arrived g buf n got reads).pin false)
  | body buf n got reads _ hagrees =>
      apply ends_low (hagrees.txEn.trans hg)
      rw [pinAfter_append, (quiet_asked_arrived g buf n got reads).pin]
      rfl
  | drain buf n got reads _ hagrees =>
      apply ends_low (hagrees.txEn.trans hg)
      rw [pinAfter_append, (quiet_asked_arrived g buf n got reads).pin]
      rfl
  | write buf n got reads _ hagrees =>
      rw [pinAfter_append, pinAfter_append, (quiet_asked_arrived g buf n got reads).pin,
        List.any_append]
      exact ⟨hagrees.txEn, fun _ => Bool.or_true _⟩
  | flush buf n got reads _ hagrees =>
      rw [pinAfter_append, pinAfter_append, pinAfter_append,
        (quiet_asked_arrived g buf n got reads).pin, List.any_append]
      exact ⟨hagrees.txEn, fun _ => Bool.or_true _⟩
  | replied buf n got reads _ hagrees =>
      apply ends_low hagrees.txEn
      rw [pinAfter_append, pinAfter_append, pinAfter_append,
        (quiet_asked_arrived g buf n got reads).pin]
      rfl

theorem drivesPin_client : DrivesPin Client.ClientAwait Client.ClientEnd where
  first := by
    intro g op g' h
    generalize htr : ([] : Trace Ans) = tr at h
    cases h with
    | listen _ hagrees => exact ⟨rfl, hagrees.txEn⟩
    | _ => contradiction
  notAtOnce := by
    intro g o h
    generalize htr : ([] : Trace Ans) = tr at h
    cases h <;> contradiction
  awaits := fun _ _ _ _ hg h => h.pin hg
  returns := fun _ _ _ _ hg h => h.pin hg
  panics := fun _ _ _ h => absurd h Client.ClientEnd.ne_panicked

/-! ## Runs -/

/-- The pin is low unless `transmit` is in progress. -/
def PinLow : Task → Prop
  | .connecting g => g.txEn = false
  | .inner _ (.await op g _) => transmits op = false → g.txEn = false
  | .inner _ (.done _ g) => g.txEn = false
  | .inner _ (.panicked g) => g.txEn = false

instance (s : Task) : Decidable (PinLow s) :=
  match s with
  | .connecting g => inferInstanceAs (Decidable (g.txEn = false))
  | .inner _ (.await op g _) => inferInstanceAs (Decidable (transmits op = false → g.txEn = false))
  | .inner _ (.done _ g) => inferInstanceAs (Decidable (g.txEn = false))
  | .inner _ (.panicked g) => inferInstanceAs (Decidable (g.txEn = false))

/-- The write of `transmit` and the flush after it do not fail, and the timer does
not fire meanwhile. -/
def TransmitsThrough : Task → TaskInput → Prop
  | .inner f (.await op _ _), .answer op' a => driving f op = true → fails ⟨op', a⟩ = false
  | .inner f (.await op _ _), .timeout => driving f op = false
  | _, _ => True

/-- The flow under way, or the next one, begins with the pin low. -/
def StartsLow : Task → Prop
  | .connecting g => g.txEn = false
  | .inner f _ => f.start.txEn = false

section Runs

variable {process : Bridge Unit} {I : Gateway → Trace Ans → Op → Gateway → Prop}
  {Q : Gateway → Trace Ans → Outcome Gateway (Except ModbusError Unit) → Prop}

theorem pinAfter_of_fails {pin : Bool} {x : (op : Op) × Ans op} (h : fails x = true) :
    pinAfter pin [x] = pin := by
  obtain ⟨op, a⟩ := x
  cases op with
  | uartFlush =>
      cases a with
      | ok u => contradiction
      | error e => rfl
  | _ => rfl

/-- After a flow that ends with an answer, the pin is low exactly when the answer
was not a failure while the pin was high. -/
theorem low_iff (hspec : DrivesPin I Q) {f : Flow} {op : Op} {a : Ans op} {g g' : Gateway}
    (hstart : f.start.txEn = false) (hI : I f.start f.answers op g)
    (hpin : g'.txEn = pinAfter false (f.answered op a).answers)
    (hfails : g'.txEn = true → (f.answered op a).answers.any fails = true) :
    g'.txEn = false ↔ (driving f op = true → fails ⟨op, a⟩ = false) := by
  obtain ⟨hpin0, hdriving, hnone⟩ := hspec.awaits f.start f.answers op g hstart hI
  have hdriving' : g.txEn = driving f op := hdriving
  rw [Flow.answered, pinAfter_append, ← hpin0] at hpin
  rw [Flow.answered, List.any_append, hnone, Bool.false_or, List.any_cons, List.any_nil,
    Bool.or_false] at hfails
  cases hf : fails ⟨op, a⟩ with
  | true =>
      -- a failure leaves the pin where it was
      rw [hpin, pinAfter_of_fails hf, hdriving']
      cases driving f op with
      | true => exact iff_of_false (fun h => nomatch h) fun h => nomatch h rfl
      | false => exact iff_of_true rfl fun h => nomatch h
  | false =>
      refine iff_of_true ?_ fun _ => rfl
      cases hhigh : g'.txEn with
      | false => rfl
      | true => exact hf.symm.trans (hfails hhigh) |>.symm

/-- The next flow awaits something else first, so it shows the pin as it is. -/
theorem pinLow_turn (hprocess : ∀ g, Async.Meets (I g) (Q g) process [] g) (hspec : DrivesPin I Q)
    (g : Gateway) : PinLow (turn process g).1 ↔ g.txEn = false := by
  have hmeets : (process g).Meets (I g) (Q g) [] := hprocess g
  show PinLow (.inner ⟨g, []⟩ (process g)) ↔ _
  cases hp : process g with
  | await op g' k =>
      rw [hp] at hmeets
      obtain ⟨hother, hpin⟩ := hspec.first g op g' hmeets.1
      rw [PinLow, hpin]
      exact ⟨fun h => h hother, fun h _ => h⟩
  | done result g' =>
      rw [hp] at hmeets
      exact absurd hmeets (hspec.notAtOnce g _)
  | panicked g' =>
      rw [hp] at hmeets
      exact absurd hmeets (hspec.notAtOnce g _)

/-- **Step lemma**: a step from a flow that began with the pin low keeps the pin low
exactly when it does not break off `transmit`. -/
theorem pinLow_step (hprocess : ∀ g, Async.Meets (I g) (Q g) process [] g) (hspec : DrivesPin I Q)
    (hs : s.Meets I Q) (hlow : StartsLow s) (h : (task process).step s i = some (s', os)) :
    PinLow s' ↔ TransmitsThrough s i := by
  cases takes_of_step h with
  | refused g => exact iff_of_true hlow trivial
  | connected g => exact iff_of_true ((pinLow_turn hprocess hspec g.newTcp).mpr hlow) trivial
  | cancelled f op g k =>
      obtain ⟨_, hdriving, _⟩ := hspec.awaits f.start f.answers op g hlow hs.1
      rw [PinLow, TransmitsThrough, hdriving]
  | goesOn f op g k a hk =>
      have hmeets := hs.2 a
      have hfails : (f.answers ++ [⟨op, a⟩] : Trace Ans).any fails = false →
          fails ⟨op, a⟩ = false := by
        intro h
        rw [List.any_append, List.any_cons, List.any_nil, Bool.or_false, Bool.or_eq_false_iff] at h
        exact h.2
      cases hka : k a with
      | done result g' => exact absurd hka (hk result g')
      | await op' g' k' =>
          rw [hka] at hmeets
          obtain ⟨_, hdriving, hnone⟩ := hspec.awaits _ _ _ _ hlow hmeets.1
          refine iff_of_true (fun hother => ?_) fun _ => hfails hnone
          rw [hdriving]
          cases op' <;> first | rfl | contradiction
      | panicked g' =>
          rw [hka] at hmeets
          obtain ⟨hpin, hnone⟩ := hspec.panics _ _ _ hmeets
          exact iff_of_true hpin fun _ => hfails hnone
  | breaks f op g k a result g' hk hb =>
      have hmeets := hs.2 a
      rw [hk] at hmeets
      obtain ⟨hpin, hfails⟩ := hspec.returns _ _ _ _ hlow hmeets
      exact low_iff hspec hlow hs.1 hpin hfails
  | turns f op g k a result g' hk hb =>
      have hmeets := hs.2 a
      rw [hk] at hmeets
      obtain ⟨hpin, hfails⟩ := hspec.returns _ _ _ _ hlow hmeets
      rw [pinLow_turn hprocess hspec]
      exact low_iff hspec hlow hs.1 hpin hfails

/-- With the pin low, the next flow begins with it low. -/
theorem startsLow_step (hprocess : ∀ g, Async.Meets (I g) (Q g) process [] g)
    (hspec : DrivesPin I Q) (hlow : StartsLow s) (h : (task process).step s i = some (s', os))
    (hpin : PinLow s') : StartsLow s' := by
  cases takes_of_step h with
  | refused g => exact hlow
  | connected g => exact hlow
  | cancelled f op g k => exact hpin
  | goesOn f op g k a hk => exact hlow
  | breaks f op g k a result g' hk hb => exact hpin
  | turns f op g k a result g' hk hb => exact (pinLow_turn hprocess hspec g').mp hpin

theorem along_pinLow_iff (hprocess : ∀ g, Async.Meets (I g) (Q g) process [] g)
    (hspec : DrivesPin I Q) {g : Gateway} (hg : g.txEn = false) (is : List TaskInput) :
    (task process).Along (fun _ _ _ s' => PinLow s') (.connecting g) is ↔
      (task process).Along (fun s i _ _ => TransmitsThrough s i) (.connecting g) is := by
  let Inv (s : Task) : Prop := s.Meets I Q ∧ StartsLow s
  have hstart : Inv (.connecting g) := ⟨trivial, hg⟩
  refine Machine.along_iff_along (I := Inv) (fun s i s' os hs h => ?_) (fun s i s' os hs h hpin => ?_)
    hstart
  · exact pinLow_step hprocess hspec hs.1 hs.2 h
  · exact ⟨(meets_step hprocess hs.1 h).2, startsLow_step hprocess hspec hs.2 h hpin⟩

end Runs

/-- **The driver-enable pin**: in a run of either mode, the pin is low whenever
`transmit` is not in progress, exactly when no write of `transmit` and no flush after
it fails or is cut off by the timer. -/
theorem pinLow_iff (overflowChecks : Bool) (is : List TaskInput) :
    ((task (processFlow overflowChecks)).Along (fun _ _ _ s' => PinLow s')
        (.connecting .initial) is ↔
      (task (processFlow overflowChecks)).Along (fun s i _ _ => TransmitsThrough s i)
        (.connecting .initial) is) ∧
    ((task Client.processFlow).Along (fun _ _ _ s' => PinLow s') (.connecting .initial) is ↔
      (task Client.processFlow).Along (fun s i _ _ => TransmitsThrough s i)
        (.connecting .initial) is) :=
  ⟨along_pinLow_iff (meets_processFlow overflowChecks) (drivesPin_bridge overflowChecks) rfl is,
    along_pinLow_iff Client.meets_processFlow drivesPin_client rfl is⟩

/-! ### A write that fails -/

/-- A client connects and sends a request of twelve zeros, and the write of it to the
serial line fails. -/
def failedWrite : List TaskInput :=
  let request : Vector UInt8 12 := Vector.replicate 12 0
  [.connect true, .answer (.sockReadExact 12) (.ok request), .answer .uartFlush (.ok ()),
    .answer (.uartWrite (rtuRequest request)) (.error ())]

/-- The next flow listens to the socket with the pin high. -/
theorem not_pinLow :
    ¬ ∀ is, (task (processFlow false)).Along (fun _ _ _ s' => PinLow s') (.connecting .initial) is := by
  intro h
  have hrun : ((task (processFlow false)).run (.connecting .initial) failedWrite).any
      (fun r => !decide (PinLow r.1)) = true := by decide +kernel
  obtain ⟨r, hr, hhigh⟩ := Option.any_eq_true _ _ |>.mp hrun
  have hstart : PinLow (.connecting .initial) := rfl
  have hlow : PinLow r.1 := Machine.of_along_of_run hstart (h failedWrite) hr
  rw [decide_eq_true hlow] at hhigh
  exact Bool.false_ne_true hhigh

end Toucan.Modbus
