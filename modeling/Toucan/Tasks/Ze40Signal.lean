import Toucan.Tasks.Ze40

/-!
# Toucan.Tasks.Ze40Signal

The key counters of the ZE40 pack.  `x445_signal` counts runs of frames with
and without the key byte 0xaa in two `u8` counters that reset each other, and
tells `LBC_STATUS` at every fourth frame of a run.

`Counted` says what the counters hold: the length of the current run, modulo
four.  The handler indexes the payload without looking at its length, so
`x445Signal_iff` needs three bytes in every data frame.
-/

namespace Toucan.Ze40

/-! ## Runs of frames -/

/-- Whether the third byte of a data frame is 0xaa. -/
def keyAa (frame : Frame) : Option Bool :=
  frame.data.map fun data => data.bytes[2]? == some 0xaa

/-- Length of the run of data frames with key `k` that ends now, the newest frame
first; remote frames are not of a run and do not end one. -/
def runLength (k : Bool) (earlier : List Frame) : Nat :=
  ((earlier.filterMap keyAa).takeWhile (· == k)).length

@[simp] theorem runLength_nil (k : Bool) : runLength k [] = 0 := rfl

theorem runLength_cons_remote (k : Bool) (earlier : List Frame) (h : keyAa frame = none) :
    runLength k (frame :: earlier) = runLength k earlier := by
  simp [runLength, h]

theorem runLength_cons_same (earlier : List Frame) (h : keyAa frame = some k) :
    runLength k (frame :: earlier) = runLength k earlier + 1 := by
  simp [runLength, h]

theorem runLength_cons_other (earlier : List Frame) (h : keyAa frame = some k) :
    runLength (!k) (frame :: earlier) = 0 := by
  cases k <;> simp [runLength, h]

/-- Only one of the two runs can be going on. -/
theorem runLength_eq_zero_or (earlier : List Frame) :
    runLength true earlier = 0 ∨ runLength false earlier = 0 := by
  unfold runLength
  cases earlier.filterMap keyAa with
  | nil => simp
  | cons k ks => cases k <;> simp

/-! ## The counters -/

/-- The counters hold the length of the current run, modulo four. -/
structure Counted (earlier : List Frame) (faa f55 : UInt8) : Prop where
  faa : faa.toNat = runLength true earlier % 4
  f55 : f55.toNat = runLength false earlier % 4

theorem counted_nil : Counted [] 0 0 := ⟨rfl, rfl⟩

/-- A counter stands at four exactly when the frame just counted is a fourth one. -/
theorem add_one_eq_four_iff {counter : UInt8} (h : counter.toNat = n % 4) :
    counter + 1 = 4 ↔ 4 ∣ n + 1 := by
  rw [← UInt8.toNat_inj, UInt8.toNat_add]
  simp only [UInt8.reduceToNat]
  omega

theorem toNat_add_one {counter : UInt8} (h : counter.toNat = n % 4) :
    (counter + 1).toNat = n % 4 + 1 := by
  rw [UInt8.toNat_add]
  simp only [UInt8.reduceToNat]
  omega

/-- What one call of `x445_signal` is to do, after the frames `earlier`. -/
structure Exact (earlier : List Frame) (frame : Frame) (p : UInt8 × UInt8)
    (os : List (Out F B E)) (p' : UInt8 × UInt8) : Prop where
  faa_lt : p'.1 < 4
  f55_lt : p'.2 < 4
  one : p'.1 = 0 ∨ p'.2 = 0
  x5d : .lbcStatus .x5d ∈ os ↔ keyAa frame = some true ∧ 4 ∣ runLength true (frame :: earlier)
  xb2 : .lbcStatus .xb2 ∈ os ↔ keyAa frame = some false ∧ 4 ∣ runLength false (frame :: earlier)
  once : os.length ≤ 1
  remote : keyAa frame = none → p' = p

/-- A data frame has the third byte that `x445_signal` indexes. -/
def ThirdByte (frame : Frame) : Prop := ∀ data, frame.data = some data → 3 ≤ data.bytes.length

/-- A call returns exactly when there is nothing to index or the third byte is
there. -/
theorem x445Signal_isSome (frame : Frame) (faa f55 : UInt8) :
    (x445Signal (F := F) (B := B) (E := E) frame faa f55).isSome = true ↔ ThirdByte frame := by
  unfold x445Signal ThirdByte
  cases hd : frame.data with
  | none => simp
  | some data =>
      simp only [Option.some.injEq, forall_eq']
      cases hb : data.bytes[2]? with
      | none =>
          have hlen := List.getElem?_eq_none_iff.mp hb
          simp
          omega
      | some lbcKey =>
          obtain ⟨hlen, _⟩ := List.getElem?_eq_some_iff.mp hb
          refine iff_of_true ?_ hlen
          dsimp only
          split <;> split <;> rfl

/-- A counter with one more frame, and the signal at every fourth. -/
def countOne (counter : UInt8) (key : LbcKey) : UInt8 × List (Out F B E) :=
  if counter + 1 = 4 then (0, [.lbcStatus key]) else (counter + 1, [])

/-- The ways a call ends, by the kind of frame. -/
theorem x445Signal_cases {faa f55 x y : UInt8} {os : List (Out F B E)}
    (h : x445Signal frame faa f55 = some (x, y, os)) :
    (keyAa frame = none ∧ (x, y) = (faa, f55) ∧ os = []) ∨
      (keyAa frame = some true ∧ y = 0 ∧ (x, os) = countOne faa .x5d) ∨
      (keyAa frame = some false ∧ x = 0 ∧ (y, os) = countOne f55 .xb2) := by
  unfold x445Signal at h
  unfold keyAa countOne
  cases hd : frame.data with
  | none =>
      simp only [hd, Option.some.injEq, Prod.mk.injEq] at h
      simp [h]
  | some data =>
      cases hb : data.bytes[2]? with
      | none => simp [hd, hb] at h
      | some lbcKey =>
          simp only [hd, hb] at h
          by_cases hk : lbcKey = 0xaa
          · rw [if_pos hk] at h
            refine Or.inr (Or.inl ⟨by simp [hb, hk], ?_⟩)
            split at h
            · next h4 =>
                obtain ⟨rfl, rfl, rfl⟩ := by simpa using h
                simp [h4]
            · next h4 =>
                obtain ⟨rfl, rfl, rfl⟩ := by simpa using h
                simp [h4]
          · rw [if_neg hk] at h
            refine Or.inr (Or.inr ⟨by simp [hb, hk], ?_⟩)
            split at h
            · next h4 =>
                obtain ⟨rfl, rfl, rfl⟩ := by simpa using h
                simp [h4]
            · next h4 =>
                obtain ⟨rfl, rfl, rfl⟩ := by simpa using h
                simp [h4]

/-- One more frame of a run. -/
theorem countOne_spec {counter : UInt8} (h : counter.toNat = n % 4) (key : LbcKey) :
    (countOne (F := F) (B := B) (E := E) counter key).1.toNat = (n + 1) % 4 ∧
      (countOne (F := F) (B := B) (E := E) counter key).2 =
        if 4 ∣ n + 1 then [.lbcStatus key] else [] := by
  unfold countOne
  by_cases h4 : 4 ∣ n + 1
  · rw [if_pos ((add_one_eq_four_iff h).mpr h4), if_pos h4]
    exact ⟨(Nat.mod_eq_zero_of_dvd h4).symm, rfl⟩
  · rw [if_neg (fun hc => h4 ((add_one_eq_four_iff h).mp hc)), if_neg h4]
    refine ⟨?_, rfl⟩
    rw [toNat_add_one h]
    omega

/-! ## Calls after any frames -/

theorem Counted.lt {earlier : List Frame} {faa f55 : UInt8} (h : Counted earlier faa f55) :
    faa < 4 ∧ f55 < 4 ∧ (faa = 0 ∨ f55 = 0) := by
  have hfaa := h.faa
  have hf55 := h.f55
  simp only [UInt8.lt_iff_toNat_lt, ← UInt8.toNat_inj, UInt8.reduceToNat]
  rcases runLength_eq_zero_or earlier with h0 | h0 <;> omega

/-- **Step lemma**: a call that returns counts the frame and signals as it should. -/
theorem exact_x445Signal {earlier : List Frame} {faa f55 x y : UInt8} {os : List (Out F B E)}
    (hI : Counted earlier faa f55) (h : x445Signal frame faa f55 = some (x, y, os)) :
    Exact earlier frame (faa, f55) os (x, y) ∧ Counted (frame :: earlier) x y := by
  suffices hc : Counted (frame :: earlier) x y ∧
      (.lbcStatus .x5d ∈ os ↔
        keyAa frame = some true ∧ 4 ∣ runLength true (frame :: earlier)) ∧
      (.lbcStatus .xb2 ∈ os ↔
        keyAa frame = some false ∧ 4 ∣ runLength false (frame :: earlier)) ∧
      os.length ≤ 1 ∧ (keyAa frame = none → (x, y) = (faa, f55)) by
    obtain ⟨hcounted, hx5d, hxb2, honce, hremote⟩ := hc
    obtain ⟨hfaa, hf55, hone⟩ := hcounted.lt
    exact ⟨⟨hfaa, hf55, hone, hx5d, hxb2, honce, hremote⟩, hcounted⟩
  rcases x445Signal_cases h with ⟨hk, hxy, rfl⟩ | ⟨hk, rfl, hxo⟩ | ⟨hk, rfl, hyo⟩
  · obtain ⟨rfl, rfl⟩ := Prod.mk.inj hxy
    refine ⟨⟨?_, ?_⟩, by simp [hk], by simp [hk], by simp, fun _ => rfl⟩
    · rw [runLength_cons_remote true earlier hk, hI.faa]
    · rw [runLength_cons_remote false earlier hk, hI.f55]
  · have hsame := runLength_cons_same earlier hk
    have hother : runLength false (frame :: earlier) = 0 := runLength_cons_other earlier hk
    obtain ⟨hn, hos⟩ := countOne_spec (F := F) (B := B) (E := E) hI.faa .x5d
    rw [← hxo, ← hsame] at hn hos
    dsimp only at hn hos
    refine ⟨⟨hn, by simp [hother]⟩, ?_, ?_, ?_, by simp [hk]⟩
    · rw [hos]; split <;> simp_all
    · rw [hos]; split <;> simp [hk]
    · rw [hos]; split <;> simp
  · have hsame := runLength_cons_same earlier hk
    have hother : runLength true (frame :: earlier) = 0 := runLength_cons_other earlier hk
    obtain ⟨hn, hos⟩ := countOne_spec (F := F) (B := B) (E := E) hI.f55 .xb2
    rw [← hyo, ← hsame] at hn hos
    dsimp only at hn hos
    refine ⟨⟨by simp [hother], hn⟩, ?_, ?_, ?_, by simp [hk]⟩
    · rw [hos]; split <;> simp [hk]
    · rw [hos]; split <;> simp_all
    · rw [hos]; split <;> simp

/-- `x445_signal` over a sequence of frames, with the frames seen so far. -/
def signalMachine (F B E : Type) : Machine ((UInt8 × UInt8) × List Frame) Frame (Out F B E) :=
  (Machine.mk fun p frame =>
    (x445Signal frame p.1 p.2).map fun r => ((r.1, r.2.1), r.2.2)).withHistory
      fun earlier _ frame _ => frame :: earlier

theorem signalMachine_step_eq_some {p p' : (UInt8 × UInt8) × List Frame}
    {os : List (Out F B E)} :
    (signalMachine F B E).step p frame = some (p', os) ↔
      x445Signal frame p.1.1 p.1.2 = some (p'.1.1, p'.1.2, os) ∧ p'.2 = frame :: p.2 := by
  obtain ⟨⟨x, y⟩, earlier'⟩ := p'
  rw [signalMachine, Machine.withHistory_step_eq_some]
  simp only [Option.map_eq_some_iff, Prod.mk.injEq, Prod.exists]
  constructor
  · rintro ⟨⟨a, b, c, h, ⟨rfl, rfl⟩, rfl⟩, he⟩
    exact ⟨h, he⟩
  · rintro ⟨h, he⟩
    exact ⟨⟨x, y, os, h, ⟨rfl, rfl⟩, rfl⟩, he⟩

/-- **The key counters**: over any sequence of frames from zero, no call panics
and every call does what it is to do, exactly when every data frame has a third
byte. -/
theorem x445Signal_iff (frames : List Frame) :
    (((signalMachine F B E).run ((0, 0), []) frames).isSome = true ∧
        (signalMachine F B E).Along (fun p frame os p' => Exact p.2 frame p.1 os p'.1)
          ((0, 0), []) frames) ↔
      ∀ frame ∈ frames, ThirdByte frame := by
  have hkeep : ∀ (p : (UInt8 × UInt8) × List Frame) frame p' (os : List (Out F B E)),
      Counted p.2 p.1.1 p.1.2 → (signalMachine F B E).step p frame = some (p', os) →
      Exact p.2 frame p.1 os p'.1 ∧ Counted p'.2 p'.1.1 p'.1.2 := by
    intro p frame p' os hI hs
    obtain ⟨hx, he⟩ := signalMachine_step_eq_some.mp hs
    rw [he]
    exact exact_x445Signal hI hx
  have halong : (signalMachine F B E).Along (fun p frame os p' => Exact p.2 frame p.1 os p'.1)
      ((0, 0), []) frames := Machine.along_of_invariant hkeep counted_nil
  rw [and_iff_left halong]
  refine Machine.run_isSome_iff (fun p frame _ => ?_)
    (fun p frame p' os hI hs => (hkeep p frame p' os hI hs).2) counted_nil
  rw [← x445Signal_isSome (F := F) (B := B) (E := E) frame p.1.1 p.1.2]
  simp [signalMachine, Machine.withHistory]

/-- A data frame of two bytes panics the task. -/
theorem not_x445Signal :
    ¬ ∀ frames, ((signalMachine Rat Unit Unit).run ((0, 0), []) frames).isSome = true ∧
        (signalMachine Rat Unit Unit).Along (fun p frame os p' => Exact p.2 frame p.1 os p'.1)
          ((0, 0), []) frames := by
  intro h
  have hrun := (h [{ id := .standard ⟨0x445, by decide⟩, data := some ⟨[0x00, 0x00], by decide⟩ }]).1
  contradiction

/-! ## The counters of `bms_rx` -/

/-- A frame that `bms_rx` gives to `x445_signal`. -/
def isKeyFrame (frame : Frame) : Bool := canid frame == some 0x445

/-- The key frames received, the newest first. -/
def keyFrames (earlier : List Frame) : Event F → List Frame
  | .task (.frame frame) => if isKeyFrame frame then frame :: earlier else earlier
  | _ => earlier

/-- A pass hands a key frame to `x445_signal` and otherwise leaves the counters alone. -/
theorem counters_receive [F32 F] {cfg : Features} {std : BmsStandard F B E} {dec : Decoder F D P}
    {st st' : Statics F B} {s s' : State F D} {os : List (Out F B E)}
    (h : receive cfg std dec st s frame = some (st', s', os)) :
    if isKeyFrame frame then x445Signal frame s.faa s.f55 = some (s'.faa, s'.f55, os)
    else s'.faa = s.faa ∧ s'.f55 = s.f55 := by
  unfold receive at h
  unfold isKeyFrame
  cases hid : canid frame with
  | none =>
      simp only [hid, Option.some.injEq, Prod.mk.injEq] at h
      simp [← h.2.1]
  | some id =>
      simp only [hid] at h
      by_cases hsignal : id = 0x445
      · subst hsignal
        cases hx : x445Signal (F := F) (B := B) (E := E) frame s.faa s.f55 with
        | none => simp [hx] at h
        | some r =>
            obtain ⟨faa, f55, os'⟩ := r
            simp [hx] at h
            obtain ⟨_, rfl, rfl⟩ := h
            simp
      · simp only [beq_iff_eq, Option.some.injEq, hsignal, if_false] at h ⊢
        split at h
        · simp only [Option.some.injEq, Prod.mk.injEq] at h
          simp [← h.2.1]
        · split at h <;> split at h
          all_goals
            simp only [Option.some.injEq, Prod.mk.injEq] at h
            simp [← h.2.1]

/-- The counters follow the key frames when `bms_rx` is resumed. -/
theorem counted_input [F32 F] {cfg : Features} {std : BmsStandard F B E} {dec : Decoder F D P}
    {st st' : Statics F B} {s s' : State F D} (hI : Counted earlier s.faa s.f55)
    (hrx : bmsRx cfg std dec st s input = some (st', s', os)) :
    Counted (keyFrames earlier (.task input : Event F)) s'.faa s'.f55 := by
  cases input with
  | sent =>
      cases hr : s.reply with
      | none => simp [bmsRx, hr] at hrx
      | some reply =>
          simp only [bmsRx, hr, Option.some.injEq, Prod.mk.injEq] at hrx
          obtain ⟨_, rfl, _⟩ := hrx
          exact hI
  | frame frame =>
      cases hr : s.reply with
      | some reply => simp [bmsRx, hr] at hrx
      | none =>
          simp only [bmsRx, hr] at hrx
          have hcount := counters_receive hrx
          by_cases hkey : isKeyFrame frame = true
          · rw [if_pos hkey] at hcount
            simpa [keyFrames, hkey] using (exact_x445Signal hI hcount).2
          · rw [if_neg hkey] at hcount
            simpa [keyFrames, hkey, hcount.1, hcount.2] using hI

/-- **In the task**: in every run of `bms_rx` the counters hold the lengths of the
runs of key frames, so neither ever reaches four. -/
theorem counted_bmsRx [F32 F] {cfg : Features} {std : BmsStandard F B E} {dec : Decoder F D P}
    (st : Statics F B) (data : Data F D) (es : List (Event F)) :
    ((machine cfg std dec).withHistory fun earlier _ e _ => keyFrames earlier e).Along
      (fun _ _ _ p' => Counted p'.2 p'.1.2.faa p'.1.2.f55) ((st, .start data), []) es := by
  refine Machine.along_of_invariant (I := fun p => Counted p.2 p.1.2.faa p.1.2.f55) ?_ counted_nil
  rintro ⟨p, earlier⟩ e ⟨p', earlier'⟩ os hI hstep
  obtain ⟨hs, hg⟩ := Machine.withHistory_step_eq_some.mp hstep
  dsimp only at hI hs hg ⊢
  subst hg
  rw [and_self]
  rcases step_cases hs with ⟨-, hother, now, config, rfl⟩ | ⟨input, rfl, hrx⟩
  · cases e with
    | task input => exact absurd rfl (hother input)
    | _ => exact hI
  · exact counted_input hI hrx

end Toucan.Ze40
