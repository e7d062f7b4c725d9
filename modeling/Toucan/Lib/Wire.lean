import Toucan.Lib.Method

/-!
# Toucan.Lib.Wire

Readers and writers of a sequence, as fallible methods on a cursor.

A `Tape` says of a state what is behind the cursor and what is ahead of it, and
`Reads m xs a` that `m` takes `xs` and returns `a`, whatever follows.  The other way
around, `Yields m P` is for any cursor: where `m` returns `a`, it has taken some `xs`
with `P xs a`.  A `Sheet` says what is written and how much room is left, and
`Writes m xs` that `m` writes `xs`, or fails as a whole where there is no room for them.

The rules take both through a chain of calls, so a writer and its reader are
compared on the sequence between them.
-/

namespace Toucan

variable {σ ε β : Type} {α γ : Type}

/-! ## Reading -/

/-- What a cursor has behind it, and what it has ahead, in the states that it can be in. -/
structure Tape (σ β : Type) where
  behind : σ → List β
  ahead : σ → List β
  valid : σ → Prop

namespace Tape

variable {t : Tape σ β}

/-- The cursor has moved over `xs`. -/
structure Moved (t : Tape σ β) (s : σ) (xs : List β) (s' : σ) : Prop where
  ahead : t.ahead s = xs ++ t.ahead s'
  behind : t.behind s' = t.behind s ++ xs
  valid : t.valid s'

theorem Moved.refl {s : σ} (h : t.valid s) : t.Moved s [] s := ⟨rfl, (List.append_nil _).symm, h⟩

theorem Moved.trans {s s' s'' : σ} {xs ys : List β} (h : t.Moved s xs s')
    (h' : t.Moved s' ys s'') : t.Moved s (xs ++ ys) s'' where
  ahead := by rw [h.ahead, h'.ahead, List.append_assoc]
  behind := by rw [h'.behind, h.behind, List.append_assoc]
  valid := h'.valid

/-- Nothing is lost. -/
theorem Moved.whole {s s' : σ} {xs : List β} (h : t.Moved s xs s') :
    t.behind s' ++ t.ahead s' = t.behind s ++ t.ahead s := by
  rw [h.behind, h.ahead, List.append_assoc]

/-- What is ahead after the move. -/
theorem Moved.ahead_eq {s s' : σ} {xs rest : List β} (h : t.Moved s xs s')
    (hs : t.ahead s = xs ++ rest) : t.ahead s' = rest :=
  List.append_cancel_left (h.ahead.symm.trans hs)

/-- `m` takes `xs` and returns `a`, whatever follows. -/
def Reads (t : Tape σ β) (m : Method σ ε α) (xs : List β) (a : α) : Prop :=
  ∀ s rest, t.valid s → t.ahead s = xs ++ rest → ∃ s', m s = (.ok a, s') ∧ t.Moved s xs s'

theorem Reads.pure (a : α) : t.Reads (pure a : Method σ ε α) [] a := fun s _ hs _ =>
  ⟨s, rfl, Moved.refl hs⟩

theorem Reads.bind {m : Method σ ε α} {k : α → Method σ ε γ} {xs ys : List β} {a : α} {c : γ}
    (hm : t.Reads m xs a) (hk : t.Reads (k a) ys c) : t.Reads (m >>= k) (xs ++ ys) c := by
  intro s rest hv hs
  rw [List.append_assoc] at hs
  obtain ⟨s', hms, hmoved⟩ := hm s (ys ++ rest) hv hs
  obtain ⟨s'', hks, hmoved'⟩ := hk s' rest hmoved.valid (hmoved.ahead_eq hs)
  exact ⟨s'', by rw [Method.bind_of_ok hms, hks], hmoved.trans hmoved'⟩

/-- What is read is wrapped up. -/
theorem Reads.map {m : Method σ ε α} {f : α → γ} {xs : List β} {a : α} (hm : t.Reads m xs a) :
    t.Reads (do return f (← m)) xs (f a) := by
  have h := hm.bind (k := fun b => Pure.pure (f b)) (Reads.pure (f a))
  rwa [List.append_nil] at h

/-- Where `m` returns `a`, it has taken `xs` with `P xs a`. -/
def Yields (t : Tape σ β) (m : Method σ ε α) (P : List β → α → Prop) : Prop :=
  ∀ s a s', t.valid s → m s = (.ok a, s') → ∃ xs, t.Moved s xs s' ∧ P xs a

/-- Where `m` returns `a`, there are some `xs` ahead with `P xs a`; it need not have taken
them all. -/
def Finds (t : Tape σ β) (m : Method σ ε α) (P : List β → α → Prop) : Prop :=
  ∀ s a s', t.valid s → m s = (.ok a, s') → ∃ xs rest, t.ahead s = xs ++ rest ∧ P xs a

theorem bind_eq_ok {m : Method σ ε α} {k : α → Method σ ε γ} {s s'' : σ} {c : γ}
    (h : (m >>= k) s = (.ok c, s'')) : ∃ a s', m s = (.ok a, s') ∧ k a s' = (.ok c, s'') := by
  cases hm : m s with
  | mk r s' =>
      cases r with
      | ok a =>
          rw [Method.bind_of_ok hm] at h
          exact ⟨a, s', rfl, h⟩
      | error e =>
          rw [Method.bind_of_error hm] at h
          injection h with hr
          contradiction

theorem Yields.finds {m : Method σ ε α} {k : α → Method σ ε γ} {P : List β → α → Prop}
    {Q : List β → γ → Prop} (hm : t.Yields m P)
    (hk : ∀ xs a, P xs a → t.Finds (k a) fun ys c => Q (xs ++ ys) c) : t.Finds (m >>= k) Q := by
  intro s c s'' hv h
  obtain ⟨a, s', hms, hks⟩ := bind_eq_ok h
  obtain ⟨xs, hmoved, hP⟩ := hm s a s' hv hms
  obtain ⟨ys, rest, hahead, hQ⟩ := hk xs a hP s' c s'' hmoved.valid hks
  exact ⟨xs ++ ys, rest, by rw [hmoved.ahead, hahead, List.append_assoc], hQ⟩

theorem Yields.pure {a : α} {P : List β → α → Prop} (h : P [] a) :
    t.Yields (pure a : Method σ ε α) P := by
  intro s b s' hv hs
  injection hs with ha hs
  injection ha with ha
  subst ha hs
  exact ⟨[], .refl hv, h⟩

/-- What the rest finds does not depend on where the cursor is. -/
theorem Finds.of_rest {m : Method σ ε α} {k : α → Method σ ε γ} {P : List β → γ → Prop}
    (h : ∀ a s c s', k a s = (.ok c, s') → P [] c) : t.Finds (m >>= k) P := by
  intro s c s' _ hs
  obtain ⟨a, s'', -, hk⟩ := bind_eq_ok hs
  exact ⟨[], t.ahead s, rfl, h a s'' c s' hk⟩

/-- A reader for what is ahead has taken it. -/
theorem Reads.eq_of_ok {m : Method σ ε α} {xs rest : List β} {a b : α} {s s' : σ}
    (hm : t.Reads m xs a) (hv : t.valid s) (hs : t.ahead s = xs ++ rest) (h : m s = (.ok b, s')) :
    b = a ∧ t.Moved s xs s' := by
  obtain ⟨s'', hms, hmoved⟩ := hm s rest hv hs
  rw [hms] at h
  injection h with ha hs'
  injection ha with ha
  exact ⟨ha.symm, hs' ▸ hmoved⟩

end Tape

/-! ## Writing -/

/-- What is written, the room that is left, and what there is of the sheet in all, in the
states that a writer can be in. -/
structure Sheet (σ β : Type) where
  written : σ → List β
  room : σ → Nat
  extent : σ → Nat
  valid : σ → Prop

namespace Sheet

variable {w : Sheet σ β}

/-- `xs` have been written. -/
structure Wrote (w : Sheet σ β) (s : σ) (xs : List β) (s' : σ) : Prop where
  written : w.written s' = w.written s ++ xs
  room : w.room s' + xs.length = w.room s
  extent : w.extent s' = w.extent s
  valid : w.valid s'

theorem Wrote.trans {s s' s'' : σ} {xs ys : List β} (h : w.Wrote s xs s') (h' : w.Wrote s' ys s'') :
    w.Wrote s (xs ++ ys) s'' where
  written := by rw [h'.written, h.written, List.append_assoc]
  room := by
    have hroom := h.room
    have hroom' := h'.room
    rw [List.length_append]
    omega
  extent := h'.extent.trans h.extent
  valid := h'.valid

/-- `m` writes `xs`; where there is no room for them it fails with `full`. -/
def Writes (w : Sheet σ β) (full : ε) (m : Method σ ε Unit) (xs : List β) : Prop :=
  ∀ s, w.valid s →
    (xs.length ≤ w.room s → ∃ s', m s = (.ok (), s') ∧ w.Wrote s xs s') ∧
    (w.room s < xs.length → ∃ s', m s = (.error full, s'))

variable {full : ε}

theorem Writes.pure : w.Writes full (pure () : Method σ ε Unit) [] := fun s hs =>
  ⟨fun _ => ⟨s, rfl, (List.append_nil _).symm, rfl, rfl, hs⟩, fun h => absurd h (Nat.not_lt_zero _)⟩

theorem Writes.bind {m : Method σ ε Unit} {k : Unit → Method σ ε Unit} {xs ys : List β}
    (hm : w.Writes full m xs) (hk : w.Writes full (k ()) ys) :
    w.Writes full (m >>= k) (xs ++ ys) := by
  intro s hs
  rw [List.length_append]
  by_cases hroom : xs.length ≤ w.room s
  · obtain ⟨s', hms, hwrote⟩ := (hm s hs).1 hroom
    obtain ⟨hfits, hfull⟩ := hk s' hwrote.valid
    have hleft := hwrote.room
    constructor
    · intro hle
      obtain ⟨s'', hks, hwrote'⟩ := hfits (by omega)
      exact ⟨s'', by rw [Method.bind_of_ok hms, hks], hwrote.trans hwrote'⟩
    · intro hlt
      obtain ⟨s'', hks⟩ := hfull (by omega)
      exact ⟨s'', by rw [Method.bind_of_ok hms, hks]⟩
  · obtain ⟨s', hms⟩ := (hm s hs).2 (by omega)
    constructor
    · intro hle
      omega
    · intro _
      exact ⟨s', Method.bind_of_error hms⟩

/-- A part that may be left out, and what follows it. -/
theorem Writes.optional {c : Prop} [Decidable c] {m : Method σ ε Unit}
    {k : Unit → Method σ ε Unit} {xs ys : List β} (hm : c → w.Writes full m xs)
    (hk : w.Writes full (k ()) ys) :
    w.Writes full (if c then m >>= k else k ()) ((if c then xs else []) ++ ys) := by
  by_cases hc : c
  · rw [if_pos hc, if_pos hc]
    exact (hm hc).bind hk
  · rw [if_neg hc, if_neg hc]
    exact hk

/-- A last part that may be left out. -/
theorem Writes.optional_last {c : Prop} [Decidable c] {m : Method σ ε Unit} {xs : List β}
    (hm : c → w.Writes full m xs) :
    w.Writes full (if c then m else Pure.pure ()) (if c then xs else []) := by
  by_cases hc : c
  · rw [if_pos hc, if_pos hc]
    exact hm hc
  · rw [if_neg hc, if_neg hc]
    exact Writes.pure

/-- The elements of a list, one after the other. -/
theorem Writes.forM {f : α → Method σ ε Unit} {g : α → List β} {l : List α}
    (h : ∀ a ∈ l, w.Writes full (f a) (g a)) : w.Writes full (l.forM f) (l.flatMap g) := by
  induction l with
  | nil => exact Writes.pure
  | cons a l ih =>
      rw [List.flatMap_cons]
      exact (h a List.mem_cons_self).bind (ih fun b hb => h b (List.mem_cons_of_mem a hb))

end Sheet

end Toucan
