import FrankenTerm.Ports.IngestCursor

/-!
# Realigning the producer's numbering with storage (`realign_next_seq`)

A cursor numbers its captures and hands them to an asynchronous persistence
loop.  Captures can be lost on the way, and storage numbers the survivors
itself, so the two numberings drift apart; by the time a mismatch is seen,
later captures are already in flight under the old numbering.
`realignNextSeq` therefore treats a mismatch as an *offset*: every capture
carries the correction that was in force when it was issued, and only the
difference to the cursor's current correction is applied.

`System` is the producer, the queue and storage together, with a step for each
thing that can happen: a capture is issued, a queued one is lost, storage
takes the oldest queued one, the producer is told about the oldest stored one
it has not yet heard of.  The invariant is that `nextSeq - seqCorrection`
counts the captures issued, and that every capture `j` was stamped with
`seq - seqCorrection = base + j` (`Numbered`).

## Main results

* `realign_converges` — realignment converges and never shifts twice.
-/

namespace FrankenTerm.Ports.IngestRealign

open IngestCursor List Option

/-! ## The program -/

/-- Clamping to `i128`, as `saturating_add` and `saturating_sub` do. -/
def satI128 (x : Int) : Int := max (-(2 ^ 127)) (min x (2 ^ 127 - 1))

/-- `u64::try_from` on an `i128`. -/
def u64TryFrom (x : Int) : Option UInt64 :=
  if 0 ≤ x ∧ x ≤ u64Max.toNat then some (UInt64.ofNat x.toNat) else none

/-- `PaneCursor::realign_next_seq`. -/
def realignNextSeq (c : PaneCursor) (captured : CapturedSegment)
    (storageSeq : UInt64) : Int × PaneCursor :=
  let observed : Int := storageSeq.toNat - captured.seq.toNat
  let correction := satI128 (captured.seqCorrection + observed)
  let shift := satI128 (correction - c.seqCorrection)
  let c :=
    if shift ≠ 0 then
      let shifted := max (satI128 (c.nextSeq.toNat + shift)) (storageSeq.toNat + 1)
      { c with
        nextSeq :=
          if shifted > u64Max.toNat then u64Max
          else (u64TryFrom shifted).getD u64Max
        seqCorrection := correction }
    else c
  let c :=
    if captured.seq ≠ storageSeq ∨ shift ≠ 0 then { c with inGap := true } else c
  (shift, c)

/-! ## Producer, queue and storage -/

/-- The producer's cursor, every capture it has issued, the captures still
queued and the captures storage has numbered, both by issue index and oldest
first; `acked` of the stored ones have been reported to the producer. -/
structure System where
  cursor : PaneCursor
  issued : List CapturedSegment
  queue : List Nat
  stored : List (Nat × UInt64)
  acked : Nat
  deriving DecidableEq

def System.init (cursor : PaneCursor) : System :=
  { cursor, issued := [], queue := [], stored := [], acked := 0 }

inductive Event where
  /-- `capture_snapshot`, which may find nothing to capture. -/
  | snapshot (call : SnapshotCall)
  /-- `capture_delta`. -/
  | delta (content : String) (capturedAt : Int)
  /-- `emit_gap`. -/
  | gap (reason : String) (now : Int)
  /-- The queued capture at a position is lost. -/
  | lose (pos : Nat)
  /-- Storage takes the oldest queued capture under a number of its own. -/
  | persist (seq : UInt64)
  /-- The producer hears of the oldest stored capture it has not heard of. -/
  | ack

/-- A capture joins the back of the queue. -/
def System.enqueue (sys : System) (seg : CapturedSegment) (c : PaneCursor) : System :=
  { sys with
    cursor := c
    issued := sys.issued ++ [seg]
    queue := sys.queue ++ [sys.issued.length] }

/-- The number of the newest stored capture. -/
def System.lastStored (sys : System) : Option UInt64 := sys.stored.getLast?.map Prod.snd

-- An optional number is looked at; the numbers are not searched through.
instance (priority := high) decidableLast {p : UInt64 → Prop} [DecidablePred p] {last : Option UInt64} :
    Decidable (∀ number ∈ last, p number) := decidableForallMem _

def step (env : IngestEnv) (sys : System) : Event → Option System
  | .snapshot call =>
    match sys.cursor.captureSnapshot env call with
    | none => none
    | some (none, c) => some { sys with cursor := c }
    | some (some seg, c) => some (sys.enqueue seg c)
  | .delta content capturedAt =>
    let (seg, c) := sys.cursor.captureDelta content capturedAt
    some (sys.enqueue seg c)
  | .gap reason now =>
    let (seg, c) := sys.cursor.emitGap reason now
    some (sys.enqueue seg c)
  | .lose pos =>
    if pos < sys.queue.length then some { sys with queue := sys.queue.eraseIdx pos }
    else none
  | .persist seq =>
    match sys.queue with
    | [] => none
    | k :: rest =>
      if ∀ last ∈ sys.lastStored, last < seq then
        some { sys with queue := rest, stored := sys.stored ++ [(k, seq)] }
      else none
  | .ack => do
    let (k, seq) ← sys.stored[sys.acked]?
    let captured ← sys.issued[k]?
    some { sys with
      cursor := (realignNextSeq sys.cursor captured seq).2
      acked := sys.acked + 1 }

/-- No value of `realign_next_seq` saturates. -/
def RealignQuiet (c : PaneCursor) (captured : CapturedSegment) (storageSeq : UInt64) : Prop :=
  let observed : Int := storageSeq.toNat - captured.seq.toNat
  let correction := captured.seqCorrection + observed
  let shift := correction - c.seqCorrection
  satI128 correction = correction ∧ satI128 shift = shift ∧
    satI128 (c.nextSeq.toNat + shift) = c.nextSeq.toNat + shift ∧
    c.nextSeq.toNat + shift ≤ u64Max.toNat

instance (c : PaneCursor) (captured : CapturedSegment) (storageSeq : UInt64) :
    Decidable (RealignQuiet c captured storageSeq) := by
  unfold RealignQuiet
  infer_instance

/-- No value saturates in the step: a capture finds room to bump, an
acknowledgement realigns without clamping. -/
def Quiet (sys : System) : Event → Prop
  | .snapshot _ | .delta _ _ | .gap _ _ => sys.cursor.nextSeq ≠ u64Max
  | .lose _ | .persist _ => True
  | .ack =>
    ∀ entry ∈ sys.stored[sys.acked]?, ∀ captured ∈ sys.issued[entry.1]?,
      RealignQuiet sys.cursor captured entry.2

instance (sys : System) (ev : Event) : Decidable (Quiet sys ev) := by
  cases ev <;> (unfold Quiet; infer_instance)

/-- The systems reachable from a cursor without saturation. -/
inductive Reach (env : IngestEnv) (start : PaneCursor) : System → Prop
  | init : Reach env start (System.init start)
  | step {sys sys' : System} (ev : Event) : Reach env start sys → Quiet sys ev →
      step env sys ev = some sys' → Reach env start sys'

/-! ## What one call does to the numbering -/

/-- Issuing a capture: the segment takes the current number and correction,
and the cursor moves on by one. -/
structure Issues (c : PaneCursor) (seg : CapturedSegment) (c' : PaneCursor) : Prop where
  seq : seg.seq = c.nextSeq
  seqCorrection : seg.seqCorrection = c.seqCorrection
  keeps : c'.seqCorrection = c.seqCorrection
  next : c'.nextSeq.toNat = c.nextSeq.toNat + 1

variable {base : Int} {k : Nat} {env : IngestEnv} {s : UInt64} {at_ : Nat} {sys sys' : System}
  {fresh : Nat} {c : PaneCursor} {ev : Event}

theorem bumpNextSeq_toNat (h : c.nextSeq ≠ u64Max) :
    c.bumpNextSeq.nextSeq.toNat = c.nextSeq.toNat + 1 := by
  have hlt : c.nextSeq.toNat + 1 < 2 ^ 64 := by
    have hbound := c.nextSeq.toNat_lt
    have hne : c.nextSeq.toNat ≠ u64Max.toNat := fun he => h (UInt64.toNat_inj.mp he)
    have hmax : u64Max.toNat = 2 ^ 64 - 1 := rfl
    omega
  rw [PaneCursor.bumpNextSeq, if_neg h]
  exact Nat.mod_eq_of_lt hlt

/-- A cursor with the same numbering issues a capture. -/
theorem issue_issues {d : PaneCursor} {content : String} {kind : CapturedSegmentKind} {now : Int}
    (h : c.nextSeq ≠ u64Max) (hnext : d.nextSeq = c.nextSeq)
    (hcorr : d.seqCorrection = c.seqCorrection) :
    Issues c (d.issue content kind now).1 (d.issue content kind now).2 := by
  rw [← hnext] at h
  refine ⟨hnext, hcorr, ?_, hnext ▸ bumpNextSeq_toNat h⟩
  unfold PaneCursor.issue PaneCursor.bumpNextSeq
  split <;> exact hcorr

/-- A snapshot either leaves the numbering alone or issues one capture. -/
theorem captureSnapshot_numbering {c' : PaneCursor} {call : SnapshotCall}
    {seg : Option CapturedSegment} (h : c.captureSnapshot env call = some (seg, c'))
    (hroom : c.nextSeq ≠ u64Max) :
    (seg = none ∧ c'.nextSeq = c.nextSeq ∧ c'.seqCorrection = c.seqCorrection) ∨
      ∃ s, seg = some s ∧ Issues c s c' := by
  unfold PaneCursor.captureSnapshot at h
  by_cases hskip : call.current = c.lastSnapshot ∧ call.externalAltScreen = none
  · simp only [if_pos hskip, Option.pure_def, Option.some.injEq, Prod.mk.injEq] at h
    obtain ⟨rfl, rfl⟩ := h
    exact .inl ⟨rfl, rfl, rfl⟩
  rw [if_neg hskip] at h
  cases hdelta : c.snapshotDelta env call with
  | none => simp [hdelta] at h
  | some delta =>
    simp only [hdelta, Option.bind_eq_bind, Option.bind_some, Option.pure_def] at h
    split at h
    · -- an alternate-screen switch issues a gap
      obtain ⟨rfl, rfl⟩ := h
      exact .inr ⟨_, rfl, issue_issues hroom rfl rfl⟩
    · split at h
      · obtain ⟨rfl, rfl⟩ := h
        exact .inl ⟨rfl, rfl, rfl⟩
      · cases delta with
        | noChange =>
          obtain ⟨rfl, rfl⟩ := h
          exact .inl ⟨rfl, rfl, rfl⟩
        | content | gap =>
          obtain ⟨rfl, rfl⟩ := h
          exact .inr ⟨_, rfl, issue_issues hroom rfl rfl⟩

variable {captured : CapturedSegment}

/-- Without saturation, and when the shifted number is past the stored one,
a realignment moves the cursor by the shift: the clamp to `storage_seq + 1`
does not fire. -/
theorem realignNextSeq_spec {storageSeq : UInt64} (hquiet : RealignQuiet c captured storageSeq)
    (hpast : (storageSeq.toNat : Int) + 1 ≤ c.nextSeq.toNat + (captured.seqCorrection +
      (storageSeq.toNat - captured.seq.toNat) - c.seqCorrection)) :
    (realignNextSeq c captured storageSeq).1 =
        captured.seqCorrection + (storageSeq.toNat - captured.seq.toNat) -
          c.seqCorrection ∧
      (realignNextSeq c captured storageSeq).2.seqCorrection =
        captured.seqCorrection + (storageSeq.toNat - captured.seq.toNat) ∧
      ((realignNextSeq c captured storageSeq).2.nextSeq.toNat : Int) = c.nextSeq.toNat +
          (captured.seqCorrection + (storageSeq.toNat - captured.seq.toNat) -
            c.seqCorrection) := by
  obtain ⟨hcorr, hshift, hsum, hmax⟩ := hquiet
  unfold realignNextSeq
  simp only [hcorr, hshift, hsum, Int.max_eq_left hpast]
  generalize captured.seqCorrection + ((storageSeq.toNat : Int) - captured.seq.toNat)
    = correction at *
  refine ⟨trivial, ?_, ?_⟩
  · by_cases hzero : correction - c.seqCorrection = 0
    · have hsame : c.seqCorrection = correction := by omega
      split <;> simp [hsame]
    · simp [hzero]
  · by_cases hzero : correction - c.seqCorrection = 0
    · split <;> simp [hzero]
    · have hle : ¬ (c.nextSeq.toNat : Int) + (correction - c.seqCorrection) >
          u64Max.toNat := by omega
      have hto : u64TryFrom (c.nextSeq.toNat + (correction - c.seqCorrection)) = some (UInt64.ofNat
            ((c.nextSeq.toNat : Int) + (correction - c.seqCorrection)).toNat) := by
        rw [u64TryFrom, if_pos ⟨by omega, hmax⟩]
      have hmax' : u64Max.toNat = 2 ^ 64 - 1 := rfl
      simp only [ne_eq, hzero, not_false_eq_true, if_true, hle, if_false, hto, getD_some, or_true]
      rw [UInt64.toNat_ofNat', Nat.mod_eq_of_lt (by omega)]
      omega

/-! ## What one step can do -/

/-- The event is one of the capturing calls. -/
def Event.isCapture : Event → Bool
  | .snapshot _ | .delta _ _ | .gap _ _ => true
  | .lose _ | .persist _ | .ack => false

/-- The effect of a step without saturation on the numbering, one case for
each kind of step. -/
inductive Moves (sys : System) : Event → System → Prop
  | idle (ev : Event) (hev : ev.isCapture = true) (c : PaneCursor)
      (hnext : c.nextSeq = sys.cursor.nextSeq)
      (hcorr : c.seqCorrection = sys.cursor.seqCorrection) :
      Moves sys ev { sys with cursor := c }
  | issue (ev : Event) (hev : ev.isCapture = true) (seg : CapturedSegment)
      (c : PaneCursor) (hissue : Issues sys.cursor seg c) :
      Moves sys ev (sys.enqueue seg c)
  | lose (pos : Nat) :
      Moves sys (.lose pos) { sys with queue := sys.queue.eraseIdx pos }
  | persist (k : Nat) (rest : List Nat) (seq : UInt64) (hqueue : sys.queue = k :: rest)
      (hlast : ∀ last ∈ sys.lastStored, last < seq) :
      Moves sys (.persist seq)
        { sys with queue := rest, stored := sys.stored ++ [(k, seq)] }
  | ack (k : Nat) (seq : UInt64) (captured : CapturedSegment)
      (hstored : sys.stored[sys.acked]? = some (k, seq))
      (hissued : sys.issued[k]? = some captured)
      (hquiet : RealignQuiet sys.cursor captured seq) :
      Moves sys .ack { sys with
        cursor := (realignNextSeq sys.cursor captured seq).2
        acked := sys.acked + 1 }

theorem step_moves (hquiet : Quiet sys ev) (h : step env sys ev = some sys') :
    Moves sys ev sys' := by
  cases ev with
  | snapshot call =>
    unfold step at h
    cases hcap : sys.cursor.captureSnapshot env call with
    | none => simp [hcap] at h
    | some out =>
      obtain ⟨seg, c⟩ := out
      rcases captureSnapshot_numbering hcap hquiet with
        ⟨rfl, hnext, hcorr⟩ | ⟨s, rfl, hissue⟩
      · simp only [hcap, some.injEq] at h
        exact h ▸ Moves.idle _ rfl c hnext hcorr
      · simp only [hcap, some.injEq] at h
        exact h ▸ Moves.issue _ rfl s c hissue
  | delta | gap =>
    obtain rfl : _ = sys' := some.inj h
    exact Moves.issue _ rfl _ _ (issue_issues hquiet rfl rfl)
  | lose pos =>
    simp only [step] at h
    split at h
    · obtain rfl : _ = sys' := some.inj h
      exact Moves.lose pos
    · cases h
  | persist seq =>
    unfold step at h
    cases hqueue : sys.queue with
    | nil => simp [hqueue] at h
    | cons k rest =>
      simp only [hqueue] at h
      split at h
      · rename_i hlast
        obtain rfl : _ = sys' := some.inj h
        exact Moves.persist k rest seq hqueue hlast
      · cases h
  | ack =>
    unfold step at h
    cases hstored : sys.stored[sys.acked]? with
    | none => simp [hstored] at h
    | some entry =>
      obtain ⟨k, seq⟩ := entry
      cases hissued : sys.issued[k]? with
      | none => simp [hstored, hissued] at h
      | some captured =>
        simp only [hstored, hissued, bind_eq_bind, bind_some, some.injEq] at h
        exact h ▸ Moves.ack k seq captured hstored hissued
          (hquiet (k, seq) hstored captured hissued)

/-! ## The invariant -/

/-- Numbers count captures.  `base` is the number the first capture would
have had without any correction; an acknowledged capture fixes the
correction. -/
structure Numbered (base : Int) (sys : System) : Prop where
  next : (sys.cursor.nextSeq.toNat : Int) - sys.cursor.seqCorrection = base + sys.issued.length
  stamped : ∀ (k : Nat) (captured : CapturedSegment), sys.issued[k]? = some captured →
    (captured.seq.toNat : Int) - captured.seqCorrection = base + k
  aligned : ∀ (k : Nat) (s : UInt64), 0 < sys.acked → sys.stored[sys.acked - 1]? = some (k, s) →
    sys.cursor.seqCorrection = s.toNat - base - k

/-- Captures travel in the order of issue. -/
structure Ordered (sys : System) : Prop where
  sorted : (sys.stored.map Prod.fst ++ sys.queue).Pairwise (· < ·)
  bounded : ∀ k ∈ sys.stored.map Prod.fst ++ sys.queue, k < sys.issued.length
  acked : sys.acked ≤ sys.stored.length

theorem numbered_init (start : PaneCursor) :
    Numbered (start.nextSeq.toNat - start.seqCorrection) (System.init start) := by
  refine ⟨?_, ?_, ?_⟩
  · simp [System.init]
  · intro k captured h
    simp [System.init] at h
  · intro k s h
    simp [System.init] at h

theorem ordered_init (start : PaneCursor) : Ordered (System.init start) := by
  refine ⟨?_, ?_, ?_⟩ <;> simp [System.init]

/-- The realignment arithmetic under the invariant: the correction a stored
capture asks for, and the number the cursor lands on. -/
theorem Numbered.realign (h : Numbered base sys) {seq : UInt64}
    (hissued : sys.issued[k]? = some captured) (hquiet : RealignQuiet sys.cursor captured seq) :
    (realignNextSeq sys.cursor captured seq).1 = seq.toNat - base - k - sys.cursor.seqCorrection ∧
      (realignNextSeq sys.cursor captured seq).2.seqCorrection = seq.toNat - base - k ∧
      ((realignNextSeq sys.cursor captured seq).2.nextSeq.toNat : Int) =
        seq.toNat + (sys.issued.length - k) := by
  have hstamp := h.stamped k captured hissued
  have hnext := h.next
  have hk : k < sys.issued.length := (List.getElem?_eq_some_iff.mp hissued).1
  obtain ⟨h1, h2, h3⟩ := realignNextSeq_spec hquiet (by omega)
  refine ⟨by omega, by omega, by omega⟩

private theorem getElem?_snoc {α : Type} {l : List α} {a x : α} (h : (l ++ [a])[k]? = some x) :
    l[k]? = some x ∨ k = l.length ∧ x = a := by
  by_cases hk : k < l.length
  · rw [getElem?_append_left hk] at h
    exact .inl h
  · rw [getElem?_append_right (Nat.le_of_not_lt hk), getElem?_singleton] at h
    split at h
    · exact .inr ⟨by omega, (some.inj h).symm⟩
    · cases h

theorem Numbered.step (h : Numbered base sys) (hord : Ordered sys) (hmove : Moves sys ev sys') :
    Numbered base sys' := by
  cases hmove with
  | idle _ _ _ hnext hcorr =>
    refine ⟨?_, h.stamped, ?_⟩
    · simpa [hnext, hcorr] using h.next
    · intro k s hpos hget
      simpa [hcorr] using h.aligned k s hpos hget
  | issue _ _ seg _ hissue =>
    obtain ⟨hseq, hcorr, hkeeps, hnext⟩ := hissue
    have hcount := h.next
    refine ⟨?_, ?_, ?_⟩
    · simp only [System.enqueue, length_append, length_cons, length_nil, hkeeps, hnext]
      push_cast
      omega
    · intro k captured hget
      rcases getElem?_snoc hget with hold | ⟨rfl, rfl⟩
      · exact h.stamped k captured hold
      · rw [hseq, hcorr]
        omega
    · intro k s hpos hget
      simpa [System.enqueue, hkeeps] using h.aligned k s hpos hget
  | lose => exact ⟨h.next, h.stamped, h.aligned⟩
  | persist =>
    refine ⟨h.next, h.stamped, ?_⟩
    intro k' s hpos hget
    have hlt : sys.acked - 1 < sys.stored.length :=
      Nat.lt_of_lt_of_le (Nat.sub_one_lt_of_lt hpos) hord.acked
    exact h.aligned k' s hpos (by rwa [getElem?_append_left hlt] at hget)
  | ack _ _ _ hstored hissued hquiet =>
    obtain ⟨_, hcorr, hnext⟩ := h.realign hissued hquiet
    refine ⟨?_, h.stamped, ?_⟩
    · rw [hcorr, hnext]
      show _ = base + (sys.issued.length : Int)
      omega
    · intro k' s _ hget
      simp only [Nat.add_sub_cancel, hstored, some.injEq, Prod.mk.injEq] at hget
      obtain ⟨rfl, rfl⟩ := hget
      exact hcorr

theorem Ordered.step (h : Ordered sys) (hmove : Moves sys ev sys') : Ordered sys' := by
  cases hmove with
  | idle => exact ⟨h.sorted, h.bounded, h.acked⟩
  | issue =>
    have hassoc : sys.stored.map Prod.fst ++ (sys.queue ++ [sys.issued.length]) =
        (sys.stored.map Prod.fst ++ sys.queue) ++ [sys.issued.length] :=
      (append_assoc _ _ _).symm
    refine ⟨?_, ?_, h.acked⟩
    · simp only [System.enqueue, hassoc]
      refine pairwise_append.mpr ⟨h.sorted, pairwise_singleton _ _, ?_⟩
      intro k hk j hj
      rw [mem_singleton.mp hj]
      exact h.bounded k hk
    · intro k hk
      simp only [System.enqueue, hassoc, length_append, length_cons, length_nil] at hk ⊢
      rcases mem_append.mp hk with hk | hk
      · have := h.bounded k hk
        omega
      · rw [mem_singleton.mp hk]
        omega
  | lose pos =>
    have hsub : (sys.stored.map Prod.fst ++ sys.queue.eraseIdx pos).Sublist
        (sys.stored.map Prod.fst ++ sys.queue) :=
      List.Sublist.append_left (eraseIdx_sublist _ _) _
    exact ⟨h.sorted.sublist hsub, fun k hk => h.bounded k (hsub.subset hk), h.acked⟩
  | persist k rest seq hqueue =>
    have hsame : (sys.stored ++ [(k, seq)]).map Prod.fst ++ rest =
        sys.stored.map Prod.fst ++ sys.queue := by
      simp [hqueue]
    refine ⟨hsame ▸ h.sorted, hsame ▸ h.bounded, ?_⟩
    simp only [length_append, length_cons, length_nil]
    have := h.acked
    omega
  | ack _ _ _ hstored =>
    have hlt : sys.acked < sys.stored.length :=
      (List.getElem?_eq_some_iff.mp hstored).1
    exact ⟨h.sorted, h.bounded, hlt⟩

/-- Later positions hold later captures. -/
theorem Ordered.lt (h : Ordered sys) {i j a b : Nat} {t : UInt64} (hij : i < j)
    (hi : sys.stored[i]? = some (a, t)) {u : UInt64} (hj : sys.stored[j]? = some (b, u)) :
    a < b := by
  obtain ⟨hi, hiEq⟩ := List.getElem?_eq_some_iff.mp hi
  obtain ⟨hj, hjEq⟩ := List.getElem?_eq_some_iff.mp hj
  have hpair := List.pairwise_iff_getElem.mp (List.pairwise_append.mp h.sorted).1 i j
    (by simpa using hi) (by simpa using hj) hij
  simpa only [getElem_map, hiEq, hjEq] using hpair

/-- The invariant of every reachable system. -/
theorem reach_numbered {start : PaneCursor} (h : Reach env start sys) :
    Numbered (start.nextSeq.toNat - start.seqCorrection) sys ∧ Ordered sys := by
  induction h with
  | init => exact ⟨numbered_init start, ordered_init start⟩
  | step _ _ hquiet hstep ih =>
    have hmove := step_moves hquiet hstep
    exact ⟨ih.1.step ih.2 hmove, ih.2.step hmove⟩

/-! ## Lossless continuations -/

/-- Nothing issued after capture `k`, stored at `s`, has been lost: all of it
is stored or queued, and storage has numbered its part consecutively. -/
structure Intact (sys : System) (k : Nat) (s : UInt64) : Prop where
  contiguous : (sys.stored.drop sys.acked).map Prod.fst ++ sys.queue =
    List.range' (k + 1) (sys.issued.length - (k + 1))
  consecutive : (sys.stored.drop sys.acked).map (fun entry => entry.2.toNat) =
    List.range' (s.toNat + 1) (sys.stored.length - sys.acked)

/-- Storage continues its numbering without a hole. -/
def PersistsNext (sys : System) : Event → Prop
  | .persist seq => ∀ last ∈ sys.lastStored, seq.toNat = last.toNat + 1
  | .lose _ => False
  | _ => True

/-- Continuations in which nothing is lost and storage skips no number. -/
inductive Lossless (env : IngestEnv) (sys : System) : System → Prop
  | refl : Lossless env sys sys
  | step {mid sys' : System} (ev : Event) : Lossless env sys mid → Quiet mid ev →
      PersistsNext mid ev → step env mid ev = some sys' → Lossless env sys sys'

/-- The invariant of a lossless continuation.  From position `at_` on, storage
holds the captures `k`, `k + 1`, … under the numbers `s`, `s + 1`, …, the
queue continues them up to the last capture issued, and everything from
capture `fresh` on was issued under the correction that `k` and `s` ask for. -/
structure InStep (base : Int) (k : Nat) (s : UInt64) (at_ fresh : Nat)
    (sys : System) : Prop where
  numbered : Numbered base sys
  ordered : Ordered sys
  settled : at_ < sys.acked
  correction : sys.cursor.seqCorrection = s.toNat - base - k
  contiguous : (sys.stored.drop at_).map Prod.fst ++ sys.queue =
    List.range' k (sys.issued.length - k)
  offset : ∀ entry ∈ sys.stored.drop at_, entry.2.toNat + k = s.toNat + entry.1
  stamped : ∀ (j : Nat) (captured : CapturedSegment), fresh ≤ j →
    sys.issued[j]? = some captured → captured.seqCorrection = s.toNat - base - k

/-- The next queued capture directly follows the last stored one. -/
theorem InStep.next_queued (h : InStep base k s at_ fresh sys) {q : Nat} {rest : List Nat}
    (hqueue : sys.queue = q :: rest) :
    ∃ last, sys.stored.getLast? = some last ∧ last ∈ sys.stored.drop at_ ∧
      q = last.1 + 1 := by
  have hlt : at_ < sys.stored.length := Nat.lt_of_lt_of_le h.settled h.ordered.acked
  have hne : sys.stored.drop at_ ≠ [] := by
    intro hnil
    have := drop_eq_nil_iff.mp hnil
    omega
  have hget : sys.stored.getLast? = some ((sys.stored.drop at_).getLast hne) := by
    rw [← getLast?_eq_some_getLast hne, getLast?_drop, if_neg (Nat.not_le_of_lt hlt)]
  refine ⟨(sys.stored.drop at_).getLast hne, hget, getLast_mem hne, ?_⟩
  -- the two indices are neighbours in `range' k _`
  have hpos : 0 < (sys.stored.drop at_).length := length_pos_iff.mpr hne
  have hcont := h.contiguous
  rw [hqueue] at hcont
  have hlen := congrArg length hcont
  simp only [length_append, length_map, length_cons, length_range'] at hlen
  have hq : q = k + (sys.stored.drop at_).length := by
    have := congrArg (fun l : List Nat => l[(sys.stored.drop at_).length]?) hcont
    rw [getElem?_append_right (by simp), getElem?_range' (by omega)] at this
    simpa using this
  have hl : ((sys.stored.drop at_).getLast hne).1 =
      k + ((sys.stored.drop at_).length - 1) := by
    have := congrArg (fun l : List Nat => l[(sys.stored.drop at_).length - 1]?) hcont
    rw [getElem?_append_left (by rw [length_map]; omega), getElem?_range' (by omega), getElem?_map,
      ← getLast?_eq_getElem?, getLast?_eq_some_getLast hne] at this
    simpa using this
  omega

theorem InStep.step (h : InStep base k s at_ fresh sys) (hk : k < sys.issued.length)
    (hnext : PersistsNext sys ev) (hmove : Moves sys ev sys') : InStep base k s at_ fresh sys' := by
  have hnum := h.numbered.step h.ordered hmove
  have hord := h.ordered.step hmove
  cases hmove with
  | idle _ _ _ _ hcorr =>
    exact ⟨hnum, hord, h.settled, hcorr.trans h.correction, h.contiguous, h.offset, h.stamped⟩
  | issue _ _ seg _ hissue =>
    refine ⟨hnum, hord, h.settled, hissue.keeps.trans h.correction, ?_, h.offset, ?_⟩
    · have hsucc : sys.issued.length + 1 - k = (sys.issued.length - k) + 1 := by
        omega
      have hend : k + 1 * (sys.issued.length - k) = sys.issued.length := by omega
      simp only [System.enqueue, length_append, length_cons, length_nil]
      rw [← append_assoc, h.contiguous, hsucc, range'_concat, hend]
    · intro j captured hj hget
      rcases getElem?_snoc hget with hold | ⟨rfl, rfl⟩
      · exact h.stamped j captured hj hold
      · exact hissue.seqCorrection.trans h.correction
  | lose => exact absurd hnext not_false
  | persist q _ seq hqueue =>
    have hlt : at_ ≤ sys.stored.length :=
      Nat.le_of_lt (Nat.lt_of_lt_of_le h.settled h.ordered.acked)
    have hdrop : (sys.stored ++ [(q, seq)]).drop at_ =
        sys.stored.drop at_ ++ [(q, seq)] := drop_append_of_le_length hlt
    refine ⟨hnum, hord, h.settled, h.correction, ?_, ?_, h.stamped⟩
    · simp only [hdrop]
      rw [← h.contiguous, hqueue]
      simp
    · intro entry hentry
      simp only [hdrop] at hentry
      rcases mem_append.mp hentry with hentry | hentry
      · exact h.offset entry hentry
      · obtain ⟨last, hget, hmem, hq⟩ := h.next_queued hqueue
        have hseq : seq.toNat = last.2.toNat + 1 :=
          hnext last.2 (by rw [System.lastStored, hget]; rfl)
        have hoff := h.offset last hmem
        rw [mem_singleton.mp hentry]
        simp only [hseq, hq]
        omega
  | ack k' seq _ hstored hissued hquiet =>
    obtain ⟨_, hcorr, _⟩ := h.numbered.realign hissued hquiet
    have hmem : (k', seq) ∈ sys.stored.drop at_ := by
      have hget : (sys.stored.drop at_)[sys.acked - at_]? = some (k', seq) := by
        rw [getElem?_drop, Nat.add_sub_cancel' (Nat.le_of_lt h.settled)]
        exact hstored
      exact mem_of_getElem? hget
    have hoff := h.offset _ hmem
    refine ⟨hnum, hord, Nat.lt_succ_of_lt h.settled, ?_, h.contiguous, h.offset, h.stamped⟩
    simp only at hoff
    rw [hcorr]
    omega

theorem Moves.issued_le (h : Moves sys ev sys') :
    sys.issued.length ≤ sys'.issued.length := by
  cases h with
  | issue => simp [System.enqueue]
  | _ => exact le_rfl

theorem Lossless.inStep (h : InStep base k s at_ fresh sys) (hk : k < sys.issued.length)
    (hrun : Lossless env sys sys') : InStep base k s at_ fresh sys' ∧ k < sys'.issued.length := by
  induction hrun with
  | refl => exact ⟨h, hk⟩
  | step _ _ hquiet hnext hstep ih =>
    have hmove := step_moves hquiet hstep
    exact ⟨ih.1.step ih.2 hnext hmove, Nat.lt_of_lt_of_le ih.2 hmove.issued_le⟩

/-- An acknowledgement of an intact stretch starts a lossless continuation. -/
theorem Intact.inStep (hnum : Numbered base sys) (hord : Ordered sys) (hpos : 0 < sys.acked)
    (hget : sys.stored[sys.acked - 1]? = some (k, s)) (hk : k < sys.issued.length)
    (h : Intact sys k s) : InStep base k s (sys.acked - 1) sys.issued.length sys := by
  have hlt : sys.acked - 1 < sys.stored.length := (List.getElem?_eq_some_iff.mp hget).1
  have hdrop : sys.stored.drop (sys.acked - 1) = (k, s) :: sys.stored.drop sys.acked := by
    have hcons := List.drop_eq_getElem_cons hlt
    rw [Nat.sub_add_cancel hpos, (List.getElem?_eq_some_iff.mp hget).2] at hcons
    exact hcons
  refine ⟨hnum, hord, Nat.sub_lt hpos Nat.one_pos, hnum.aligned k s hpos hget, ?_, ?_, ?_⟩
  · have hlen : sys.issued.length - k = (sys.issued.length - (k + 1)) + 1 := by omega
    rw [hdrop, hlen, range'_succ, map_cons, cons_append, h.contiguous]
  · intro entry hentry
    rw [hdrop] at hentry
    rcases mem_cons.mp hentry with rfl | hentry
    · rfl
    · -- position `i` of the unacknowledged part: capture `k + 1 + i` under `s + 1 + i`
      obtain ⟨i, hi, rfl⟩ := getElem_of_mem hentry
      have hfst := congrArg (fun l : List Nat => l[i]?) h.contiguous
      have hsnd := congrArg (fun l : List Nat => l[i]?) h.consecutive
      have hlenF := congrArg length h.contiguous
      simp only [length_append, length_map, length_range', length_drop] at hlenF
      have hi' := hi
      rw [length_drop] at hi'
      rw [getElem?_append_left (by simpa using hi), getElem?_map,
        getElem?_eq_getElem hi, getElem?_range' (by omega)] at hfst
      rw [getElem?_map, getElem?_eq_getElem hi, getElem?_range' (by omega)] at hsnd
      simp only [map_some, some.injEq] at hfst hsnd
      omega
  · intro j captured hj hissued
    have := (List.getElem?_eq_some_iff.mp hissued).1
    omega

/-- Under the invariant of a lossless continuation a capture issued since its
start carries the number storage gave it. -/
theorem InStep.seq_eq (h : InStep base k s at_ fresh sys) (hfresh : k < fresh)
    (hat : sys.stored[at_]? = some (k, s)) {j : Nat} {t : UInt64} (hmem : (j, t) ∈ sys.stored)
    (hj : fresh ≤ j) (hissued : sys.issued[j]? = some captured) : captured.seq = t := by
  have hmem' : (j, t) ∈ sys.stored.drop at_ := by
    obtain ⟨i, hget⟩ := getElem?_of_mem hmem
    have hle : at_ ≤ i := by
      -- earlier positions hold earlier captures
      by_contra hlt
      have := h.ordered.lt (by omega) hget hat
      omega
    refine mem_of_getElem? (i := i - at_) ?_
    rw [getElem?_drop, Nat.add_sub_cancel' hle, hget]
  have hoff := h.offset _ hmem'
  have hnum := h.numbered.stamped j captured hissued
  have hcorr := h.stamped j captured hj hissued
  apply UInt64.toNat_inj.mp
  simp only at hoff
  omega

theorem Moves.stored_isPrefixOf (h : Moves sys ev sys') :
    sys.stored <+: sys'.stored := by
  cases h with
  | persist => exact prefix_append _ _
  | _ => exact prefix_refl _

theorem Lossless.stored_isPrefixOf (h : Lossless env sys sys') : sys.stored <+: sys'.stored := by
  induction h with
  | refl => exact prefix_refl _
  | step _ _ hquiet _ hstep ih => exact ih.trans (step_moves hquiet hstep).stored_isPrefixOf

/-- **Realignment converges and never shifts twice.**  When the producer hears
that capture `k` was stored at `s`:

* its next number is `s` plus the captures issued from `k` on;
* if nothing after `k` is lost and storage numbers consecutively, this stays so
  along every continuation, and every capture issued since is stored under
  exactly the number it carries;
* the shift applied is the drift between the two numberings since the previous
  acknowledgement `k₀` at `s₀`, whatever corrections were applied when `k` was
  issued; with consecutive storage numbers it is zero unless a capture between
  `k₀` and `k` was lost. -/
theorem realign_converges (env : IngestEnv) (start : PaneCursor)
    (sys sys' : System) (hreach : Reach env start sys) (hquiet : Quiet sys .ack)
    (hack : step env sys .ack = some sys') :
    ∃ (k : Nat) (s : UInt64) (captured : CapturedSegment),
      sys.stored[sys.acked]? = some (k, s) ∧ sys.issued[k]? = some captured ∧
      sys'.cursor = (realignNextSeq sys.cursor captured s).2 ∧
      sys'.cursor.nextSeq.toNat = s.toNat + (sys'.issued.length - k) ∧
      (Intact sys' k s → ∀ later, Lossless env sys' later →
        later.cursor.nextSeq.toNat = s.toNat + (later.issued.length - k) ∧
        ∀ (j : Nat) (t : UInt64) (c : CapturedSegment), (j, t) ∈ later.stored →
          sys'.issued.length ≤ j → later.issued[j]? = some c → c.seq = t) ∧
      ∀ (k₀ : Nat) (s₀ : UInt64), 0 < sys.acked → sys.stored[sys.acked - 1]? = some (k₀, s₀) →
        k₀ < k ∧
        (realignNextSeq sys.cursor captured s).1 = ((s.toNat : Int) - s₀.toNat) - ((k : Int) - k₀) ∧
        (s.toNat = s₀.toNat + 1 →
          ((realignNextSeq sys.cursor captured s).1 = 0 ↔ k = k₀ + 1)) := by
  obtain ⟨hnum, hord⟩ := reach_numbered hreach
  have hmove := step_moves hquiet hack
  have hnum' := hnum.step hord hmove
  have hord' := hord.step hmove
  cases hmove with
  | idle _ hev | issue _ hev => cases hev
  | ack k s captured hstored hissued hrq =>
    obtain ⟨hshift, hcorr, hnext⟩ := hnum.realign hissued hrq
    have hk : k < sys.issued.length := (List.getElem?_eq_some_iff.mp hissued).1
    refine ⟨k, s, captured, hstored, hissued, rfl, ?_, ?_, ?_⟩
    · show (realignNextSeq sys.cursor captured s).2.nextSeq.toNat =
        s.toNat + (sys.issued.length - k)
      omega
    · intro hintact later hrun
      obtain ⟨hin, hk'⟩ := hrun.inStep (hintact.inStep hnum' hord' (Nat.succ_pos _)
        (by simpa using hstored) hk) hk
      refine ⟨?_, ?_⟩
      · have h1 := hin.numbered.next
        have h2 := hin.correction
        omega
      · intro j t c hmem hj hc
        refine hin.seq_eq hk ?_ hmem hj hc
        obtain ⟨more, hmore⟩ := hrun.stored_isPrefixOf
        rw [← hmore]
        show (sys.stored ++ more)[sys.acked]? = some (k, s)
        rw [List.getElem?_append_left (List.getElem?_eq_some_iff.mp hstored).1]
        exact hstored
    · intro k₀ s₀ hpos hget
      have halign := hnum.aligned k₀ s₀ hpos hget
      have hlt : k₀ < k := hord.lt (by omega) hget hstored
      exact ⟨hlt, by omega, by omega⟩

/-- A run of events without saturation. -/
def run (env : IngestEnv) (sys : System) (events : List Event) : Option System :=
  events.foldlM (fun sys ev => if Quiet sys ev then step env sys ev else none) sys

theorem reach_of_run {start : PaneCursor} (h : Reach env start sys) (events : List Event)
    (hrun : run env sys events = some sys') : Reach env start sys' := by
  refine Verified.Loop.foldlM_preserves _ (Reach env start) (fun _ ev _ hnow hstep => ?_) events
    hrun h
  split at hstep
  · next hquiet => exact .step ev hnow hquiet hstep
  · cases hstep

/-- Three captures are issued, the first is lost, and storage takes the second
as its number `0`. -/
def firstLostEvents : List Event :=
  [.delta "a" 0, .delta "b" 1, .delta "c" 2, .lose 0, .persist 0]

/-- The lost capture shifts the numbering by one: the acknowledged capture `1`
sits at `0`, so the next number is `0 + 2`. -/
theorem realign_converges_firstLost :
    ∃ sys sys', run ⟨.scan, false⟩ (.init (.new 7)) firstLostEvents = some sys ∧
      step ⟨.scan, false⟩ sys .ack = some sys' ∧ sys.stored = [(1, 0)] ∧
      sys'.cursor.nextSeq.toNat = 0 + (3 - 1) := by
  obtain ⟨sys, hrun⟩ : ∃ sys, run ⟨.scan, false⟩ (.init (.new 7)) firstLostEvents = some sys :=
    isSome_iff_exists.mp (by decide +kernel)
  have hfacts : (run ⟨.scan, false⟩ (.init (.new 7)) firstLostEvents).all (fun sys =>
      decide (Quiet sys .ack) && (step ⟨.scan, false⟩ sys .ack).isSome &&
        decide (sys.stored = [(1, 0)]) && decide (sys.acked = 0) &&
        decide (sys.issued.length = 3)) := by decide +kernel
  rw [hrun] at hfacts
  simp only [all_some, Bool.and_eq_true, decide_eq_true_eq] at hfacts
  obtain ⟨⟨⟨⟨hquiet, hsome⟩, hstored⟩, hacked⟩, hissued⟩ := hfacts
  obtain ⟨sys', hack⟩ := isSome_iff_exists.mp hsome
  obtain ⟨k, s, captured, hget, _, _, hnext, _⟩ :=
    realign_converges ⟨.scan, false⟩ (.new 7) sys sys'
      (reach_of_run .init firstLostEvents hrun) hquiet hack
  obtain ⟨rfl, rfl⟩ : 1 = k ∧ 0 = s := by simpa [hstored, hacked] using hget
  refine ⟨sys, sys', hrun, hack, hstored, hnext.trans ?_⟩
  have hlen : sys'.issued.length = sys.issued.length := by
    have hmove := step_moves hquiet hack
    cases hmove with
    | idle _ hev | issue _ hev => cases hev
    | ack => rfl
  rw [hlen, hissued]
  rfl

end FrankenTerm.Ports.IngestRealign
