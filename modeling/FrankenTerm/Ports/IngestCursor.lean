import FrankenTerm.Ports.IngestDelta

/-!
# The capture cursor of a pane (`PaneCursor` in `ingest.rs`)

The cursor remembers the last snapshot of a pane and turns the next one into
a numbered segment: a delta when the new text continues the old one, a gap
that carries the whole snapshot when it does not.  An alternate-screen switch
forces a gap even where the delta extraction succeeds.

The consumer of the segments appends deltas and lets a gap replace what it
has.  `feed` runs cursor and consumer side by side; the invariant is that the
consumer's text ends with the cursor's `lastSnapshot`, whatever branch a call
takes.

`last_hash` is written and never read, and is left out.  `captured_at` is the
clock reading of the call, an argument here.

## Main results

* `captureSnapshot_spec` — one call keeps every consumer up to date.
* `feed_endsWith` — after every call the consumer's text ends with the snapshot.
-/

namespace FrankenTerm.Ports.IngestCursor

open Verified.Loop Verified.Utf8 IngestDelta

/-! ## Segments and the cursor -/

/-- `CapturedSegmentKind`. -/
inductive CapturedSegmentKind where
  | delta
  | gap (reason : String)
  deriving Repr, DecidableEq

/-- `CapturedSegment`. -/
structure CapturedSegment where
  paneId : UInt64
  seq : UInt64
  seqCorrection : Int
  content : String
  kind : CapturedSegmentKind
  capturedAt : Int
  deriving Repr, DecidableEq

/-- `PaneCursor`. -/
structure PaneCursor where
  paneId : UInt64
  nextSeq : UInt64
  lastSnapshot : String
  inGap : Bool
  inAltScreen : Bool
  resumeAnchor : Option String
  seqCorrection : Int
  deriving Repr, DecidableEq

/-- `PaneCursor::from_seq`. -/
def PaneCursor.fromSeq (paneId nextSeq : UInt64) : PaneCursor :=
  { paneId, nextSeq, lastSnapshot := "", inGap := false, inAltScreen := false,
    resumeAnchor := none, seqCorrection := 0 }

/-- `PaneCursor::new`. -/
def PaneCursor.new (paneId : UInt64) : PaneCursor := PaneCursor.fromSeq paneId 0

/-- `u64::MAX`. -/
def u64Max : UInt64 := 0xFFFFFFFFFFFFFFFF

/-- `PaneCursor::bump_next_seq`: a full counter stays where it is. -/
def PaneCursor.bumpNextSeq (c : PaneCursor) : PaneCursor :=
  if c.nextSeq = u64Max then c else { c with nextSeq := c.nextSeq + 1 }

/-- The tail of every capturing method: take the current number, bump, and
stamp the segment with the correction in force. -/
def PaneCursor.issue (c : PaneCursor) (content : String)
    (kind : CapturedSegmentKind) (capturedAt : Int) :
    CapturedSegment × PaneCursor :=
  ({ paneId := c.paneId, seq := c.nextSeq, seqCorrection := c.seqCorrection,
     content, kind, capturedAt }, c.bumpNextSeq)

/-- `PaneCursor::capture_delta`. -/
def PaneCursor.captureDelta (c : PaneCursor) (content : String) (capturedAt : Int) :
    CapturedSegment × PaneCursor :=
  ({ c with inGap := false }).issue content .delta capturedAt

/-- `PaneCursor::emit_gap`. -/
def PaneCursor.emitGap (c : PaneCursor) (reason : String) (now : Int) :
    CapturedSegment × PaneCursor :=
  ({ c with inGap := true }).issue "" (.gap reason) now

/-! ## Alternate screen -/

/-- `AltScreenChange`. -/
inductive AltScreenChange where
  | entered
  | exited
  deriving Repr, DecidableEq

/-- `alt_screen_change_at`. -/
def altScreenChangeAt (text : List UInt8) (pos : Nat) : Option AltScreenChange :=
  let tail := text.drop pos
  if pos > text.length then none
  else if (bytes "\x1b[?1049h").isPrefixOf tail || (bytes "\x1b[?47h").isPrefixOf tail then
    some .entered
  else if (bytes "\x1b[?1049l").isPrefixOf tail || (bytes "\x1b[?47l").isPrefixOf tail then
    some .exited
  else none

/-- `detect_alt_screen_changes`. -/
def detectAltScreenChanges (memchr : MemchrIter) (text : String) :
    List AltScreenChange :=
  (memchr.iter 0x1b (bytes text)).filterMap (altScreenChangeAt (bytes text))

/-- The state after the detected changes, in order. -/
def altStateAfter (state : Bool) (changes : List AltScreenChange) : Bool :=
  changes.foldl
    (fun next change =>
      let s := match change with
        | .entered => true
        | .exited => false
      if s != next then s else next)
    state

/-! ## Capturing a snapshot -/

/-- `str::rfind` on bytes: the last offset at which the needle occurs. -/
def rfind (haystack needle : String) : Option Nat :=
  (List.range ((bytes haystack).length + 1)).reverse.find? fun pos =>
    (bytes needle).isPrefixOf ((bytes haystack).drop pos)

/-- `resume_delta_from_anchor`. -/
def resumeDeltaFromAnchor (anchor current : String) : Option DeltaResult :=
  match rfind current anchor with
  | some position => do
    let delta ← sliceFrom? current (position + (bytes anchor).length)
    return if delta = "" then .noChange else .content delta
  | none => some (.gap "resume_anchor_not_found" current)

/-- What a capture reads besides the cursor and its arguments: the byte
search and the process-wide `delta_linear_overlap_enabled()`. -/
structure IngestEnv where
  memchr : MemchrIter
  linearEnabled : Bool

/-- One call of `capture_snapshot`, with the clock reading `epoch_ms()`. -/
structure SnapshotCall where
  current : String
  overlapSize : Nat
  externalAltScreen : Option Bool
  now : Int

/-- The delta of a snapshot against the cursor: a cursor resumed from storage
has no baseline and is anchored against what is already persisted. -/
def PaneCursor.snapshotDelta (env : IngestEnv) (c : PaneCursor)
    (call : SnapshotCall) : Option DeltaResult :=
  match c.resumeAnchor, decide (c.lastSnapshot = "") with
  | some anchor, true => resumeDeltaFromAnchor anchor call.current
  | _, _ =>
    extractDelta env.memchr env.linearEnabled c.lastSnapshot call.current
      call.overlapSize

/-- The end of `capture_snapshot`, after the alternate-screen test: turn the
extracted delta into a segment. -/
def PaneCursor.emitDelta (c : PaneCursor) (delta : DeltaResult) (now : Int) :
    Option CapturedSegment × PaneCursor :=
  match delta with
  | .noChange => (none, c)
  | .content content =>
    let (seg, c) := ({ c with inGap := false }).issue content .delta now
    (some seg, c)
  | .gap reason content =>
    let (seg, c) := ({ c with inGap := true }).issue content (.gap reason) now
    (some seg, c)

/-- `PaneCursor::capture_snapshot`.  The outer `Option` is `none` where the
code panics. -/
def PaneCursor.captureSnapshot (env : IngestEnv) (c : PaneCursor)
    (call : SnapshotCall) : Option (Option CapturedSegment × PaneCursor) := do
  if call.current = c.lastSnapshot ∧ call.externalAltScreen = none then
    return (none, c)
  let changes := detectAltScreenChanges env.memchr call.current
  let nextState := altStateAfter c.inAltScreen changes
  let finalState := call.externalAltScreen.getD nextState
  let toggleObservedWithinTick := !changes.isEmpty && finalState == c.inAltScreen
  let actualTransitionOccurred :=
    finalState != c.inAltScreen || toggleObservedWithinTick
  let previous := c.lastSnapshot
  let delta ← c.snapshotDelta env call
  let c := { c with
    inAltScreen := finalState
    resumeAnchor := none
    lastSnapshot := call.current }
  if actualTransitionOccurred then
    let reason :=
      if toggleObservedWithinTick then "alt_screen_toggled"
      else if c.inAltScreen then "alt_screen_entered"
      else "alt_screen_exited"
    let (seg, c) :=
      ({ c with inGap := true }).issue call.current (.gap reason) call.now
    return (some seg, c)
  if call.current = previous then
    return (none, c)
  return c.emitDelta delta call.now

/-! ## The consumer -/

/-- A consumer of the segment stream: deltas are appended, a gap replaces
the text. -/
def consume (text : String) : Option CapturedSegment → String
  | none => text
  | some seg =>
    match seg.kind with
    | .delta => text ++ seg.content
    | .gap _ => seg.content

/-- `text` ends with `tail`. -/
def EndsWith (text tail : String) : Prop := ∃ front, text = front ++ tail

theorem EndsWith.refl (text : String) : EndsWith text text := ⟨"", by simp⟩

theorem EndsWith.append {text tail : String} (h : EndsWith text tail)
    (more : String) : EndsWith (text ++ more) (tail ++ more) := by
  obtain ⟨front, rfl⟩ := h
  exact ⟨front, String.append_assoc⟩

theorem EndsWith.of_append {text front tail : String}
    (h : EndsWith text (front ++ tail)) : EndsWith text tail := by
  obtain ⟨first, rfl⟩ := h
  exact ⟨first ++ front, String.append_assoc.symm⟩

/-- One call, seen by cursor and consumer. -/
def feedStep (env : IngestEnv) (st : PaneCursor × String) (call : SnapshotCall) :
    Option (PaneCursor × String) := do
  let (seg, c) ← st.1.captureSnapshot env call
  return (c, consume st.2 seg)

/-- A run of calls. -/
def feed (env : IngestEnv) (st : PaneCursor × String) (calls : List SnapshotCall) :
    Option (PaneCursor × String) :=
  calls.foldlM (feedStep env) st

/-! ## Every branch keeps the consumer up to date -/

/-- The consumer is up to date with the cursor, and the cursor has nothing
left to resume from. -/
structure Synced (c : PaneCursor) (text : String) : Prop where
  fresh : c.resumeAnchor = none
  endsWith : EndsWith text c.lastSnapshot

open PaneCursor

section

variable (env : IngestEnv) (c : PaneCursor) (content : String) (kind : CapturedSegmentKind)
  (delta : DeltaResult) (now : Int)

@[simp] theorem issue_lastSnapshot :
    (c.issue content kind now).2.lastSnapshot = c.lastSnapshot := by
  unfold issue bumpNextSeq
  split <;> rfl

@[simp] theorem issue_resumeAnchor :
    (c.issue content kind now).2.resumeAnchor = c.resumeAnchor := by
  unfold issue bumpNextSeq
  split <;> rfl

@[simp] theorem emitDelta_lastSnapshot :
    (c.emitDelta delta now).2.lastSnapshot = c.lastSnapshot := by
  cases delta <;> simp [emitDelta]

@[simp] theorem emitDelta_resumeAnchor :
    (c.emitDelta delta now).2.resumeAnchor = c.resumeAnchor := by
  cases delta <;> simp [emitDelta]

/-- Emitting a delta that explains the step from `previous` to the recorded
snapshot keeps the consumer up to date. -/
theorem emitDelta_synced {c : PaneCursor} {delta : DeltaResult} {text : String}
    {previous : String} (now : Int) (hfresh : c.resumeAnchor = none)
    (htext : EndsWith text previous) (hdelta : delta.Explains previous c.lastSnapshot) :
    Synced (c.emitDelta delta now).2 (consume text (c.emitDelta delta now).1) := by
  refine ⟨by simpa using hfresh, ?_⟩
  rw [emitDelta_lastSnapshot]
  cases delta with
  | noChange =>
    have hsame : previous = c.lastSnapshot := hdelta
    exact hsame ▸ htext
  | content delta =>
    obtain ⟨front, overlap, hprev, hcur⟩ := hdelta
    rw [hcur]
    rw [hprev] at htext
    exact htext.of_append.append delta
  | gap _ content =>
    have hcontent : content = c.lastSnapshot := hdelta
    exact hcontent ▸ EndsWith.refl content

/-- One call returns, records the snapshot it was given, and leaves an up to
date consumer up to date. -/
theorem captureSnapshot_spec {c : PaneCursor} {text : String} (hsync : Synced c text)
    (call : SnapshotCall) :
    ∃ seg c', c.captureSnapshot env call = some (seg, c') ∧
      c'.lastSnapshot = call.current ∧ Synced c' (consume text seg) := by
  unfold captureSnapshot
  by_cases hskip : call.current = c.lastSnapshot ∧ call.externalAltScreen = none
  · exact ⟨none, c, by simp [hskip], hskip.1.symm, hsync⟩
  rw [if_neg hskip]
  obtain ⟨delta, hrun, hdelta⟩ :=
    extractDelta_spec env.memchr env.linearEnabled c.lastSnapshot call.current
      call.overlapSize
  have hsnap : c.snapshotDelta env call = some delta := by
    rw [snapshotDelta, hsync.fresh]
    exact hrun
  simp only [hsnap, Option.bind_eq_bind, Option.bind_some, Option.pure_def]
  generalize call.externalAltScreen.getD (altStateAfter c.inAltScreen
    (detectAltScreenChanges env.memchr call.current)) = finalState
  generalize (detectAltScreenChanges env.memchr call.current).isEmpty = quiet
  -- a screen switch replaces the consumer's text by the whole snapshot
  by_cases halt : (finalState != c.inAltScreen || (!quiet && finalState == c.inAltScreen)) = true
  · rw [if_pos halt]
    refine ⟨_, _, rfl, by simp, by simp, ?_⟩
    show EndsWith call.current _
    simpa using EndsWith.refl call.current
  rw [if_neg halt]
  by_cases hsame : call.current = c.lastSnapshot
  · rw [if_pos hsame]
    refine ⟨_, _, rfl, rfl, rfl, ?_⟩
    simpa [consume, hsame] using hsync.endsWith
  · rw [if_neg hsame]
    have hsynced := emitDelta_synced (c := { c with
      inAltScreen := finalState, resumeAnchor := none, lastSnapshot := call.current })
      call.now rfl hsync.endsWith hdelta
    exact ⟨_, _, rfl, emitDelta_lastSnapshot _ delta call.now, hsynced⟩

end

/-- **Capture stream reconstruction.**  For every run from a new cursor, every
call returns, and after it the consumer's text ends with the snapshot that was
passed in. -/
theorem feed_endsWith (env : IngestEnv) (paneId : UInt64)
    (calls : List SnapshotCall) (call : SnapshotCall) :
    ∃ c text, feed env (PaneCursor.new paneId, "") (calls ++ [call]) = some (c, text) ∧
      EndsWith text call.current := by
  -- Cursor and consumer stay together over the calls before the last one.
  obtain ⟨⟨c, text⟩, hrun, hsync⟩ :=
    foldlM_inv (feedStep env) (fun _ st => Synced st.1 st.2) calls (.new paneId, "")
      (by
        intro _ call st _ hst
        obtain ⟨seg, c', hstep, _, hst'⟩ := captureSnapshot_spec env hst call
        exact ⟨(c', consume st.2 seg), by simp [feedStep, hstep], hst'⟩)
      ⟨rfl, .refl ""⟩
  obtain ⟨seg, c', hstep, hlast, hsync'⟩ := captureSnapshot_spec env hsync call
  refine ⟨c', consume text seg, ?_, hlast ▸ hsync'.endsWith⟩
  unfold feed
  rw [List.foldlM_append, hrun]
  simp [feedStep, hstep]

end FrankenTerm.Ports.IngestCursor
