import FrankenTerm.Verified.Check
import FrankenTerm.Verified.HashChain
import FrankenTerm.Verified.Utf8

/-!
# The audit chain of policy decisions

The audit chain (`policy_audit_chain.rs`) keeps a bounded window of entries.  Every entry stores a
hash of its content, the chain hash of its predecessor, and its own chain hash over the two.  When
the window is full the oldest entry goes, and the chain remembers the sequence number that the
oldest entry has to have (`first_retained_sequence`).  Two functions look for tampering: `verify`
recomputes the hashes, and `verify_chain_continuity` compares the front with the remembered number
and walks the links.

The hash is a parameter; where it matters it is injective.  The content hash runs over the texts of
an entry without anything between them, and neither function knows where the list has to end.
`accepts_iff_movedFront` says what that leaves undetected.

The sequence counter is checked: an append that would overflow it is refused here, as it panics in a
build with checks.  The counters of the telemetry are left out.

## Main results

* `Sound.append`, `reached_sound` — every reached chain is well linked and numbered.
* `accepts_iff_good` — what the two functions check, as one walk over the list.
* `Good.movedFront` — an altered list that passes is a front of the list, up to moved text.
* `tamper_evident_iff` — tampering is noticed unless it only cuts the end off or moves text.
-/

namespace FrankenTerm.Ports.PolicyAuditChain

open Verified Verified.Check List
open Utf8

/-! ## Entries -/

/-- `AuditEntryKind`. -/
inductive AuditEntryKind where
  | policyDecision
  | quarantineAction
  | killSwitchAction
  | complianceViolation
  | complianceRemediation
  | credentialAction
  | forensicExport
  | configChange
  | osc52Action
deriving DecidableEq, Repr

/-- The text of a kind, `Display`. -/
def AuditEntryKind.text : AuditEntryKind → String
  | policyDecision => "policy_decision"
  | quarantineAction => "quarantine_action"
  | killSwitchAction => "kill_switch_action"
  | complianceViolation => "compliance_violation"
  | complianceRemediation => "compliance_remediation"
  | credentialAction => "credential_action"
  | forensicExport => "forensic_export"
  | configChange => "config_change"
  | osc52Action => "osc52_action"

/-- `AuditChainEntry`. -/
structure AuditChainEntry where
  sequence : UInt64
  timestampMs : UInt64
  kind : AuditEntryKind
  actor : String
  description : String
  entityRef : String
  contentHash : String
  previousHash : String
  chainHash : String
deriving DecidableEq, Repr

/-- `ChainVerificationResult`. -/
structure ChainVerificationResult where
  valid : Bool
  entriesChecked : Nat
  firstInvalidAt : Option Nat := none
  failureReason : Option String := none
deriving DecidableEq, Repr

/-- `AuditChainContinuityError`. -/
inductive AuditChainContinuityError where
  | anchorMismatch (expected actual : UInt64)
  | hashLinkBroken (sequence : UInt64) (reason : String)
  | sequenceGap (after before : UInt64)
deriving DecidableEq, Repr

/-- `AuditChain`. -/
structure AuditChain where
  entries : List AuditChainEntry := []
  maxEntries : Nat
  nextSequence : UInt64 := 0
  lastHash : String := ""
  firstRetainedSequence : UInt64 := 0

def u64Max : UInt64 := 0xFFFFFFFFFFFFFFFF

/-- `u64::saturating_add(1)`. -/
def saturatingSucc (n : UInt64) : UInt64 := if n = u64Max then u64Max else n + 1

/-- `u64::to_le_bytes`. -/
def toLeBytes (n : UInt64) : List UInt8 :=
  let digits := [n.toNat, n.toNat / 2 ^ 8, n.toNat / 2 ^ 16, n.toNat / 2 ^ 24, n.toNat / 2 ^ 32,
    n.toNat / 2 ^ 40, n.toNat / 2 ^ 48, n.toNat / 2 ^ 56]
  digits.map UInt8.ofNat

section

variable (hash : List UInt8 → String)

/-- `hash_content`. -/
def hashContent (sequence timestampMs : UInt64) (kind : AuditEntryKind)
    (actor description entityRef : String) : String :=
  hash (toLeBytes sequence ++ toLeBytes timestampMs ++ Utf8.bytes kind.text ++ Utf8.bytes actor ++
    Utf8.bytes description ++ Utf8.bytes entityRef)

/-- `hash_chain`. -/
def hashChain (contentHash previousHash : String) : String :=
  hash (Utf8.bytes contentHash ++ Utf8.bytes previousHash)

/-- The content hash that an entry should have. -/
def AuditChainEntry.expectedContent (entry : AuditChainEntry) : String :=
  hashContent hash entry.sequence entry.timestampMs entry.kind entry.actor entry.description
    entry.entityRef

/-- The chain hash that an entry should have. -/
def AuditChainEntry.expectedChain (entry : AuditChainEntry) : String :=
  hashChain hash entry.contentHash entry.previousHash

namespace AuditChain

section

variable (chain : AuditChain)

/-- `AuditChain::new`. -/
def new (maxEntries : Nat) : AuditChain := { maxEntries := max maxEntries 1 }

/-- The entry that an append makes. -/
def newEntry (kind : AuditEntryKind) (actor description entityRef : String) (timestampMs : UInt64) :
    AuditChainEntry :=
  let contentHash :=
    hashContent hash chain.nextSequence timestampMs kind actor description entityRef
  { sequence := chain.nextSequence, timestampMs, kind, actor, description, entityRef, contentHash
    previousHash := chain.lastHash
    chainHash := hashChain hash contentHash chain.lastHash }

/-- The oldest entry makes room, in `append`. -/
def evict : AuditChain :=
  if chain.maxEntries ≤ chain.entries.length then
    match chain.entries with
    | [] => chain
    | evicted :: rest =>
      { chain with
        entries := rest
        firstRetainedSequence := saturatingSucc evicted.sequence }
  else chain

/-- `append`. -/
def append (kind : AuditEntryKind) (actor description entityRef : String) (timestampMs : UInt64) :
    Option AuditChain :=
  if chain.nextSequence = u64Max then none
  else
    let entry := chain.newEntry hash kind actor description entityRef timestampMs
    let room := chain.evict
    some { room with
      entries := room.entries ++ [entry]
      nextSequence := chain.nextSequence + 1
      lastHash := entry.chainHash }

/-- The links and numbers of neighbours, in `verify_chain_continuity`. -/
def checkNeighbours : List AuditChainEntry → Except AuditChainContinuityError Unit
  | prev :: curr :: rest => do
    refuseIf (curr.previousHash ≠ prev.chainHash)
      (.hashLinkBroken curr.sequence "previous_hash does not match predecessor's chain_hash")
    refuseIf (curr.sequence ≠ saturatingSucc prev.sequence)
      (.sequenceGap prev.sequence curr.sequence)
    checkNeighbours (curr :: rest)
  | _ => .ok ()

/-- `verify_chain_continuity`. -/
def verifyChainContinuity : Except AuditChainContinuityError Unit :=
  match chain.entries with
  | [] => .ok ()
  | first :: rest => do
    refuseIf (first.sequence ≠ chain.firstRetainedSequence)
      (.anchorMismatch chain.firstRetainedSequence first.sequence)
    refuseIf (chain.firstRetainedSequence = 0 ∧ first.previousHash ≠ "")
      (.hashLinkBroken first.sequence
        "first entry of un-evicted chain has non-empty previous_hash")
    checkNeighbours (first :: rest)

/-- The failure of an entry, in `verify`. -/
def failure (index : Nat) (what : String) (sequence : UInt64) : ChainVerificationResult :=
  let number := sequence.toNat
  { valid := false, entriesChecked := index + 1, firstInvalidAt := some index
    failureReason := some s!"{what} hash mismatch at sequence {number}" }

/-- The loop of `verify`. -/
def verifyFrom (index : Nat) (prevHash : String) : List AuditChainEntry → ChainVerificationResult
  | [] => { valid := true, entriesChecked := index }
  | entry :: rest =>
    if entry.contentHash ≠ entry.expectedContent hash then
      failure index "content" entry.sequence
    else if entry.previousHash ≠ prevHash then failure index "previous" entry.sequence
    else if entry.chainHash ≠ entry.expectedChain hash then
      failure index "chain" entry.sequence
    else verifyFrom (index + 1) entry.chainHash rest

/-- `verify`. -/
def verify : ChainVerificationResult :=
  verifyFrom hash 0 ((chain.entries.head?.map AuditChainEntry.previousHash).getD "") chain.entries

/-- Both functions accept the list in the place of the chain's entries. -/
def accepts (entries : List AuditChainEntry) : Bool :=
  ({ chain with entries }.verify hash).valid &&
    decide ({ chain with entries }.verifyChainContinuity = .ok ())

end

end AuditChain

/-! ## Runs and tampering -/

/-- The arguments of an append. -/
structure Append where
  kind : AuditEntryKind
  actor : String
  description : String
  entityRef : String
  timestampMs : UInt64

/-- The chain behind a list of appends. -/
def appendAll (chain : AuditChain) : List Append → Option AuditChain
  | [] => some chain
  | input :: inputs =>
    (chain.append hash input.kind input.actor input.description input.entityRef
      input.timestampMs).bind fun next => appendAll next inputs

end

/-- The stored hashes of an entry. -/
def AuditChainEntry.hashes (entry : AuditChainEntry) : String × String × String :=
  (entry.contentHash, entry.previousHash, entry.chainHash)

/-- The entries have been edited, deleted, reordered or duplicated, and no stored hash has been
touched. -/
def Tampered (original altered : List AuditChainEntry) : Prop :=
  ∀ entry ∈ altered, ∃ old ∈ original, old.hashes = entry.hashes

/-- The texts of an entry one after the other. -/
def AuditChainEntry.texts (entry : AuditChainEntry) : String :=
  entry.actor ++ entry.description ++ entry.entityRef

/-- The entry is the old one, but text may have moved between its actor, its description and its
entity reference. -/
structure Moved (old entry : AuditChainEntry) : Prop where
  sequence : entry.sequence = old.sequence
  timestampMs : entry.timestampMs = old.timestampMs
  kind : entry.kind = old.kind
  texts : entry.texts = old.texts
  hashes : entry.hashes = old.hashes

/-- A front of the list, up to moved text. -/
def MovedFront (original altered : List AuditChainEntry) : Prop :=
  List.Forall₂ Moved (original.take altered.length) altered

/-! ## What the content hash fixes -/

theorem toLeBytes_injective {n m : UInt64} (h : toLeBytes n = toLeBytes m) : n = m := by
  have hn := n.toNat_lt
  have hm := m.toNat_lt
  simp only [toLeBytes, map_cons, map_nil, cons.injEq, ← UInt8.toNat_inj, UInt8.toNat_ofNat'] at h
  apply UInt64.toNat_inj.mp
  omega

/-- No kind's text begins another's. -/
theorem kind_of_front : ∀ kind other : AuditEntryKind,
    (bytes kind.text).isPrefixOf (bytes other.text) → kind = other := by
  intro kind other
  cases kind <;> cases other <;> decide +kernel

open AuditChainEntry

/-- **Equal content hashes leave only the borders between the texts open.** -/
theorem hashContent_eq_iff {hash : List UInt8 → String} (hInj : Function.Injective hash)
    {old entry : AuditChainEntry} :
    entry.expectedContent hash = old.expectedContent hash ↔
      entry.sequence = old.sequence ∧ entry.timestampMs = old.timestampMs ∧
        entry.kind = old.kind ∧ entry.texts = old.texts := by
  have hBytes : ∀ e : AuditChainEntry, e.expectedContent hash =
      hash (toLeBytes e.sequence ++ (toLeBytes e.timestampMs ++
        (bytes e.kind.text ++ bytes e.texts))) := by
    intro e
    simp only [expectedContent, hashContent, texts,
      bytes_append, append_assoc]
  rw [hBytes, hBytes, hInj.eq_iff]
  constructor
  · intro h
    obtain ⟨hSequence, h⟩ := append_inj h rfl
    obtain ⟨hTime, h⟩ := append_inj h rfl
    have hKind : entry.kind = old.kind := by
      rcases prefix_or_prefix_of_prefix ⟨_, h⟩ (prefix_append _ _) with hLe | hLe
      · exact kind_of_front _ _ (List.isPrefixOf_iff_prefix.mpr hLe)
      · exact (kind_of_front _ _ (List.isPrefixOf_iff_prefix.mpr hLe)).symm
    rw [hKind] at h
    exact ⟨toLeBytes_injective hSequence, toLeBytes_injective hTime, hKind,
      bytes_injective (append_cancel_left h)⟩
  · rintro ⟨hSequence, hTime, hKind, hTexts⟩
    rw [hSequence, hTime, hKind, hTexts]

/-! ## One walk over the list -/

open AuditChain

section

variable {hash : List UInt8 → String}

/-- The entries are numbered from `number` on, linked behind `prev`, and their hashes are right. -/
def Good (hash : List UInt8 → String) (number : Nat) (prev : String) :
    List AuditChainEntry → Prop
  | [] => True
  | entry :: rest =>
    entry.sequence.toNat = number ∧ entry.previousHash = prev ∧
      entry.contentHash = entry.expectedContent hash ∧
      entry.chainHash = entry.expectedChain hash ∧
      Good hash (number + 1) entry.chainHash rest

variable {prev : String} {number : Nat} {chain : AuditChain}
  {altered entries : List AuditChainEntry}

theorem Good.sequence_ge (h : Good hash number prev entries) :
    ∀ entry ∈ entries, number ≤ entry.sequence.toNat ∧
      entry.sequence.toNat < number + entries.length := by
  induction entries generalizing number prev with
  | nil => nofun
  | cons _ _ ih =>
    intro entry hEntry
    rw [length_cons]
    rcases mem_cons.mp hEntry with rfl | hRest
    · have := h.1
      omega
    · have := ih h.2.2.2.2 entry hRest
      omega

theorem Good.expected (h : Good hash number prev entries) :
    ∀ entry ∈ entries, entry.contentHash = entry.expectedContent hash := by
  induction entries generalizing number prev with
  | nil => nofun
  | cons _ _ ih =>
    intro entry hEntry
    rcases mem_cons.mp hEntry with rfl | hRest
    · exact h.2.2.1
    · exact ih h.2.2.2.2 entry hRest

variable {original : List AuditChainEntry}

/-- **An altered list that passes is a front of the list, up to moved text.**  The number of an
entry says where it stood, so that no other entry can stand there. -/
theorem Good.movedFront {prev' : String} (h : Good hash number prev original)
    (hAltered : Good hash number prev' altered)
    (hMoved : ∀ entry ∈ altered, ∃ old ∈ original, Moved old entry) :
    MovedFront original altered := by
  induction altered generalizing number prev prev' original with
  | nil => exact List.Forall₂.nil
  | cons entry _ ih =>
    obtain ⟨old, hOld, hEntry⟩ := hMoved entry mem_cons_self
    have hNumber : old.sequence.toNat = number := by
      rw [← hEntry.sequence]
      exact hAltered.1
    cases original with
    | nil => cases hOld
    | cons first later =>
      have hTail : ∀ other ∈ first :: later, number < other.sequence.toNat → other ∈ later := by
        intro other hOther _
        rcases mem_cons.mp hOther with rfl | hLater
        · have := h.1
          omega
        · exact hLater
      have hFirst : old = first := by
        rcases mem_cons.mp hOld with hEq | hLater
        · exact hEq
        · have := h.2.2.2.2.sequence_ge old hLater
          omega
      subst hFirst
      refine List.Forall₂.cons hEntry (ih h.2.2.2.2 hAltered.2.2.2.2 ?_)
      intro other hOther
      obtain ⟨source, hSource, hSame⟩ := hMoved other (mem_cons_of_mem entry hOther)
      have hLt := (hAltered.2.2.2.2.sequence_ge other hOther).1
      rw [hSame.sequence] at hLt
      exact ⟨source, hTail source hSource (by omega), hSame⟩

/-- A front up to moved text passes the same walk. -/
theorem Good.of_movedFront (hInj : Function.Injective hash) (h : Good hash number prev original)
    (hMoved : MovedFront original altered) : Good hash number prev altered := by
  induction altered generalizing number prev original with
  | nil => trivial
  | cons _ _ ih =>
    cases original with
    | nil => cases hMoved
    | cons =>
      obtain ⟨hEntry, hRest⟩ := forall₂_cons.mp hMoved
      have hHashes := hEntry.hashes
      simp only [hashes, Prod.mk.injEq] at hHashes
      obtain ⟨hContent, hPrevious, hChain⟩ := hHashes
      obtain ⟨hNumber, hPrev, hOwn, hLink, hLater⟩ := h
      refine ⟨by rw [hEntry.sequence, hNumber], by rw [hPrevious, hPrev], ?_, ?_, ?_⟩
      · rw [hContent, hOwn]
        exact ((hashContent_eq_iff hInj).mpr
          ⟨hEntry.sequence, hEntry.timestampMs, hEntry.kind, hEntry.texts⟩).symm
      · rw [hChain, hLink, expectedChain, expectedChain,
          hContent, hPrevious]
      · rw [hChain]
        exact ih hLater hRest

/-! ## What the two functions check -/

theorem toNat_saturatingSucc {n : UInt64} (h : n ≠ u64Max) :
    (saturatingSucc n).toNat = n.toNat + 1 := by
  have hNe : n.toNat ≠ u64Max.toNat := fun hEq => h (UInt64.toNat_inj.mp hEq)
  have hMax : u64Max.toNat = 2 ^ 64 - 1 := rfl
  have hLt := n.toNat_lt
  rw [saturatingSucc, if_neg h, UInt64.toNat_add, UInt64.toNat_one]
  omega

namespace AuditChain

variable {rest : List AuditChainEntry}

theorem verifyFrom_cons {index : Nat} {entry : AuditChainEntry} :
    (verifyFrom hash index prev (entry :: rest)).valid ↔
      entry.previousHash = prev ∧ entry.contentHash = entry.expectedContent hash ∧
        entry.chainHash = entry.expectedChain hash ∧
        (verifyFrom hash (index + 1) entry.chainHash rest).valid := by
  rw [verifyFrom]
  split_ifs with hContent hPrevious hChain
  · exact ⟨nofun, fun h => absurd h.2.1 hContent⟩
  · exact ⟨nofun, fun h => absurd h.1 hPrevious⟩
  · exact ⟨nofun, fun h => absurd h.2.2.1 hChain⟩
  · exact ⟨fun h => ⟨not_not.mp hPrevious, not_not.mp hContent, not_not.mp hChain, h⟩,
      fun h => h.2.2.2⟩

/-- The two walks over a list that is not empty are one. -/
theorem walks_iff_good {index : Nat} {entry : AuditChainEntry}
    (hMax : ∀ other ∈ entry :: rest, other.sequence ≠ u64Max) :
    (verifyFrom hash index entry.previousHash (entry :: rest)).valid ∧
        checkNeighbours (entry :: rest) = .ok () ↔
      Good hash entry.sequence.toNat entry.previousHash (entry :: rest) := by
  induction rest generalizing index entry with
  | nil =>
    rw [verifyFrom_cons]
    exact ⟨fun ⟨⟨_, hContent, hChain, _⟩, _⟩ => ⟨rfl, rfl, hContent, hChain, trivial⟩,
      fun ⟨_, _, hContent, hChain, _⟩ => ⟨⟨rfl, hContent, hChain, rfl⟩, rfl⟩⟩
  | cons next _ ih =>
    have hNext := @ih (index + 1) next fun other hOther => hMax other (mem_cons_of_mem _ hOther)
    have hSucc := toNat_saturatingSucc (hMax entry mem_cons_self)
    rw [verifyFrom_cons]
    simp only [checkNeighbours, refuseIf_bind_eq_ok, not_not]
    constructor
    · rintro ⟨⟨-, hContent, hChain, hVerify⟩, hLink, hSequence, hCheck⟩
      rw [← hLink] at hVerify
      have hGood := hNext.mp ⟨hVerify, hCheck⟩
      rw [hSequence, hSucc, hLink] at hGood
      exact ⟨rfl, rfl, hContent, hChain, hGood⟩
    · rintro ⟨-, -, hContent, hChain, hGood⟩
      have hSequence : next.sequence = saturatingSucc entry.sequence :=
        UInt64.toNat_inj.mp (hGood.1.trans hSucc.symm)
      have hLink : next.previousHash = entry.chainHash := hGood.2.1
      rw [← hSucc, ← hSequence, ← hLink] at hGood
      obtain ⟨hVerify, hCheck⟩ := hNext.mpr hGood
      rw [hLink] at hVerify
      exact ⟨⟨trivial, hContent, hChain, hVerify⟩, hLink, hSequence, hCheck⟩

/-- **What the two functions check.** -/
theorem accepts_iff_good (hMax : ∀ entry ∈ entries, entry.sequence ≠ u64Max) :
    chain.accepts hash entries ↔ ∃ prev, (chain.firstRetainedSequence = 0 → prev = "") ∧
        Good hash chain.firstRetainedSequence.toNat prev entries := by
  unfold accepts verify verifyChainContinuity
  rw [Bool.and_eq_true, decide_eq_true_eq]
  cases entries with
  | nil => exact ⟨fun _ => ⟨"", fun _ => rfl, trivial⟩, fun _ => ⟨rfl, rfl⟩⟩
  | cons first rest =>
    have hWalks := @walks_iff_good hash rest 0 first hMax
    simp only [head?_cons, Option.map_some, Option.getD_some, refuseIf_bind_eq_ok, not_not]
    constructor
    · rintro ⟨hVerify, hAnchor, hStart, hCheck⟩
      refine ⟨first.previousHash, fun hZero => ?_, ?_⟩
      · exact not_not.mp fun hNe => hStart ⟨hZero, hNe⟩
      · rw [← hAnchor]
        exact hWalks.mp ⟨hVerify, hCheck⟩
    · rintro ⟨prev, hStart, hGood⟩
      have hAnchor : first.sequence = chain.firstRetainedSequence :=
        UInt64.toNat_inj.mp hGood.1
      have hPrev : first.previousHash = prev := hGood.2.1
      rw [← hAnchor, ← hPrev] at hGood
      obtain ⟨hVerify, hCheck⟩ := hWalks.mpr hGood
      exact ⟨hVerify, hAnchor, fun h => h.2 (hPrev.trans (hStart h.1)), hCheck⟩

end AuditChain

/-! ## Reached chains -/

theorem good_append {front back : List AuditChainEntry} :
    Good hash number prev (front ++ back) ↔ Good hash number prev front ∧
      Good hash (number + front.length) (HashChain.tip chainHash prev front)
        back := by
  induction front generalizing number prev with
  | nil => exact ⟨fun h => ⟨trivial, h⟩, fun h => h.2⟩
  | cons _ _ ih =>
    simp only [cons_append, Good, ih, length_cons, HashChain.tip, and_assoc,
      Nat.add_assoc, Nat.add_comm 1]

/-- A chain whose entries are well numbered and linked behind `prev`. -/
structure Sound (hash : List UInt8 → String) (chain : AuditChain) (prev : String) : Prop where
  start : chain.firstRetainedSequence = 0 → prev = ""
  good : Good hash chain.firstRetainedSequence.toNat prev chain.entries
  lastHash : chain.lastHash = HashChain.tip AuditChainEntry.chainHash prev chain.entries
  nextSequence : chain.nextSequence.toNat = chain.firstRetainedSequence.toNat + chain.entries.length
  maxEntries : 0 < chain.maxEntries

/-- No retained entry has the last number. -/
theorem Sound.sequence_ne_max (h : Sound hash chain prev) :
    ∀ entry ∈ chain.entries, entry.sequence ≠ u64Max := by
  intro entry hEntry hEq
  have hLt := (h.good.sequence_ge entry hEntry).2
  have hNext := chain.nextSequence.toNat_lt
  have hMax : u64Max.toNat = 2 ^ 64 - 1 := rfl
  rw [← h.nextSequence, hEq] at hLt
  omega

/-- The oldest entry goes, and the next one takes its place at the front. -/
theorem Sound.evict (h : Sound hash chain prev) :
    ∃ prev, Sound hash chain.evict prev ∧ chain.evict.nextSequence = chain.nextSequence ∧
      chain.evict.lastHash = chain.lastHash := by
  unfold AuditChain.evict
  split_ifs with hFull
  · obtain ⟨entries, maxEntries, nextSequence, lastHash, firstRetained⟩ := chain
    cases entries with
    | nil => exact ⟨prev, h, rfl, rfl⟩
    | cons evicted rest =>
      have hNext := toNat_saturatingSucc (h.sequence_ne_max evicted mem_cons_self)
      have hNumber : evicted.sequence.toNat = firstRetained.toNat := h.good.1
      refine ⟨evicted.chainHash, ⟨fun hZero => ?_, ?_, h.lastHash, ?_, h.maxEntries⟩, rfl, rfl⟩
      · simp only [← UInt64.toNat_inj, UInt64.toNat_zero] at hZero
        omega
      · rw [hNext, hNumber]
        exact h.good.2.2.2.2
      · have hCount : nextSequence.toNat = firstRetained.toNat + (rest.length + 1) :=
          h.nextSequence
        show nextSequence.toNat = (saturatingSucc evicted.sequence).toNat + rest.length
        omega
  · exact ⟨prev, h, rfl, rfl⟩

/-- **An append keeps the chain sound.** -/
theorem Sound.append {after : AuditChain} (h : Sound hash chain prev)
    {kind : AuditEntryKind} {actor description entityRef : String} {timestampMs : UInt64}
    (hAppend : chain.append hash kind actor description entityRef timestampMs = some after) :
    ∃ prev, Sound hash after prev := by
  unfold AuditChain.append at hAppend
  split_ifs at hAppend with hMax
  obtain rfl := Option.some.inj hAppend
  obtain ⟨prev', hRoom, hNext, hLast⟩ := h.evict
  have hSucc : (chain.nextSequence + 1).toNat = chain.nextSequence.toNat + 1 := by
    have := toNat_saturatingSucc hMax
    rwa [saturatingSucc, if_neg hMax] at this
  refine ⟨prev', hRoom.start, ?_, ?_, ?_, hRoom.maxEntries⟩
  · rw [good_append]
    refine ⟨hRoom.good, ?_, ?_, rfl, rfl, trivial⟩
    · rw [← hRoom.nextSequence, hNext]
      rfl
    · rw [← hRoom.lastHash, hLast]
      rfl
  · rw [HashChain.tip_append]
    rfl
  · have hCount := hRoom.nextSequence
    rw [hNext] at hCount
    simp only [length_append, length_singleton]
    omega

/-- **Every reached chain is sound.** -/
theorem reached_sound {maxEntries : Nat} {inputs : List Append}
    (h : appendAll hash (new maxEntries) inputs = some chain) :
    ∃ prev, Sound hash chain prev := by
  have hRun : ∀ start : AuditChain, (∃ prev, Sound hash start prev) →
      appendAll hash start inputs = some chain → ∃ prev, Sound hash chain prev := by
    clear h
    induction inputs with
    | nil =>
      intro start hStart hEq
      obtain rfl := Option.some.inj hEq
      exact hStart
    | cons _ _ ih =>
      rintro start ⟨prev, hStart⟩ hEq
      obtain ⟨next, hNext, hEq⟩ := Option.bind_eq_some_iff.mp hEq
      exact ih next (hStart.append hNext) hEq
  have hNew : Sound hash (new maxEntries) "" :=
    ⟨fun _ => rfl, trivial, rfl, rfl, lt_of_lt_of_le Nat.one_pos (le_max_right maxEntries 1)⟩
  exact hRun _ ⟨"", hNew⟩ h

/-! ## Tampering -/

/-- An altered list that neither function can tell from the original: it is a front of it, up to
moved text, and not the same list. -/
def Hidden (original altered : List AuditChainEntry) : Prop :=
  altered ≠ original ∧ MovedFront original altered

theorem verifyFrom_expected {index : Nat}
    (h : (verifyFrom hash index prev entries).valid) :
    ∀ entry ∈ entries, entry.contentHash = entry.expectedContent hash := by
  induction entries generalizing index prev with
  | nil => nofun
  | cons _ _ ih =>
    obtain ⟨-, hContent, -, hRest⟩ := verifyFrom_cons.mp h
    exact forall_mem_cons.mpr ⟨hContent, ih hRest⟩

/-- **What stays undetected**: exactly the fronts of the list, up to moved text. -/
theorem accepts_iff_movedFront (hInj : Function.Injective hash) (h : Sound hash chain prev)
    (hTampered : Tampered chain.entries altered) :
    chain.accepts hash altered ↔ MovedFront chain.entries altered := by
  constructor
  · intro hAccepts
    have hVerify := (Bool.and_eq_true _ _ ▸ hAccepts :).1
    have hMoved : ∀ entry ∈ altered, ∃ old ∈ chain.entries, Moved old entry := by
      intro entry hEntry
      obtain ⟨old, hOld, hHashes⟩ := hTampered entry hEntry
      -- A tampered entry whose content hash is right is an old one, up to moved text.
      have hContent : entry.contentHash = old.contentHash := congrArg Prod.fst hHashes.symm
      rw [h.good.expected old hOld, verifyFrom_expected hVerify entry hEntry] at hContent
      obtain ⟨hSequence, hTime, hKind, hTexts⟩ := (hashContent_eq_iff hInj).mp hContent
      exact ⟨old, hOld, hSequence, hTime, hKind, hTexts, hHashes.symm⟩
    have hMax : ∀ entry ∈ altered, entry.sequence ≠ u64Max := by
      intro entry hEntry
      obtain ⟨old, hOld, hSame⟩ := hMoved entry hEntry
      rw [hSame.sequence]
      exact h.sequence_ne_max old hOld
    obtain ⟨prev', -, hGood⟩ := (accepts_iff_good hMax).mp hAccepts
    exact h.good.movedFront hGood hMoved
  · intro hMoved
    have hMax : ∀ entry ∈ altered, entry.sequence ≠ u64Max := by
      intro entry hEntry
      obtain ⟨i, hi, rfl⟩ := getElem_of_mem hEntry
      obtain ⟨_, hAt⟩ := forall₂_iff_get.mp hMoved
      have hSame := hAt i (by omega) hi
      simp only [get_eq_getElem] at hSame
      rw [hSame.sequence]
      exact h.sequence_ne_max _ (mem_of_mem_take (getElem_mem _))
    exact (accepts_iff_good hMax).mpr ⟨prev, h.start, h.good.of_movedFront hInj hMoved⟩

theorem movedFront_self (entries : List AuditChainEntry) : MovedFront entries entries := by
  unfold MovedFront
  rw [take_length, forall₂_same]
  exact fun entry _ => ⟨rfl, rfl, rfl, rfl, rfl⟩

/-- **Tampering is noticed unless it only cuts the end off or moves text.**  On an untouched chain
both functions accept; a list in which entries have been edited, deleted, reordered or duplicated
without touching a stored hash is refused by one of them or is the same list, exactly if it is not a
front of the list up to text that moved between the actor, the description and the entity
reference. -/
theorem tamper_evident_iff {hash : List UInt8 → String} (hInj : Function.Injective hash)
    (maxEntries : Nat) (inputs : List Append) (chain : AuditChain)
    (hReached : appendAll hash (AuditChain.new maxEntries) inputs = some chain)
    (altered : List AuditChainEntry) (hTampered : Tampered chain.entries altered) :
    chain.accepts hash chain.entries = true ∧
      ((chain.accepts hash altered = false ∨ altered = chain.entries) ↔
        ¬Hidden chain.entries altered) := by
  obtain ⟨prev, hSound⟩ := reached_sound hReached
  constructor
  · exact (accepts_iff_movedFront hInj hSound fun entry hEntry => ⟨entry, hEntry, rfl⟩).mpr
      (movedFront_self chain.entries)
  · rw [Hidden, ← accepts_iff_movedFront hInj hSound hTampered, not_and_or, not_not, or_comm,
      Bool.not_eq_true]

end

/-- A hash without collisions: the bytes as a text. -/
def plainHash (bytes : List UInt8) : String := String.ofList (bytes.map fun b => Char.ofNat b.toNat)

theorem plainHash_injective : Function.Injective plainHash := by
  have hChar : ∀ a b : UInt8, Char.ofNat a.toNat = Char.ofNat b.toNat → a = b := by
    intro a b h
    have hNat : ∀ c : UInt8, (Char.ofNat c.toNat).toNat = c.toNat := by
      intro c
      have hLt := c.toNat_lt
      have hValid : c.toNat.isValidChar := .inl (by omega)
      rw [Char.ofNat, dif_pos hValid]
      rfl
    apply UInt8.toNat_inj.mp
    rw [← hNat a, ← hNat b, h]
  intro a b h
  exact map_injective_iff.mpr (fun x y => hChar x y) (String.ofList_injective h)

/-- Two decisions. -/
def twoDecisions : List Append :=
  [⟨.policyDecision, "al", "ice", "r1", 1⟩, ⟨.configChange, "bob", "set", "r2", 2⟩]

/-- The chain of two decisions. -/
def decisionChain : AuditChain := (appendAll plainHash (AuditChain.new 2) twoDecisions).getD
  (AuditChain.new 2)

/-- Reordering is noticed. -/
theorem tamper_evident_iff_reversed :
    decisionChain.accepts plainHash decisionChain.entries = true ∧
      decisionChain.accepts plainHash decisionChain.entries.reverse = false := by
  have hReached : appendAll plainHash (new 2) twoDecisions = some decisionChain := rfl
  have hTampered : Tampered decisionChain.entries decisionChain.entries.reverse :=
    fun entry hEntry => ⟨entry, mem_reverse.mp hEntry, rfl⟩
  have hNe : decisionChain.entries.reverse ≠ decisionChain.entries := by decide +kernel
  have hShown : ¬Hidden decisionChain.entries decisionChain.entries.reverse := by
    rintro ⟨-, hFront⟩
    obtain ⟨hMoved, -⟩ := forall₂_cons.mp hFront
    exact absurd hMoved.sequence (by decide +kernel)
  obtain ⟨hSelf, hIff⟩ :=
    tamper_evident_iff plainHash_injective 2 twoDecisions decisionChain hReached _ hTampered
  exact ⟨hSelf, (hIff.mpr hShown).resolve_right hNe⟩

/-- The first decision of the chain, by another actor. -/
def renamed (entry : AuditChainEntry) : AuditChainEntry :=
  { entry with actor := "alice", description := "" }

/-- Both functions accept the chain without its last entry, without any entry, and with a decision
whose actor is another. -/
theorem tampering_goes_unnoticed :
    decisionChain.accepts plainHash (decisionChain.entries.take 1) = true ∧
      decisionChain.accepts plainHash [] = true ∧
      decisionChain.accepts plainHash (decisionChain.entries.modifyHead renamed) = true ∧
      decisionChain.entries.take 1 ≠ decisionChain.entries ∧
      decisionChain.entries.modifyHead renamed ≠ decisionChain.entries := by
  decide +kernel

end FrankenTerm.Ports.PolicyAuditChain
