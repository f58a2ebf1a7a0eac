import EverTrace.Lib.Guard
import EverTrace.Lib.OrdMap
import EverTrace.Lib.Trace
import Mathlib.Data.String.Basic
import Mathlib.Tactic.Common
/-!
# Collecting the content store (`evertrace-store/src/optimize.rs`, `evertrace-capture/src/cas.rs`)

The files of the content store are written by producers, each of which first takes the
maintenance fence shared, then puts its files, and then makes them known: a hook appends a
frame to the spool, the daemon commits a command. The daemon also drains the spool: it
commits the frames of a sealed segment one after the other and then removes the segment.

The collector works beside them in two rounds at least a day apart. Each one reads the
journal and the backups while the writer commits nothing, takes the fence exclusively, and
reads the spool; a file is removed when neither round found a reference to it and it is
still the same file. Every line of `Event` is one step of one party, and steps of
different parties come in any order.

Identities of files and segments are numbers, time is in seconds, and what the journal
refers to is the list `journal`. The searches that find these references
(`historical_cas_refs`, `live_cas_refs_intersect`) are not modelled, and neither are
repository purges, which remove files with their references.

* `Inv`: what holds in every state.
* `durable_kept`: no file of a capture that was acknowledged as durable is ever missing.
* `removed_old_orphan`: what is removed is a day old and nothing refers to it or is about to.
* `rounds_exact`: two rounds remove exactly those of the enumerated files that nothing refers to.
-/
namespace EverTrace.L2.GcProtocol
open EverTrace.Lib

/-- A file of the content store and when it came to be. -/
structure BlobFile where
  bytes : Nat
  identity : Nat
  createdAt : Nat
  deriving DecidableEq

abbrev Files := OrdMap String BlobFile

/-- mirrors evertrace-capture/src/cas.rs:121-129 -/
structure CasGcCandidate where
  digest : String
  bytes : Nat
  identity : Nat
  deriving DecidableEq

/-- The file is still the one that was enumerated.
mirrors evertrace-capture/src/cas.rs:416-449 -/
def validateGcCandidates (files : Files) (candidates : List CasGcCandidate) : Bool :=
  candidates.all fun c => (files.get c.digest).any fun f => f.identity == c.identity && f.bytes == c.bytes

/-! ## Rounds -/

/-- A day, in seconds. mirrors evertrace-store/src/optimize.rs:120 -/
def gcGrace : Nat := 24 * 60 * 60

/-- mirrors evertrace-store/src/optimize.rs:451-456 -/
structure GcRound where
  candidates : List CasGcCandidate
  markedAt : Nat
  examinedFiles : Nat

/-- mirrors evertrace-store/src/optimize.rs:464-479 -/
def GcRound.mark (candidates : List CasGcCandidate) (references : List String) (now : Nat) : GcRound where
  candidates := candidates.filter fun c => !references.contains c.digest
  markedAt := now
  examinedFiles := candidates.length

/-- mirrors evertrace-store/src/optimize.rs:481-483 -/
def GcRound.readyAt (round : GcRound) : Nat := round.markedAt + gcGrace

/-- mirrors evertrace-store/src/optimize.rs:489-494 -/
def GcRound.ids (round : GcRound) : List String := round.candidates.map CasGcCandidate.digest

/-- mirrors evertrace-store/src/optimize.rs:496-514 -/
def GcRound.sweepCandidates (round : GcRound) (files : Files) (references : List String) (now : Nat) :
    Option (List CasGcCandidate) :=
  if !round.candidates.isEmpty && now < round.readyAt then none
  else
    let candidates := round.candidates.filter fun c => !references.contains c.digest
    if validateGcCandidates files candidates then some candidates else none

/-- mirrors evertrace-store/src/writer.rs:46-51 -/
structure GcAuthority where
  references : List String
  backups : List (Nat × List String)

/-! ## The parties -/

/-- A sealed segment of the spool: what its frames refer to, and how many of them the drain has committed. -/
structure Segment where
  frames : List String
  committed : Nat

/-- Where the collector is. In `deleting` it holds the fence exclusively. -/
inductive Collector where
  | idle
  | marking (candidates : List CasGcCandidate)
  | marked (candidates : List CasGcCandidate) (authority : GcAuthority)
  | sweeping (round : GcRound) (authority : GcAuthority)
  | deleting (todo : List CasGcCandidate)

def Collector.isIdle : Collector → Bool
  | .idle => true
  | _ => false

def Collector.isDeleting : Collector → Bool
  | .deleting _ => true
  | _ => false

structure World where
  now : Nat
  files : Files
  nextIdentity : Nat
  /-- What the committed commands refer to. -/
  journal : List String
  /-- What the frames of the active segment refer to. -/
  active : List String
  sealed : OrdMap Nat Segment
  quarantine : List String
  /-- The shared holders of the fence, each with the files that it has put. -/
  leases : OrdMap Nat (List String)
  backups : OrdMap Nat (List String)
  collector : Collector
  /-- The rounds that wait for their second half, by job. -/
  rounds : OrdMap Nat GcRound
  /-- What was acknowledged as durable. -/
  durable : List String

def World.empty : World := ⟨0, .empty, 0, [], [], .empty, [], .empty, .empty, .idle, .empty, []⟩

/-- mirrors evertrace-capture/src/spool.rs:664-679, 700-758 -/
def World.spoolRefs (w : World) : List String := w.active ++ w.sealed.values.flatMap Segment.frames

/-- Nobody else holds the fence. -/
def World.fenceFree (w : World) : Bool := w.leases.entries.isEmpty

/-- mirrors evertrace-store/src/writer.rs:2189-2240 -/
def World.gcAuthority (w : World) (ids : List String) : GcAuthority where
  references := ids.filter fun id => w.journal.contains id || w.backups.values.any fun refs => refs.contains id
  backups := w.backups.entries

/-- The backups are those that were read.
mirrors evertrace-store/src/writer.rs:54-83 -/
def GcAuthority.revalidate (authority : GcAuthority) (w : World) : Bool := authority.backups == w.backups.entries

/-- One step of one party. -/
inductive Event where
  | tick (seconds : Nat)
  | lease (p : Nat)
  | put (p : Nat) (digest : String) (bytes : Nat)
  | append (p : Nat) (digest : String)
  | isolate (p : Nat) (digest : String) (id : Nat)
  | record (p : Nat) (digest : String)
  | release (p : Nat)
  | sealActive (id : Nat)
  | drain (id : Nat)
  | interrupt (id : Nat)
  | acknowledge (id : Nat)
  | quarantine (id : Nat)
  | backup (name : Nat) (refs : List String)
  | dropBackup (name : Nat)
  | mark (candidates : List CasGcCandidate)
  | authorize
  | finishMark (job : Nat)
  | sweep (job : Nat)
  | enter
  | delete
  | leave
  | forget (job : Nat)
  | restart

/-- A file that is there is left as it is.
mirrors evertrace-capture/src/cas.rs:465-496 -/
def World.putFiles (w : World) (digest : String) (bytes : Nat) : Files :=
  if (w.files.get digest).isSome then w.files else w.files.insert digest ⟨bytes, w.nextIdentity, w.now⟩

def holds (w : World) (p : Nat) (digest : String) : Bool := ((w.leases.get p).getD []).contains digest

/-! ## Steps -/

/-- A frame that is synced is acknowledged as durable.
mirrors evertrace-capture/src/admission.rs:311-464, evertrace-capture/src/spool.rs:486-524,
evertrace-engine/src/recovery/barrier.rs:648-777, evertrace-engine/src/jobs/inventory.rs:710-795 -/
def World.producer (w : World) : Event → Option World
  | .lease p =>
    if !w.collector.isDeleting && (w.leases.get p).isNone then some { w with leases := w.leases.insert p [] } else none
  | .put p digest bytes =>
    (w.leases.get p).map fun held => { w with
      files := w.putFiles digest bytes
      nextIdentity := w.nextIdentity + 1
      leases := w.leases.insert p (digest :: held) }
  | .append p digest =>
    if holds w p digest then some { w with active := w.active ++ [digest], durable := digest :: w.durable } else none
  | .isolate p digest id =>
    if holds w p digest && (w.sealed.get id).isNone then
      some { w with sealed := w.sealed.insert id ⟨[digest], 0⟩, durable := digest :: w.durable }
    else none
  | .record p digest =>
    if holds w p digest && w.collector.isIdle then
      some { w with journal := digest :: w.journal, durable := digest :: w.durable }
    else none
  | .release p => some { w with leases := w.leases.erase p }
  | _ => none

/-- The writer commits while the collector does not use it. A segment is removed when all of its frames were committed
in this drain.
mirrors evertrace-engine/src/ingest.rs:416-795, evertrace-capture/src/spool.rs:760-781, 991-1020 -/
def World.spool (w : World) : Event → Option World
  | .sealActive id =>
    if (w.sealed.get id).isNone then some { w with active := [], sealed := w.sealed.insert id ⟨w.active, 0⟩ } else none
  | .drain id => do
    let segment ← w.sealed.get id
    let digest ← segment.frames[segment.committed]?
    if w.collector.isIdle then
      some { w with
        journal := digest :: w.journal
        sealed := w.sealed.insert id { segment with committed := segment.committed + 1 } }
    else none
  | .interrupt id => do
    let segment ← w.sealed.get id
    return { w with sealed := w.sealed.insert id { segment with committed := 0 } }
  | .acknowledge id => do
    let segment ← w.sealed.get id
    if segment.committed = segment.frames.length ∧ segment.committed ≠ 0 then
      some { w with sealed := w.sealed.erase id }
    else none
  | .quarantine id => do
    let segment ← w.sealed.get id
    return { w with sealed := w.sealed.erase id, quarantine := w.quarantine ++ segment.frames }
  | _ => none

/-- mirrors evertrace-store/src/writer.rs:2096-2144, 2153-2184, evertrace-store/src/optimize.rs:341-405, 464-514 -/
def World.collect (w : World) : Event → Option World
  | .mark candidates =>
    if w.collector.isIdle && w.fenceFree && validateGcCandidates w.files candidates then
      some { w with collector := .marking candidates }
    else none
  | .authorize =>
    match w.collector with
    | .marking candidates =>
      some { w with collector := .marked candidates (w.gcAuthority (candidates.map CasGcCandidate.digest)) }
    | _ => none
  | .finishMark job =>
    match w.collector with
    | .marked candidates authority =>
      if w.fenceFree && authority.revalidate w && validateGcCandidates w.files candidates && w.quarantine.isEmpty then
        some { w with
          collector := .idle
          rounds := w.rounds.insert job (.mark candidates (authority.references ++ w.spoolRefs) w.now) }
      else none
    | _ => none
  | .sweep job =>
    if w.collector.isIdle then
      (w.rounds.get job).map fun round => { w with
        collector := .sweeping round (w.gcAuthority round.ids)
        rounds := w.rounds.erase job }
    else none
  | .enter =>
    match w.collector with
    | .sweeping round authority =>
      if w.fenceFree && authority.revalidate w && w.quarantine.isEmpty then
        (round.sweepCandidates w.files (authority.references ++ w.spoolRefs) w.now).map fun candidates =>
          { w with collector := .deleting candidates }
      else none
    | _ => none
  | .delete =>
    match w.collector with
    | .deleting (c :: todo) => some { w with files := w.files.erase c.digest, collector := .deleting todo }
    | _ => none
  | .leave => some { w with collector := .idle }
  | .forget job => some { w with rounds := w.rounds.erase job }
  | .restart => some { w with collector := .idle, rounds := .empty }
  | _ => none

/-- mirrors evertrace-engine/src/jobs/executor.rs:1488-1502, evertrace-engine/src/maintenance.rs:3302-3402 -/
def World.keep (w : World) : Event → Option World
  | .tick seconds => some { w with now := w.now + seconds }
  | .backup name refs => if w.collector.isIdle then some { w with backups := w.backups.insert name refs } else none
  | .dropBackup name => some { w with backups := w.backups.erase name }
  | _ => none

/-- What an event does; one that is not possible does nothing. -/
def World.step (w : World) (e : Event) : Option World :=
  (w.producer e).or ((w.spool e).or ((w.collect e).or (w.keep e)))

def World.next (w : World) (e : Event) : World := (w.step e).getD w

/-! ## What holds in every state -/

/-- A committed command or a frame of the spool refers to the file. -/
def World.Referenced (w : World) (digest : String) : Prop :=
  digest ∈ w.journal ∨ digest ∈ w.active ∨ (∃ id segment, w.sealed.get id = some segment ∧ digest ∈ segment.frames) ∨
    digest ∈ w.quarantine

/-- Nothing refers to the file, and no backup does. -/
def World.Orphan (w : World) (digest : String) : Prop :=
  ¬ w.Referenced digest ∧ ∀ b ∈ w.backups.entries, digest ∉ b.2

/-- Whatever has the identity of a candidate was there when the round was marked. -/
structure Aged (w : World) (round : GcRound) : Prop where
  past : round.markedAt ≤ w.now
  used : ∀ c ∈ round.candidates, c.identity < w.nextIdentity
  older : ∀ c ∈ round.candidates, ∀ digest f, w.files.get digest = some f → f.identity = c.identity →
    f.createdAt ≤ round.markedAt

/-- The authority knows what the journal and the backups that were read refer to. -/
structure Covers (w : World) (ids : List String) (authority : GcAuthority) : Prop where
  journal : ∀ id ∈ ids, id ∈ w.journal → id ∈ authority.references
  backups : ∀ b ∈ authority.backups, ∀ id ∈ ids, id ∈ b.2 → id ∈ authority.references

/-- A file that may be removed: an orphan, as old as the grace period. -/
structure Doomed (w : World) (c : CasGcCandidate) : Prop where
  orphan : w.Orphan c.digest
  old : ∀ f, w.files.get c.digest = some f → f.createdAt + gcGrace ≤ w.now

/-- What the collector knows where it is. -/
def Collector.Sound (w : World) : Collector → Prop
  | .idle => True
  | .marking candidates | .marked candidates _ => ∀ c ∈ candidates, c.identity < w.nextIdentity
  | .sweeping round authority => Aged w round ∧ Covers w round.ids authority
  | .deleting todo => w.leases.entries = [] ∧ ∀ c ∈ todo, Doomed w c

structure Inv (w : World) : Prop where
  kept : ∀ digest ∈ w.durable, (w.files.get digest).isSome ∧ w.Referenced digest
  known : ∀ digest, w.Referenced digest → digest ∈ w.durable
  held : ∀ p digests, w.leases.get p = some digests → ∀ digest ∈ digests, (w.files.get digest).isSome
  drained : ∀ id segment, w.sealed.get id = some segment → ∀ digest ∈ segment.frames.take segment.committed,
    digest ∈ w.journal
  fresh : ∀ digest f, w.files.get digest = some f → f.identity < w.nextIdentity ∧ f.createdAt ≤ w.now
  rounds : ∀ job round, w.rounds.get job = some round → Aged w round
  collector : w.collector.Sound w

section Steps

variable {w w' : World} {collector : Collector} {round : GcRound}

/-- Time passes, files go, and the files that come are new. -/
structure Later (w w' : World) : Prop where
  now : w.now ≤ w'.now
  next : w.nextIdentity ≤ w'.nextIdentity
  files : ∀ digest f, w'.files.get digest = some f → w.files.get digest = some f ∨ w.nextIdentity ≤ f.identity

theorem Later.of_eq (hnow : w'.now = w.now) (hnext : w'.nextIdentity = w.nextIdentity) (hfiles : w'.files = w.files) :
    Later w w' where
  now := Nat.le_of_eq hnow.symm
  next := Nat.le_of_eq hnext.symm
  files digest f hf := .inl (by rw [← hfiles]; exact hf)

theorem Aged.later (h : Aged w round) (hl : Later w w') : Aged w' round where
  past := Nat.le_trans h.past hl.now
  used c hc := Nat.lt_of_lt_of_le (h.used c hc) hl.next
  older c hc digest f hf hsame := by
    rcases hl.files digest f hf with hf | hnew
    · exact h.older c hc digest f hf hsame
    · have := h.used c hc
      omega

/-- What a step that is not the collector's own may do beside it. -/
structure Beside (w w' : World) (collector : Collector) : Prop where
  later : Later w w'
  journal : collector.isIdle = false → ∀ digest ∈ w'.journal, digest ∈ w.journal
  leases : collector.isDeleting = true → w'.leases.entries = []
  orphans : collector.isDeleting = true → ∀ digest, w.Orphan digest → w'.Orphan digest
  files : collector.isDeleting = true → ∀ digest f, w'.files.get digest = some f → w.files.get digest = some f

theorem Collector.Sound.beside (h : collector.Sound w) (hb : Beside w w' collector) : collector.Sound w' := by
  cases collector with
  | idle => trivial
  | marking candidates => exact fun c hc => Nat.lt_of_lt_of_le (h c hc) hb.later.next
  | marked candidates authority => exact fun c hc => Nat.lt_of_lt_of_le (h c hc) hb.later.next
  | sweeping round authority =>
    exact ⟨h.1.later hb.later, fun id hid hj => h.2.journal id hid (hb.journal rfl id hj), h.2.backups⟩
  | deleting todo =>
    refine ⟨hb.leases rfl, fun c hc => ⟨hb.orphans rfl _ (h.2 c hc).orphan, fun f hf => ?_⟩⟩
    have hold := (h.2 c hc).old f (hb.files rfl _ _ hf)
    have hnow := hb.later.now
    omega

theorem Inv.rounds_later (h : Inv w) (hl : Later w w') : ∀ job round, w.rounds.get job = some round → Aged w' round :=
  fun job round hround => (h.rounds job round hround).later hl

/-- While the collector deletes nobody else holds the fence. -/
theorem Inv.no_lease (h : Inv w) (hdel : w.collector.isDeleting = true) : w.leases.entries = [] := by
  have hsound := h.collector
  cases hc : w.collector with
  | deleting todo =>
    rw [hc] at hsound
    exact hsound.1
  | idle | marking | marked | sweeping =>
    rw [hc] at hdel
    cases hdel

theorem get_of_entries_nil {κ α : Type} [LinearOrder κ] {m : OrdMap κ α} (h : m.entries = []) (k : κ) :
    m.get k = none := by
  rw [OrdMap.get, h]
  rfl

theorem holds_iff {p : Nat} {digest : String} :
    holds w p digest = true ↔ ∃ held, w.leases.get p = some held ∧ digest ∈ held := by
  unfold holds
  cases w.leases.get p with
  | none => simp
  | some held => simp

theorem Inv.not_deleting (h : Inv w) {p : Nat} {digest : String} (hp : holds w p digest = true) :
    w.collector.isDeleting = false := by
  obtain ⟨held, hget, -⟩ := holds_iff.mp hp
  by_contra hdel
  rw [Bool.not_eq_false] at hdel
  rw [get_of_entries_nil (h.no_lease hdel)] at hget
  cases hget

theorem Beside.of_producer (hdel : w.collector.isDeleting = false) (hl : Later w w')
    (hj : w.collector.isIdle = false → ∀ digest ∈ w'.journal, digest ∈ w.journal) : Beside w w' w.collector where
  later := hl
  journal := hj
  leases hd := by
    rw [hdel] at hd
    cases hd
  orphans hd := by
    rw [hdel] at hd
    cases hd
  files hd := by
    rw [hdel] at hd
    cases hd

/-! ### Producers -/

theorem putFiles_isSome (digest : String) (bytes : Nat) {r : String} (hr : (w.files.get r).isSome ∨ r = digest) :
    ((w.putFiles digest bytes).get r).isSome := by
  unfold World.putFiles
  split
  · next hsome => exact hr.elim id fun heq => heq ▸ hsome
  · rw [OrdMap.get_insert]
    split
    · rfl
    · next hne => exact hr.resolve_right hne

theorem get_putFiles {digest r : String} {bytes : Nat} {f : BlobFile} (hf : (w.putFiles digest bytes).get r = some f) :
    w.files.get r = some f ∨ f = ⟨bytes, w.nextIdentity, w.now⟩ := by
  unfold World.putFiles at hf
  split at hf
  · exact .inl hf
  · rw [OrdMap.get_insert] at hf
    split at hf
    · exact .inr (Option.some.inj hf).symm
    · exact .inl hf

/-- A reference to a file that is held keeps the file from then on. -/
theorem Inv.held_present (h : Inv w) {p : Nat} {digest : String} (hp : holds w p digest = true) :
    (w.files.get digest).isSome := by
  obtain ⟨held, hget, hmem⟩ := holds_iff.mp hp
  exact h.held p held hget digest hmem

theorem Inv.announce (h : Inv w) {p : Nat} {digest : String} (hp : holds w p digest = true)
    {active journal : List String} {sealed : OrdMap Nat Segment}
    (href : ∀ r, ({ w with active, sealed, journal } : World).Referenced r ↔ w.Referenced r ∨ r = digest)
    (hdrained : ∀ id segment, sealed.get id = some segment → ∀ r ∈ segment.frames.take segment.committed, r ∈ journal)
    (hjournal : w.collector.isIdle = false → ∀ r ∈ journal, r ∈ w.journal) :
    Inv { w with active, sealed, journal, durable := digest :: w.durable } where
  kept r hr := by
    rcases List.mem_cons.mp hr with rfl | hr
    · exact ⟨h.held_present hp, (href r).mpr (.inr rfl)⟩
    · exact ⟨(h.kept r hr).1, (href r).mpr (.inl (h.kept r hr).2)⟩
  known r hr := by
    rcases (href r).mp hr with hr | rfl
    · exact List.mem_cons_of_mem _ (h.known r hr)
    · exact List.mem_cons_self
  held := h.held
  drained := hdrained
  fresh := h.fresh
  rounds := h.rounds_later (.of_eq rfl rfl rfl)
  collector := h.collector.beside (.of_producer (h.not_deleting hp)
    (.of_eq rfl rfl rfl) hjournal)

theorem sealed_insert {m : OrdMap Nat Segment} {id : Nat} {new : Segment} {r : String} (hnew : m.get id = none) :
    (∃ id' segment, (m.insert id new).get id' = some segment ∧ r ∈ segment.frames) ↔
      (∃ id' segment, m.get id' = some segment ∧ r ∈ segment.frames) ∨ r ∈ new.frames := by
  constructor
  · rintro ⟨id', segment, hget, hr⟩
    rw [OrdMap.get_insert] at hget
    split at hget
    · obtain rfl := Option.some.inj hget
      exact .inr hr
    · exact .inl ⟨id', segment, hget, hr⟩
  · rintro (⟨id', segment, hget, hr⟩ | hr)
    · have hne : id' ≠ id := by
        rintro rfl
        rw [hnew] at hget
        cases hget
      exact ⟨id', segment, by rw [OrdMap.get_insert_of_ne _ _ hne]; exact hget, hr⟩
    · exact ⟨id, new, OrdMap.get_insert_self _ _ _, hr⟩

theorem producer_inv {e : Event} (h : Inv w) (hstep : w.producer e = some w') : Inv w' := by
  cases e with
  | lease p =>
    obtain ⟨hguard, heq⟩ := Option.ite_none_right_eq_some.mp hstep
    cases heq
    rw [Bool.and_eq_true, Bool.not_eq_true'] at hguard
    refine ⟨h.kept, h.known, fun q digests hget digest hmem => ?_, h.drained, h.fresh, ?_, ?_⟩
    · rw [OrdMap.get_insert] at hget
      split at hget
      · obtain rfl := Option.some.inj hget
        cases hmem
      · exact h.held q digests hget digest hmem
    · exact h.rounds_later (.of_eq rfl rfl rfl)
    · exact h.collector.beside (.of_producer hguard.1 (.of_eq rfl rfl rfl)
        fun _ _ hj => hj)
  | put p digest bytes =>
    obtain ⟨held, hget, rfl⟩ := Option.map_eq_some_iff.mp hstep
    have hdel : w.collector.isDeleting = false := by
      by_contra hdel
      rw [Bool.not_eq_false] at hdel
      rw [get_of_entries_nil (h.no_lease hdel)] at hget
      cases hget
    have hlater : Later w { w with
        files := w.putFiles digest bytes
        nextIdentity := w.nextIdentity + 1
        leases := w.leases.insert p (digest :: held) } := by
      refine ⟨Nat.le_refl _, Nat.le_succ _, fun r f hf => (get_putFiles hf).imp id ?_⟩
      rintro rfl
      exact Nat.le_refl _
    refine ⟨fun r hr => ⟨putFiles_isSome _ _ (.inl (h.kept r hr).1), (h.kept r hr).2⟩, h.known, ?_, h.drained, ?_,
      h.rounds_later hlater, h.collector.beside (.of_producer hdel hlater fun _ _ hj => hj)⟩
    · intro q digests hq r hr
      rw [OrdMap.get_insert] at hq
      split at hq
      · obtain rfl := Option.some.inj hq
        rcases List.mem_cons.mp hr with rfl | hr
        · exact putFiles_isSome _ _ (.inr rfl)
        · exact putFiles_isSome _ _ (.inl (h.held p held hget r hr))
      · exact putFiles_isSome _ _ (.inl (h.held q digests hq r hr))
    · intro r f hf
      rcases get_putFiles hf with hf | rfl
      · obtain ⟨hid, hold⟩ := h.fresh r f hf
        exact ⟨Nat.lt_succ_of_lt hid, hold⟩
      · exact ⟨Nat.lt_succ_self _, Nat.le_refl _⟩
  | append p digest =>
    obtain ⟨hp, heq⟩ := Option.ite_none_right_eq_some.mp hstep
    cases heq
    refine h.announce hp (fun r => ?_) h.drained fun _ r hr => hr
    simp only [World.Referenced, List.mem_append, List.mem_singleton, or_assoc, or_left_comm, or_comm]
  | isolate p digest id =>
    obtain ⟨hguard, heq⟩ := Option.ite_none_right_eq_some.mp hstep
    cases heq
    rw [Bool.and_eq_true, Option.isNone_iff_eq_none] at hguard
    refine h.announce hguard.1 (fun r => ?_) (fun id' segment hget r hr => ?_) fun _ r hr => hr
    · simp only [World.Referenced, sealed_insert hguard.2, List.mem_singleton, or_left_comm, or_comm]
    · rw [OrdMap.get_insert] at hget
      split at hget
      · obtain rfl := Option.some.inj hget
        cases hr
      · exact h.drained id' segment hget r hr
  | record p digest =>
    obtain ⟨hguard, heq⟩ := Option.ite_none_right_eq_some.mp hstep
    cases heq
    rw [Bool.and_eq_true] at hguard
    refine h.announce hguard.1 (fun r => ?_) (fun id segment hget r hr => ?_) fun hidle => ?_
    · simp only [World.Referenced, List.mem_cons, or_assoc, or_comm]
    · exact List.mem_cons_of_mem _ (h.drained id segment hget r hr)
    · rw [hguard.2] at hidle
      cases hidle
  | release p =>
    obtain rfl := Option.some.inj hstep
    refine ⟨h.kept, h.known, fun q digests hget => ?_, h.drained, h.fresh, ?_, ?_⟩
    · rw [OrdMap.get_erase] at hget
      split at hget
      · cases hget
      · exact h.held q digests hget
    · exact h.rounds_later (.of_eq rfl rfl rfl)
    · refine h.collector.beside ⟨.of_eq rfl rfl rfl, fun _ _ hj => hj, fun hdel => ?_,
        fun _ _ ho => ho, fun _ _ _ hf => hf⟩
      show List.filter _ w.leases.entries = []
      rw [h.no_lease hdel]
      rfl
  | _ => cases hstep

/-! ### The spool -/

/-- References move from the spool to the journal or to the quarantine, and none is lost. -/
theorem Inv.move (h : Inv w) {active journal quarantine : List String} {sealed : OrdMap Nat Segment}
    (href : ∀ r, ({ w with active, sealed, journal, quarantine } : World).Referenced r ↔ w.Referenced r)
    (hdrained : ∀ id segment, sealed.get id = some segment → ∀ r ∈ segment.frames.take segment.committed, r ∈ journal)
    (hjournal : w.collector.isIdle = false → ∀ r ∈ journal, r ∈ w.journal) :
    Inv { w with active, sealed, journal, quarantine } where
  kept r hr := ⟨(h.kept r hr).1, (href r).mpr (h.kept r hr).2⟩
  known r hr := h.known r ((href r).mp hr)
  held := h.held
  drained := hdrained
  fresh := h.fresh
  rounds := h.rounds_later (.of_eq rfl rfl rfl)
  collector := h.collector.beside {
    later := .of_eq rfl rfl rfl
    journal := hjournal
    leases := fun hdel => h.no_lease hdel
    orphans := fun _ r ho => ⟨fun hr => ho.1 ((href r).mp hr), ho.2⟩
    files := fun _ _ _ hf => hf }

/-- The frames of the other segments, and of the one that was changed. -/
theorem sealed_update {m : OrdMap Nat Segment} {id n : Nat} {segment : Segment} {r : String}
    (hget : m.get id = some segment) :
    (∃ id' s, (m.insert id { segment with committed := n }).get id' = some s ∧ r ∈ s.frames) ↔
      ∃ id' s, m.get id' = some s ∧ r ∈ s.frames := by
  constructor
  · rintro ⟨id', s, hs, hr⟩
    rw [OrdMap.get_insert] at hs
    split at hs
    · obtain rfl := Option.some.inj hs
      exact ⟨id, segment, hget, hr⟩
    · exact ⟨id', s, hs, hr⟩
  · rintro ⟨id', s, hs, hr⟩
    by_cases heq : id' = id
    · obtain rfl := heq
      obtain rfl := Option.some.inj (hget.symm.trans hs)
      exact ⟨id', _, OrdMap.get_insert_self _ _ _, hr⟩
    · exact ⟨id', s, by rw [OrdMap.get_insert_of_ne _ _ heq]; exact hs, hr⟩

theorem sealed_erase {m : OrdMap Nat Segment} {id : Nat} {segment : Segment} {r : String}
    (hget : m.get id = some segment) :
    (∃ id' s, m.get id' = some s ∧ r ∈ s.frames) ↔
      (∃ id' s, (m.erase id).get id' = some s ∧ r ∈ s.frames) ∨ r ∈ segment.frames := by
  constructor
  · rintro ⟨id', s, hs, hr⟩
    by_cases heq : id' = id
    · obtain rfl := heq
      obtain rfl := Option.some.inj (hget.symm.trans hs)
      exact .inr hr
    · exact .inl ⟨id', s, by rw [OrdMap.get_erase, if_neg heq]; exact hs, hr⟩
  · rintro (⟨id', s, hs, hr⟩ | hr)
    · rw [OrdMap.get_erase] at hs
      split at hs
      · cases hs
      · exact ⟨id', s, hs, hr⟩
    · exact ⟨id, segment, hget, hr⟩

theorem erase_drained (h : Inv w) (id : Nat) : ∀ id' s, (w.sealed.erase id).get id' = some s →
    ∀ r ∈ s.frames.take s.committed, r ∈ w.journal := by
  intro id' s hs
  rw [OrdMap.get_erase] at hs
  split at hs
  · cases hs
  · exact h.drained id' s hs

theorem spool_inv {e : Event} (h : Inv w) (hstep : w.spool e = some w') : Inv w' := by
  cases e with
  | sealActive id =>
    obtain ⟨hnew, heq⟩ := Option.ite_none_right_eq_some.mp hstep
    cases heq
    rw [Option.isNone_iff_eq_none] at hnew
    refine h.move (fun r => ?_) (fun id' s hs r hr => ?_) fun _ r hr => hr
    · simp only [World.Referenced, sealed_insert hnew, List.not_mem_nil, false_or, or_left_comm, or_comm]
    · rw [OrdMap.get_insert] at hs
      split at hs
      · obtain rfl := Option.some.inj hs
        cases hr
      · exact h.drained id' s hs r hr
  | drain id =>
    obtain ⟨segment, hget, hstep⟩ := Option.bind_eq_some_iff.mp hstep
    obtain ⟨digest, hdigest, hstep⟩ := Option.bind_eq_some_iff.mp hstep
    obtain ⟨hidle, heq⟩ := Option.ite_none_right_eq_some.mp hstep
    cases heq
    have hmem : digest ∈ segment.frames := List.mem_of_getElem? hdigest
    refine h.move (fun r => ?_) (fun id' s hs r hr => ?_) fun hno => ?_
    · unfold World.Referenced
      dsimp only
      rw [sealed_update hget, List.mem_cons]
      constructor
      · rintro ((rfl | hr) | hr)
        · exact .inr (.inr (.inl ⟨id, segment, hget, hmem⟩))
        · exact .inl hr
        · exact .inr hr
      · exact Or.imp_left .inr
    · rw [OrdMap.get_insert] at hs
      split at hs
      · obtain rfl := Option.some.inj hs
        rw [List.take_add_one, hdigest] at hr
        rcases List.mem_append.mp hr with hr | hr
        · exact List.mem_cons_of_mem _ (h.drained id segment hget r hr)
        · rw [List.mem_singleton.mp hr]
          exact List.mem_cons_self
      · exact List.mem_cons_of_mem _ (h.drained id' s hs r hr)
    · rw [hidle] at hno
      cases hno
  | interrupt id =>
    obtain ⟨segment, hget, heq⟩ := Option.bind_eq_some_iff.mp hstep
    cases heq
    refine h.move (fun r => ?_) (fun id' s hs r hr => ?_) fun _ r hr => hr
    · unfold World.Referenced
      dsimp only
      rw [sealed_update hget]
    · rw [OrdMap.get_insert] at hs
      split at hs
      · obtain rfl := Option.some.inj hs
        cases hr
      · exact h.drained id' s hs r hr
  | acknowledge id =>
    obtain ⟨segment, hget, hstep⟩ := Option.bind_eq_some_iff.mp hstep
    obtain ⟨hall, heq⟩ := Option.ite_none_right_eq_some.mp hstep
    cases heq
    have hjournal : ∀ r ∈ segment.frames, r ∈ w.journal := by
      have hdrained := h.drained id segment hget
      rw [hall.1, List.take_length] at hdrained
      exact hdrained
    refine h.move (fun r => ?_) (erase_drained h id) fun _ r hr => hr
    unfold World.Referenced
    rw [sealed_erase hget]
    constructor
    · rintro (hr | hr | hr | hr)
      · exact .inl hr
      · exact .inr (.inl hr)
      · exact .inr (.inr (.inl (.inl hr)))
      · exact .inr (.inr (.inr hr))
    · rintro (hr | hr | (hr | hr) | hr)
      · exact .inl hr
      · exact .inr (.inl hr)
      · exact .inr (.inr (.inl hr))
      · exact .inl (hjournal r hr)
      · exact .inr (.inr (.inr hr))
  | quarantine id =>
    obtain ⟨segment, hget, heq⟩ := Option.bind_eq_some_iff.mp hstep
    cases heq
    refine h.move (fun r => ?_) (erase_drained h id) fun _ r hr => hr
    unfold World.Referenced
    dsimp only
    rw [sealed_erase hget, List.mem_append]
    simp only [or_assoc, or_left_comm, or_comm]
  | _ => cases hstep

/-! ### Time and backups -/

theorem keep_inv {e : Event} (h : Inv w) (hstep : w.keep e = some w') : Inv w' := by
  cases e with
  | tick seconds =>
    cases hstep
    have hlater : Later w { w with now := w.now + seconds } :=
      ⟨Nat.le_add_right _ _, Nat.le_refl _, fun _ _ hf => .inl hf⟩
    refine ⟨h.kept, h.known, h.held, h.drained, fun r f hf => ?_, h.rounds_later hlater,
      h.collector.beside ⟨hlater, fun _ _ hj => hj, fun hdel => h.no_lease hdel, fun _ _ ho => ho, fun _ _ _ hf => hf⟩⟩
    obtain ⟨hid, hold⟩ := h.fresh r f hf
    exact ⟨hid, Nat.le_trans hold (Nat.le_add_right _ _)⟩
  | backup name refs =>
    obtain ⟨hidle, heq⟩ := Option.ite_none_right_eq_some.mp hstep
    cases heq
    refine ⟨h.kept, h.known, h.held, h.drained, h.fresh,
      h.rounds_later (.of_eq rfl rfl rfl), ?_⟩
    show w.collector.Sound _
    cases hc : w.collector with
    | idle => trivial
    | marking | marked | sweeping | deleting =>
      rw [hc] at hidle
      cases hidle
  | dropBackup name =>
    cases hstep
    have hlater : Later w { w with backups := w.backups.erase name } :=
      .of_eq rfl rfl rfl
    exact ⟨h.kept, h.known, h.held, h.drained, h.fresh, h.rounds_later hlater,
      h.collector.beside ⟨hlater, fun _ _ hj => hj, fun hdel => h.no_lease hdel,
        fun _ _ ho => ⟨ho.1, fun b hb => ho.2 b (List.mem_of_mem_filter hb)⟩, fun _ _ _ hf => hf⟩⟩
  | _ => cases hstep

/-! ### The collector -/

theorem mem_validate {files : Files} {candidates : List CasGcCandidate}
    (hv : validateGcCandidates files candidates = true) {c : CasGcCandidate} (hc : c ∈ candidates) :
    ∃ f, files.get c.digest = some f ∧ f.identity = c.identity := by
  have hsame := List.all_eq_true.mp hv c hc
  cases hget : files.get c.digest with
  | none =>
    rw [hget] at hsame
    cases hsame
  | some f =>
    rw [hget, Option.any_some, Bool.and_eq_true] at hsame
    exact ⟨f, rfl, eq_of_beq hsame.1⟩

theorem fenceFree_iff : w.fenceFree = true ↔ w.leases.entries = [] := List.isEmpty_iff

theorem mem_spoolRefs {digest : String} : digest ∈ w.spoolRefs ↔
    digest ∈ w.active ∨ ∃ id segment, w.sealed.get id = some segment ∧ digest ∈ segment.frames := by
  unfold World.spoolRefs
  rw [List.mem_append, List.mem_flatMap]
  refine or_congr_right ⟨fun h => ?_, fun h => ?_⟩
  · obtain ⟨segment, hmem, hd⟩ := h
    obtain ⟨id, hget⟩ := OrdMap.mem_values.mp hmem
    exact ⟨id, segment, hget, hd⟩
  · obtain ⟨id, segment, hget, hd⟩ := h
    exact ⟨segment, OrdMap.mem_values.mpr ⟨id, hget⟩, hd⟩

theorem mem_gcAuthority {ids : List String} {id : String} : id ∈ (w.gcAuthority ids).references ↔
    id ∈ ids ∧ (id ∈ w.journal ∨ ∃ b ∈ w.backups.entries, id ∈ b.2) := by
  unfold World.gcAuthority
  simp only [List.mem_filter, Bool.or_eq_true, List.contains_iff_mem, List.any_eq_true, OrdMap.values, List.mem_map,
    exists_exists_and_eq_and]

theorem covers_gcAuthority (ids : List String) : Covers w ids (w.gcAuthority ids) where
  journal _ hid hj := mem_gcAuthority.mpr ⟨hid, .inl hj⟩
  backups b hb _ hid hd := mem_gcAuthority.mpr ⟨hid, .inr ⟨b, hb, hd⟩⟩

/-- What neither a search that is still right nor the spool refers to is an orphan. -/
theorem Covers.orphan {ids : List String} {authority : GcAuthority} (h : Covers w ids authority)
    (hsame : authority.backups = w.backups.entries) (hquarantine : w.quarantine = []) {id : String} (hid : id ∈ ids)
    (hno : id ∉ authority.references ++ w.spoolRefs) : w.Orphan id := by
  rw [List.mem_append, not_or, mem_spoolRefs, not_or] at hno
  constructor
  · rintro (hj | hd | hd | hd)
    · exact hno.1 (h.journal id hid hj)
    · exact hno.2.1 hd
    · exact hno.2.2 hd
    · rw [hquarantine] at hd
      cases hd
  · intro b hb hd
    rw [← hsame] at hb
    exact hno.1 (h.backups b hb id hid hd)

/-- The collector moves on and touches no file. -/
theorem Inv.moveOn (h : Inv w) {collector : Collector} {rounds : OrdMap Nat GcRound} (hc : collector.Sound w)
    (hr : ∀ job r, rounds.get job = some r → Aged w r) : Inv { w with collector, rounds } where
  kept := h.kept
  known := h.known
  held := h.held
  drained := h.drained
  fresh := h.fresh
  rounds job r hround := (hr job r hround).later (.of_eq rfl rfl rfl)
  collector := by
    cases collector with
    | idle => trivial
    | marking | marked => exact hc
    | sweeping round authority =>
      exact ⟨hc.1.later (.of_eq rfl rfl rfl), hc.2.journal, hc.2.backups⟩
    | deleting todo => exact ⟨hc.1, fun c hmem => ⟨(hc.2 c hmem).orphan, (hc.2 c hmem).old⟩⟩

theorem Inv.erase_round (h : Inv w) (job : Nat) :
    ∀ j r, (w.rounds.erase job).get j = some r → Aged w r := by
  intro j r hr
  rw [OrdMap.get_erase] at hr
  split at hr
  · cases hr
  · exact h.rounds j r hr

theorem aged_mark (h : Inv w) {candidates : List CasGcCandidate} (references : List String)
    (hused : ∀ c ∈ candidates, c.identity < w.nextIdentity) : Aged w (.mark candidates references w.now) where
  past := Nat.le_refl _
  used c hc := hused c (List.mem_of_mem_filter hc)
  older _ _ digest f hf _ := (h.fresh digest f hf).2

/-- What a round keeps of its candidates in the end may be removed. -/
theorem doomed_of_sweepCandidates {round : GcRound} {authority : GcAuthority} {candidates : List CasGcCandidate}
    (haged : Aged w round) (hcovers : Covers w round.ids authority) (hsame : authority.backups = w.backups.entries)
    (hquarantine : w.quarantine = [])
    (hsweep : round.sweepCandidates w.files (authority.references ++ w.spoolRefs) w.now = some candidates) :
    ∀ c ∈ candidates, Doomed w c := by
  unfold GcRound.sweepCandidates at hsweep
  obtain ⟨hready, hsweep⟩ := Option.ite_none_left_eq_some.mp hsweep
  obtain ⟨hvalid, heq⟩ := Option.ite_none_right_eq_some.mp hsweep
  obtain rfl := Option.some.inj heq
  intro c hc
  obtain ⟨hround, hno⟩ := List.mem_filter.mp hc
  rw [Bool.not_eq_true', ← Bool.not_eq_true, List.contains_iff_mem] at hno
  refine ⟨hcovers.orphan hsame hquarantine (List.mem_map_of_mem hround) hno, fun f hf => ?_⟩
  obtain ⟨g, hg, hidentity⟩ := mem_validate hvalid hc
  obtain rfl := Option.some.inj (hf.symm.trans hg)
  have hold := haged.older c hround c.digest f hf hidentity
  have hwait : ¬ w.now < round.markedAt + gcGrace := fun hlt => hready (by
    rw [Bool.and_eq_true, Bool.not_eq_true', List.isEmpty_eq_false_iff]
    exact ⟨List.ne_nil_of_mem hround, decide_eq_true hlt⟩)
  omega

theorem Inv.erase (h : Inv w) {c : CasGcCandidate} {todo : List CasGcCandidate} (hleases : w.leases.entries = [])
    (hdoomed : ∀ d ∈ c :: todo, Doomed w d) :
    Inv { w with files := w.files.erase c.digest, collector := .deleting todo } := by
  have hsub : ∀ digest f, (w.files.erase c.digest).get digest = some f → w.files.get digest = some f := by
    intro digest f hf
    rw [OrdMap.get_erase] at hf
    split at hf
    · cases hf
    · exact hf
  refine ⟨fun digest hd => ⟨?_, (h.kept digest hd).2⟩, h.known, fun p digests hget => ?_, h.drained,
    fun digest f hf => h.fresh digest f (hsub digest f hf),
    h.rounds_later ⟨Nat.le_refl _, Nat.le_refl _, fun r f hf => .inl (hsub r f hf)⟩,
    hleases, fun d hd => ⟨(hdoomed d (List.mem_cons_of_mem _ hd)).orphan, fun f hf =>
      (hdoomed d (List.mem_cons_of_mem _ hd)).old f (hsub _ f hf)⟩⟩
  · have hne : digest ≠ c.digest := by
      rintro rfl
      exact (hdoomed c List.mem_cons_self).orphan.1 (h.kept _ hd).2
    show ((w.files.erase c.digest).get digest).isSome
    rw [OrdMap.get_erase, if_neg hne]
    exact (h.kept digest hd).1
  · have hnone : w.leases.get p = none := get_of_entries_nil hleases p
    rw [hnone] at hget
    cases hget

theorem collect_inv {e : Event} (h : Inv w) (hstep : w.collect e = some w') : Inv w' := by
  have hsound := h.collector
  cases e with
  | mark candidates =>
    obtain ⟨hguard, heq⟩ := Option.ite_none_right_eq_some.mp hstep
    cases heq
    rw [Bool.and_eq_true] at hguard
    refine h.moveOn (show (Collector.marking candidates).Sound w from fun c hc => ?_) h.rounds
    obtain ⟨f, hf, hsame⟩ := mem_validate hguard.2 hc
    exact hsame ▸ (h.fresh _ f hf).1
  | authorize =>
    simp only [World.collect] at hstep
    split at hstep
    · next candidates hat =>
      cases hstep
      rw [hat] at hsound
      exact h.moveOn (show (Collector.marked candidates _).Sound w from hsound) h.rounds
    · cases hstep
  | finishMark job =>
    simp only [World.collect] at hstep
    split at hstep
    · next candidates authority hat =>
      obtain ⟨-, heq⟩ := Option.ite_none_right_eq_some.mp hstep
      cases heq
      rw [hat] at hsound
      refine h.moveOn (show Collector.idle.Sound w from trivial) fun j r hr => ?_
      rw [OrdMap.get_insert] at hr
      split at hr
      · obtain rfl := Option.some.inj hr
        exact aged_mark h _ hsound
      · exact h.rounds j r hr
    · cases hstep
  | sweep job =>
    obtain ⟨-, hmap⟩ := Option.ite_none_right_eq_some.mp hstep
    obtain ⟨round, hround, rfl⟩ := Option.map_eq_some_iff.mp hmap
    exact h.moveOn (show (Collector.sweeping round _).Sound w from ⟨h.rounds job round hround, covers_gcAuthority _⟩)
      (h.erase_round job)
  | enter =>
    simp only [World.collect] at hstep
    split at hstep
    · next round authority hat =>
      obtain ⟨hguard, hmap⟩ := Option.ite_none_right_eq_some.mp hstep
      obtain ⟨candidates, hsweep, rfl⟩ := Option.map_eq_some_iff.mp hmap
      rw [hat] at hsound
      rw [Bool.and_eq_true, Bool.and_eq_true, fenceFree_iff, List.isEmpty_iff] at hguard
      obtain ⟨⟨hleases, hsame⟩, hquarantine⟩ := hguard
      have hdoomed := doomed_of_sweepCandidates hsound.1 hsound.2 (eq_of_beq hsame) hquarantine hsweep
      exact h.moveOn (show (Collector.deleting candidates).Sound w from ⟨hleases, hdoomed⟩) h.rounds
    · cases hstep
  | delete =>
    simp only [World.collect] at hstep
    split at hstep
    · next c todo hat =>
      cases hstep
      rw [hat] at hsound
      exact h.erase hsound.1 hsound.2
    · cases hstep
  | leave =>
    cases hstep
    exact h.moveOn (show Collector.idle.Sound w from trivial) h.rounds
  | forget job =>
    cases hstep
    exact h.moveOn h.collector (h.erase_round job)
  | restart =>
    cases hstep
    exact h.moveOn (show Collector.idle.Sound w from trivial) fun _ _ hr => (by cases hr)
  | _ => cases hstep

/-! ### Runs -/

theorem next_inv (e : Event) (h : Inv w) : Inv (w.next e) := by
  unfold World.next
  cases hstep : w.step e with
  | none => exact h
  | some w' =>
    unfold World.step at hstep
    rcases Option.or_eq_some_iff.mp hstep with hp | ⟨-, hstep⟩
    · exact producer_inv h hp
    · rcases Option.or_eq_some_iff.mp hstep with hs | ⟨-, hstep⟩
      · exact spool_inv h hs
      · rcases Option.or_eq_some_iff.mp hstep with hc | ⟨-, hk⟩
        · exact collect_inv h hc
        · exact keep_inv h hk

theorem inv_empty : Inv .empty where
  kept _ hd := by cases hd
  known digest hr := by
    rcases hr with hr | hr | ⟨id, segment, hget, -⟩ | hr
    · cases hr
    · cases hr
    · cases hget
    · cases hr
  held _ _ hget := by cases hget
  drained _ _ hget := by cases hget
  fresh _ _ hf := by cases hf
  rounds _ _ hr := by cases hr
  collector := trivial

theorem inv_run (events : List Event) : Inv (run World.next .empty events) :=
  run_invariant events (fun _ e _ h => next_inv e h) _ inv_empty

end Steps

/-- However the producers, the drain, the backups and the collector take turns, a file that a durable capture refers to
is there, and so is a file that a producer has put and not yet made known. -/
theorem durable_kept (events : List Event) :
    (∀ digest ∈ (run World.next .empty events).durable, ((run World.next .empty events).files.get digest).isSome ∧
      (run World.next .empty events).Referenced digest) ∧
    ∀ p held, (run World.next .empty events).leases.get p = some held → ∀ digest ∈ held,
      ((run World.next .empty events).files.get digest).isSome :=
  ⟨(inv_run events).kept, (inv_run events).held⟩

/-! ## What is removed -/

section Removed

variable {w w' : World} {e : Event} {digest : String} {f : BlobFile}

theorem producer_files (hstep : w.producer e = some w') (hf : w.files.get digest = some f) :
    (w'.files.get digest).isSome := by
  cases e with
  | put p d bytes =>
    obtain ⟨held, -, rfl⟩ := Option.map_eq_some_iff.mp hstep
    exact putFiles_isSome d bytes (.inl (Option.isSome_iff_exists.mpr ⟨f, hf⟩))
  | lease | append | isolate | record =>
    obtain ⟨-, heq⟩ := Option.ite_none_right_eq_some.mp hstep
    cases heq
    exact Option.isSome_iff_exists.mpr ⟨f, hf⟩
  | release =>
    cases hstep
    exact Option.isSome_iff_exists.mpr ⟨f, hf⟩
  | _ => cases hstep

theorem spool_files (hstep : w.spool e = some w') : w'.files = w.files := by
  cases e with
  | sealActive id =>
    obtain ⟨-, heq⟩ := Option.ite_none_right_eq_some.mp hstep
    cases heq
    rfl
  | drain id =>
    obtain ⟨segment, -, hstep⟩ := Option.bind_eq_some_iff.mp hstep
    obtain ⟨digest, -, hstep⟩ := Option.bind_eq_some_iff.mp hstep
    obtain ⟨-, heq⟩ := Option.ite_none_right_eq_some.mp hstep
    cases heq
    rfl
  | interrupt id | quarantine id =>
    obtain ⟨segment, -, heq⟩ := Option.bind_eq_some_iff.mp hstep
    cases heq
    rfl
  | acknowledge id =>
    obtain ⟨segment, -, hstep⟩ := Option.bind_eq_some_iff.mp hstep
    obtain ⟨-, heq⟩ := Option.ite_none_right_eq_some.mp hstep
    cases heq
    rfl
  | _ => cases hstep

theorem keep_files (hstep : w.keep e = some w') : w'.files = w.files := by
  cases e with
  | tick | dropBackup =>
    cases hstep
    rfl
  | backup name refs =>
    obtain ⟨-, heq⟩ := Option.ite_none_right_eq_some.mp hstep
    cases heq
    rfl
  | _ => cases hstep

/-- The collector removes the next file of its list, and otherwise none. -/
theorem collect_files (hstep : w.collect e = some w') : w'.files = w.files ∨
    ∃ c todo, w.collector = .deleting (c :: todo) ∧ w'.files = w.files.erase c.digest := by
  cases e with
  | delete =>
    simp only [World.collect] at hstep
    split at hstep
    · next c todo hat =>
      cases hstep
      exact .inr ⟨c, todo, hat, rfl⟩
    · cases hstep
  | mark candidates =>
    obtain ⟨-, heq⟩ := Option.ite_none_right_eq_some.mp hstep
    cases heq
    exact .inl rfl
  | authorize =>
    simp only [World.collect] at hstep
    split at hstep
    · cases hstep
      exact .inl rfl
    · cases hstep
  | finishMark job =>
    simp only [World.collect] at hstep
    split at hstep
    · obtain ⟨-, heq⟩ := Option.ite_none_right_eq_some.mp hstep
      cases heq
      exact .inl rfl
    · cases hstep
  | sweep job =>
    obtain ⟨-, hmap⟩ := Option.ite_none_right_eq_some.mp hstep
    obtain ⟨round, -, rfl⟩ := Option.map_eq_some_iff.mp hmap
    exact .inl rfl
  | enter =>
    simp only [World.collect] at hstep
    split at hstep
    · obtain ⟨-, hmap⟩ := Option.ite_none_right_eq_some.mp hstep
      obtain ⟨candidates, -, rfl⟩ := Option.map_eq_some_iff.mp hmap
      exact .inl rfl
    · cases hstep
  | leave | forget | restart =>
    cases hstep
    exact .inl rfl
  | _ => cases hstep

/-- A file goes only when the collector removes it. -/
theorem next_files (hf : w.files.get digest = some f) (hgone : (w.next e).files.get digest = none) :
    ∃ c todo, w.collector = .deleting (c :: todo) ∧ c.digest = digest := by
  have hstay : ∀ {w' : World}, w'.files = w.files → w'.files.get digest ≠ none := by
    intro w' heq hnone
    rw [heq, hf] at hnone
    cases hnone
  unfold World.next at hgone
  cases hstep : w.step e with
  | none =>
    rw [hstep] at hgone
    exact absurd hgone (hstay rfl)
  | some w' =>
    rw [hstep, Option.getD_some] at hgone
    unfold World.step at hstep
    rcases Option.or_eq_some_iff.mp hstep with hp | ⟨-, hstep⟩
    · have hsome := producer_files hp hf
      rw [hgone] at hsome
      cases hsome
    · rcases Option.or_eq_some_iff.mp hstep with hs | ⟨-, hstep⟩
      · exact absurd hgone (hstay (spool_files hs))
      · rcases Option.or_eq_some_iff.mp hstep with hc | ⟨-, hk⟩
        · rcases collect_files hc with heq | ⟨c, todo, hat, heq⟩
          · exact absurd hgone (hstay heq)
          · refine ⟨c, todo, hat, ?_⟩
            by_contra hne
            rw [heq, OrdMap.get_erase, if_neg (Ne.symm hne), hf] at hgone
            cases hgone
        · exact absurd hgone (hstay (keep_files hk))

end Removed

/-- Whenever a file goes, in any run, nothing refers to it, nobody holds the fence to make it known, and it is at least
as old as the grace period. -/
theorem removed_old_orphan (events : List Event) (e : Event) {digest : String} {f : BlobFile}
    (hf : (run World.next .empty events).files.get digest = some f)
    (hgone : (run World.next .empty (events ++ [e])).files.get digest = none) :
    (run World.next .empty events).Orphan digest ∧ (run World.next .empty events).leases.entries = [] ∧
      f.createdAt + gcGrace ≤ (run World.next .empty events).now := by
  rw [run_append] at hgone
  obtain ⟨c, todo, hat, rfl⟩ := next_files hf hgone
  have hsound := (inv_run events).collector
  rw [hat] at hsound
  have hdoomed := hsound.2 c List.mem_cons_self
  exact ⟨hdoomed.orphan, hsound.1, hdoomed.old f hf⟩

theorem removed_old_orphan_left : ∃ w : World, w.Orphan "a" ∧ w.leases.entries = [] ∧ 3 + gcGrace ≤ w.now :=
  ⟨_, removed_old_orphan
    [.tick 3, .lease 0, .put 0 "a" 1, .release 0, .mark [⟨"a", 1, 0⟩], .authorize, .finishMark 0, .tick gcGrace,
      .sweep 0, .enter]
    .delete (show _ = some (BlobFile.mk 1 0 3) by decide +kernel) (by decide +kernel)⟩

/-! ## Two rounds -/

section Rounds

variable {w w' : World} {cs : List CasGcCandidate}

theorem next_collect {e : Event} (hp : w.producer e = none) (hs : w.spool e = none) (hc : w.collect e = some w') :
    w.next e = w' := by
  rw [World.next, World.step, hp, hs, hc]
  rfl

theorem notMem_references (hquarantine : w.quarantine = []) {ids : List String} {id : String} (hid : id ∈ ids) :
    id ∉ (w.gcAuthority ids).references ++ w.spoolRefs ↔ w.Orphan id := by
  refine ⟨(covers_gcAuthority ids).orphan rfl hquarantine hid, fun ho hmem => ?_⟩
  rcases List.mem_append.mp hmem with hmem | hmem
  · rcases (mem_gcAuthority.mp hmem).2 with hj | ⟨b, hb, hd⟩
    · exact ho.1 (.inl hj)
    · exact ho.2 b hb hd
  · rcases mem_spoolRefs.mp hmem with hd | hd
    · exact ho.1 (.inr (.inl hd))
    · exact ho.1 (.inr (.inr (.inl hd)))

/-- The candidates that neither the search nor the spool refers to. -/
def orphans (w : World) (cs : List CasGcCandidate) : List CasGcCandidate :=
  cs.filter fun c => !((w.gcAuthority (cs.map CasGcCandidate.digest)).references ++ w.spoolRefs).contains c.digest

theorem mem_orphans (hquarantine : w.quarantine = []) {c : CasGcCandidate} :
    c ∈ orphans w cs ↔ c ∈ cs ∧ w.Orphan c.digest := by
  unfold orphans
  rw [List.mem_filter, Bool.not_eq_true', ← Bool.not_eq_true, List.contains_iff_mem]
  exact and_congr_right fun hc => notMem_references hquarantine (List.mem_map_of_mem hc)

theorem sweepCandidates_orphans (hquarantine : w.quarantine = []) (hvalid : validateGcCandidates w.files cs = true)
    (examined : Nat) :
    GcRound.sweepCandidates ⟨orphans w cs, w.now, examined⟩ w.files
      ((w.gcAuthority ((orphans w cs).map CasGcCandidate.digest)).references ++ w.spoolRefs) (w.now + gcGrace) =
        some (orphans w cs) := by
  unfold GcRound.sweepCandidates
  have hall : (orphans w cs).filter (fun c => !((w.gcAuthority ((orphans w cs).map CasGcCandidate.digest)).references ++
      w.spoolRefs).contains c.digest) = orphans w cs := by
    refine List.filter_eq_self.mpr fun c hc => ?_
    rw [Bool.not_eq_true', ← Bool.not_eq_true, List.contains_iff_mem]
    exact (notMem_references hquarantine (List.mem_map_of_mem hc)).mpr ((mem_orphans hquarantine).mp hc).2
  have hready : ¬ w.now + gcGrace < GcRound.readyAt ⟨orphans w cs, w.now, examined⟩ := Nat.lt_irrefl _
  have hstill : validateGcCandidates w.files (orphans w cs) = true :=
    List.all_eq_true.mpr fun c hc => List.all_eq_true.mp hvalid c (List.mem_of_mem_filter hc)
  dsimp only
  rw [hall, hstill, decide_eq_false hready, Bool.and_false]
  rfl

/-- The first round, a day, and the second one up to where it removes the first file. -/
theorem run_enter (job : Nat) (hidle : w.collector = .idle) (hfree : w.leases.entries = [])
    (hquarantine : w.quarantine = []) (hvalid : validateGcCandidates w.files cs = true) :
    ∃ rounds, run World.next w [.mark cs, .authorize, .finishMark job, .tick gcGrace, .sweep job, .enter] =
      { w with now := w.now + gcGrace, collector := .deleting (orphans w cs), rounds } := by
  have hfence : w.fenceFree = true := fenceFree_iff.mpr hfree
  have hmark : w.next (.mark cs) = { w with collector := .marking cs } := by
    refine next_collect rfl rfl ?_
    simp only [World.collect, hidle, hfence, hvalid, Collector.isIdle, Bool.and_self, if_true]
  have hauthorize : World.next { w with collector := .marking cs } .authorize =
      { w with collector := .marked cs (w.gcAuthority (cs.map CasGcCandidate.digest)) } := next_collect rfl rfl rfl
  have hfinish : World.next { w with collector := .marked cs (w.gcAuthority (cs.map CasGcCandidate.digest)) }
      (.finishMark job) =
      { w with collector := .idle, rounds := w.rounds.insert job ⟨orphans w cs, w.now, cs.length⟩ } := by
    refine next_collect rfl rfl ?_
    show (if w.fenceFree && w.backups.entries == w.backups.entries && validateGcCandidates w.files cs &&
      w.quarantine.isEmpty then _ else none) = _
    rw [hfence, hvalid, hquarantine, beq_self_eq_true]
    rfl
  have hsweep : World.next { w with
        now := w.now + gcGrace
        collector := .idle
        rounds := w.rounds.insert job ⟨orphans w cs, w.now, cs.length⟩ } (.sweep job) =
      { w with
        now := w.now + gcGrace
        collector := .sweeping ⟨orphans w cs, w.now, cs.length⟩
          (w.gcAuthority ((orphans w cs).map CasGcCandidate.digest))
        rounds := (w.rounds.insert job ⟨orphans w cs, w.now, cs.length⟩).erase job } := by
    refine next_collect rfl rfl ?_
    show Option.map _ ((w.rounds.insert job ⟨orphans w cs, w.now, cs.length⟩).get job) = _
    rw [OrdMap.get_insert_self]
    rfl
  have henter : World.next { w with
        now := w.now + gcGrace
        collector := .sweeping ⟨orphans w cs, w.now, cs.length⟩
          (w.gcAuthority ((orphans w cs).map CasGcCandidate.digest))
        rounds := (w.rounds.insert job ⟨orphans w cs, w.now, cs.length⟩).erase job } .enter =
      { w with
        now := w.now + gcGrace
        collector := .deleting (orphans w cs)
        rounds := (w.rounds.insert job ⟨orphans w cs, w.now, cs.length⟩).erase job } := by
    refine next_collect rfl rfl ?_
    have hguard : (w.fenceFree && w.backups.entries == w.backups.entries && w.quarantine.isEmpty) = true := by
      rw [hfence, hquarantine, beq_self_eq_true]
      rfl
    have hpass := sweepCandidates_orphans hquarantine hvalid cs.length
    exact (if_pos hguard).trans (congrArg (Option.map _) hpass)
  refine ⟨(w.rounds.insert job ⟨orphans w cs, w.now, cs.length⟩).erase job, ?_⟩
  show World.next (World.next (World.next (World.next (World.next (w.next (.mark cs)) .authorize) (.finishMark job))
    (.tick gcGrace)) (.sweep job)) .enter = _
  rw [hmark, hauthorize, hfinish]
  exact (congrArg (fun w => World.next w .enter) hsweep).trans henter

theorem get_eraseAll {digest : String} : ∀ {todo : List CasGcCandidate} {files : Files},
    (todo.foldl (fun files c => files.erase c.digest) files).get digest =
      if digest ∈ todo.map CasGcCandidate.digest then none else files.get digest := by
  intro todo
  induction todo with
  | nil => exact fun {files} => rfl
  | cons c rest ih =>
    intro files
    rw [List.foldl_cons, ih, OrdMap.get_erase, List.map_cons]
    by_cases hrest : digest ∈ rest.map CasGcCandidate.digest
    · rw [if_pos hrest, if_pos (List.mem_cons_of_mem _ hrest)]
    · rw [if_neg hrest]
      by_cases heq : digest = c.digest
      · rw [if_pos heq, if_pos (heq ▸ List.mem_cons_self)]
      · rw [if_neg heq, if_neg (List.not_mem_cons_of_ne_of_not_mem heq hrest)]

theorem run_delete (todo : List CasGcCandidate) : ∀ (w : World), w.collector = .deleting todo →
    (run World.next w (List.replicate todo.length .delete)).files =
      todo.foldl (fun files c => files.erase c.digest) w.files := by
  induction todo with
  | nil => exact fun w _ => rfl
  | cons c rest ih =>
    intro w hat
    have hnext : w.next .delete = { w with files := w.files.erase c.digest, collector := .deleting rest } := by
      refine next_collect rfl rfl ?_
      simp only [World.collect, hat]
    show (run World.next (w.next .delete) (List.replicate rest.length .delete)).files = _
    rw [hnext, ih _ rfl]
    rfl

/-- Two rounds over the same files, of which the second one removes `n`. -/
def rounds (job : Nat) (cs : List CasGcCandidate) (n : Nat) : List Event :=
  [.mark cs, .authorize, .finishMark job, .tick gcGrace, .sweep job, .enter] ++ List.replicate n .delete

/-- Two rounds a day apart, with nothing else happening, remove those of the enumerated files that nothing refers to,
and no other file. -/
theorem rounds_exact (w : World) (job : Nat) (cs : List CasGcCandidate) (hidle : w.collector = .idle)
    (hfree : w.leases.entries = []) (hquarantine : w.quarantine = []) (hvalid : validateGcCandidates w.files cs = true) :
    ∃ n, ∀ digest,
      (w.Orphan digest ∧ digest ∈ cs.map CasGcCandidate.digest →
        (run World.next w (rounds job cs n)).files.get digest = none) ∧
      (¬ (w.Orphan digest ∧ digest ∈ cs.map CasGcCandidate.digest) →
        (run World.next w (rounds job cs n)).files.get digest = w.files.get digest) := by
  refine ⟨(orphans w cs).length, fun digest => ?_⟩
  have hmem : digest ∈ (orphans w cs).map CasGcCandidate.digest ↔
      w.Orphan digest ∧ digest ∈ cs.map CasGcCandidate.digest := by
    simp only [List.mem_map, mem_orphans hquarantine]
    constructor
    · rintro ⟨c, ⟨hc, ho⟩, rfl⟩
      exact ⟨ho, c, hc, rfl⟩
    · rintro ⟨ho, c, hc, rfl⟩
      exact ⟨c, ⟨hc, ho⟩, rfl⟩
  obtain ⟨later, henter⟩ := run_enter job hidle hfree hquarantine hvalid
  rw [rounds, run_append, henter, run_delete (orphans w cs) _ rfl, get_eraseAll]
  exact ⟨fun ho => if_pos (hmem.mpr ho), fun hno => if_neg (mt hmem.mp hno)⟩

theorem rounds_exact_pair : ∃ n,
    (run World.next (run World.next .empty [.lease 0, .put 0 "a" 1, .put 0 "b" 2, .append 0 "b", .release 0])
      (rounds 0 [⟨"a", 1, 0⟩, ⟨"b", 2, 1⟩] n)).files.get "a" = none ∧
    (run World.next (run World.next .empty [.lease 0, .put 0 "a" 1, .put 0 "b" 2, .append 0 "b", .release 0])
      (rounds 0 [⟨"a", 1, 0⟩, ⟨"b", 2, 1⟩] n)).files.get "b" = some ⟨2, 1, 0⟩ := by
  obtain ⟨n, hn⟩ := rounds_exact
    (run World.next .empty [.lease 0, .put 0 "a" 1, .put 0 "b" 2, .append 0 "b", .release 0])
    0 [⟨"a", 1, 0⟩, ⟨"b", 2, 1⟩] rfl (by decide +kernel) rfl (by decide +kernel)
  have horphan :
      (run World.next .empty [.lease 0, .put 0 "a" 1, .put 0 "b" 2, .append 0 "b", .release 0]).Orphan "a" := by
    refine ⟨fun href => ?_, fun b hb => (by cases hb)⟩
    rcases href with hj | hd | hd | hd
    · cases hj
    · exact absurd hd (by decide +kernel)
    · obtain ⟨id, segment, hget, -⟩ := hd
      cases hget
    · cases hd
  exact ⟨n, (hn "a").1 ⟨horphan, by decide⟩, (hn "b").2 fun h => h.1.1 (.inr (.inl (by decide +kernel)))⟩

end Rounds

end EverTrace.L2.GcProtocol
