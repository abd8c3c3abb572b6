import LifeStory.Host.SessionTable
import LifeStory.Proofs.Session.Run

/-!
# Runs of a session table

A table is driven by calls: a session is created under a fresh handle, or something is asked of the
session under a handle. A call adds a session, replaces one or removes one, and nothing else
(`call_outcome`); what a call answers about a session is what the session answers by itself
(`Session.respond`), unless the session is poisoned.

    (t.add h s).get? k = if k = h then some (.sound s) else t.get? k         (get?_add)
    (t.replace h slot).get? k =
      if k = h then (t.get? h).map (fun _ => slot) else t.get? k             (get?_replace)
    (t.without h).get? k = if k = h then none else t.get? k                  (get?_without)
    t.CallOutcome c (t.call c)                                               (call_outcome)
-/

namespace LifeStory

/-- What is asked of the session under a handle. -/
inductive Request where
  | call (c : Call)
  | snapshot
  | fullSnapshot
  | remove
deriving DecidableEq, Repr

/-- A call of a table from outside. A session that is created gets the handle that comes with it. -/
inductive TableCall where
  | create (fresh : SessionHandle) (seed : UInt64) (raw : RawPlayer)
  | ask (h : SessionHandle) (request : Request)
deriving DecidableEq, Repr

/-- What a table answers if it does not fail. -/
inductive Answer where
  | created (h : SessionHandle) (view : Snapshot)
  | shown (view : Snapshot)
  | shownFully (view : FullSnapshot)
  | removed

namespace Session

/-- What a session by itself answers, and the session that it leaves behind. -/
def respond (s : Session) : Request → Except Failure Answer × Session
  | .call c => ((s.call c).1.map fun _ => .shown (s.call c).2.snapshot, (s.call c).2)
  | .snapshot => (.ok (.shown s.snapshot), s)
  | .fullSnapshot => (.ok (.shownFully s.fullSnapshot), s)
  | .remove => (.ok .removed, s)

end Session

namespace SessionTable

/-- What a table answers to a request, and the table that it leaves behind. -/
def ask (t : SessionTable) (h : SessionHandle) : Request → Except Failure Answer × SessionTable
  | .call (.step ticks) => ((t.step h ticks).1.map .shown, (t.step h ticks).2)
  | .call (.choose storylet choice ticksAfter) =>
    ((t.choose h storylet choice ticksAfter).1.map .shown,
      (t.choose h storylet choice ticksAfter).2)
  | .snapshot => (((t.read h Session.snapshot).mapError .refused).map .shown, t)
  | .fullSnapshot => (((t.read h Session.fullSnapshot).mapError .refused).map .shownFully, t)
  | .remove => (((t.remove h).1.mapError .refused).map fun _ => .removed, (t.remove h).2)

/-- What a call answers, and the table that it leaves behind. -/
def call (t : SessionTable) : TableCall → Except Failure Answer × SessionTable
  | .create fresh seed raw =>
    ((t.create fresh seed raw).1.map fun (h, view) => .created h view, (t.create fresh seed raw).2)
  | .ask h request => t.ask h request

/-- The table that some calls leave behind. -/
def run (t : SessionTable) (calls : List TableCall) : SessionTable :=
  calls.foldl (fun t c => (t.call c).2) t

/-- Some calls with what each answers, oldest first. -/
abbrev Log := List (TableCall × Except Failure Answer)

def transcript (t : SessionTable) : List TableCall → Log
  | [] => []
  | c :: rest => (c, (t.call c).1) :: (t.call c).2.transcript rest

/-- The table with a session under a handle. -/
def add (t : SessionTable) (h : SessionHandle) (s : Session) : SessionTable :=
  { t with slots := (h, .sound s) :: t.others h }

/-- The table without the session under a handle. -/
def without (t : SessionTable) (h : SessionHandle) : SessionTable := { t with slots := t.others h }

theorem mem_handles_iff (t : SessionTable) (h : SessionHandle) :
    h ∈ t.handles ↔ ∃ slot, t.get? h = some slot := by
  unfold handles get?
  rw [List.mem_reverse, List.mem_map, ← Option.isSome_iff_exists, List.lookup_isSome_iff]
  constructor
  · rintro ⟨entry, mem, rfl⟩
    exact ⟨entry, mem, beq_self_eq_true _⟩
  · rintro ⟨entry, mem, heq⟩
    exact ⟨entry, mem, (beq_iff_eq.1 heq).symm⟩

theorem get?_eq_none_iff (t : SessionTable) (h : SessionHandle) :
    t.get? h = none ↔ h ∉ t.handles := by
  rw [mem_handles_iff, ← Option.isSome_iff_exists, Option.not_isSome_iff_eq_none]

@[simp] theorem handles_replace (t : SessionTable) (h : SessionHandle) (slot : Slot) :
    (t.replace h slot).handles = t.handles := by
  unfold handles replace
  dsimp only
  rw [List.map_map]
  congr 1
  apply List.map_congr_left
  intro entry _
  show (if entry.1 == h then (h, slot) else entry).1 = entry.1
  split_ifs with heq
  · exact (beq_iff_eq.1 heq).symm
  · rfl

@[simp] theorem handles_without (t : SessionTable) (h : SessionHandle) :
    (t.without h).handles = t.handles.filter (· != h) := by
  unfold handles without others
  dsimp only
  rw [List.filter_reverse, List.filter_map]
  rfl

@[simp] theorem handles_add (t : SessionTable) (h : SessionHandle) (s : Session) :
    (t.add h s).handles = t.handles.filter (· != h) ++ [h] := by
  rw [← handles_without]
  unfold handles add
  rw [List.map_cons, List.reverse_cons]
  rfl

theorem length_handles (t : SessionTable) : t.handles.length = t.size := by
  unfold handles size
  rw [List.length_reverse, List.length_map]

/-! ## What a call does -/

/-- The ways in which a call of a table ends. -/
inductive CallOutcome (t : SessionTable) :
    TableCall → Except Failure Answer × SessionTable → Prop
  | refused (fresh : SessionHandle) (seed : UInt64) (raw : RawPlayer) (failure : Failure)
      (failed : Session.startRaw seed raw t.catalog t.config = .error failure) :
      CallOutcome t (.create fresh seed raw) (.error failure, t)
  | created (fresh : SessionHandle) (seed : UInt64) (raw : RawPlayer) (s : Session)
      (started : Session.startRaw seed raw t.catalog t.config = .ok s) :
      CallOutcome t (.create fresh seed raw) (.ok (.created fresh s.snapshot), t.add fresh s)
  | unknown (h : SessionHandle) (request : Request) (absent : t.get? h = none) :
      CallOutcome t (.ask h request) (.error (.refused (.unknownSession h)), t)
  | poisoned (h : SessionHandle) (request : Request) (stays : request ≠ .remove)
      (present : t.get? h = some .poisoned) :
      CallOutcome t (.ask h request) (.error (.refused (.sessionPoisoned h)), t)
  | operated (h : SessionHandle) (c : Call) (s : Session) (present : t.get? h = some (.sound s)) :
      CallOutcome t (.ask h (.call c)) ((s.respond (.call c)).1, t.replace h (.after (s.call c)))
  | snapshot (h : SessionHandle) (s : Session) (present : t.get? h = some (.sound s)) :
      CallOutcome t (.ask h .snapshot) (.ok (.shown s.snapshot), t)
  | fullSnapshot (h : SessionHandle) (s : Session) (present : t.get? h = some (.sound s)) :
      CallOutcome t (.ask h .fullSnapshot) (.ok (.shownFully s.fullSnapshot), t)
  | removed (h : SessionHandle) (slot : Slot) (present : t.get? h = some slot) :
      CallOutcome t (.ask h .remove) (.ok .removed, t.without h)

section Ask

variable {t : SessionTable} {h : SessionHandle}

theorem ask_call (t : SessionTable) (h : SessionHandle) (c : Call) :
    t.ask h (.call c) =
      ((t.operate h fun s => s.call c).1.map .shown, (t.operate h fun s => s.call c).2) := by
  cases c <;> rfl

/-- Whatever is asked under a handle without a session, nothing changes. -/
theorem ask_of_absent (absent : t.get? h = none) (request : Request) :
    t.ask h request = (.error (.refused (.unknownSession h)), t) := by
  cases request with
  | call c =>
    rw [ask_call]
    unfold operate
    rw [absent]
    rfl
  | snapshot =>
    unfold ask read
    rw [absent]
    rfl
  | fullSnapshot =>
    unfold ask read
    rw [absent]
    rfl
  | remove =>
    unfold ask remove
    rw [absent]
    rfl

/-- Whatever is asked of a poisoned session but to remove it, nothing changes. -/
theorem ask_of_poisoned (poisoned : t.get? h = some .poisoned) {request : Request}
    (stays : request ≠ .remove) :
    t.ask h request = (.error (.refused (.sessionPoisoned h)), t) := by
  cases request with
  | call c =>
    rw [ask_call]
    unfold operate
    rw [poisoned]
    rfl
  | snapshot =>
    unfold ask read
    rw [poisoned]
    rfl
  | fullSnapshot =>
    unfold ask read
    rw [poisoned]
    rfl
  | remove => exact absurd rfl stays

theorem ask_remove_of_present {slot : Slot} (present : t.get? h = some slot) :
    t.ask h .remove = (.ok .removed, t.without h) := by
  unfold ask remove
  rw [present]
  rfl

theorem ask_call_of_sound {s : Session} (present : t.get? h = some (.sound s)) (c : Call) :
    t.ask h (.call c) = ((s.respond (.call c)).1, t.replace h (.after (s.call c))) := by
  rw [ask_call]
  unfold operate Session.respond
  rw [present]
  dsimp only
  cases (s.call c).1 <;> rfl

end Ask

theorem ask_outcome (t : SessionTable) (h : SessionHandle) (request : Request) :
    t.CallOutcome (.ask h request) (t.ask h request) := by
  cases hslot : t.get? h with
  | none =>
    rw [ask_of_absent hslot]
    exact .unknown h request hslot
  | some slot =>
    by_cases hremove : request = .remove
    · subst hremove
      rw [ask_remove_of_present hslot]
      exact .removed h slot hslot
    · cases slot with
      | poisoned =>
        rw [ask_of_poisoned hslot hremove]
        exact .poisoned h request hremove hslot
      | sound s =>
        cases request with
        | call c =>
          rw [ask_call_of_sound hslot]
          exact .operated h c s hslot
        | snapshot =>
          unfold ask read
          rw [hslot]
          exact .snapshot h s hslot
        | fullSnapshot =>
          unfold ask read
          rw [hslot]
          exact .fullSnapshot h s hslot
        | remove => exact absurd rfl hremove

theorem call_outcome (t : SessionTable) (c : TableCall) : t.CallOutcome c (t.call c) := by
  cases c with
  | create fresh seed raw =>
    unfold call create
    dsimp only
    cases hs : Session.startRaw seed raw t.catalog t.config with
    | error failure => exact .refused fresh seed raw failure hs
    | ok s => exact .created fresh seed raw s hs
  | ask h request => exact t.ask_outcome h request

end SessionTable

end LifeStory
