import Mathlib.Data.List.Induction
import TrackStore.Proofs.Frames.Joining
import TrackStore.Proofs.History

/-! # The history of frames

The membership log of a run lists who joined which track and who left. The frames of a track are the
rows that joined it last and did not leave since, in the order in which they joined.
-/
namespace TrackStore

/-- What a call did to the membership of a row. -/
inductive MembershipEvent where
  | joined (track frame : Row)
  /-- The row is no frame any more: it was detached, or deleted. -/
  | left (frame : Row)
deriving DecidableEq, Repr

namespace MembershipEvent

/-- The row whose membership it is. -/
def frame : MembershipEvent → Row
  | joined _ frame => frame
  | left frame => frame

/-- The rows whose latest event is that they joined the track, in the order of these events. -/
def standing (track : Row) : List MembershipEvent → List Row
  | [] => []
  | joined owner frame :: later =>
    if owner = track ∧ ∀ event ∈ later, event.frame ≠ frame then frame :: standing track later
    else standing track later
  | left _ :: later => standing track later

/-- The frames of a track after the event. -/
def update (track : Row) (frames : List Row) : MembershipEvent → List Row
  | joined owner frame => frames.filter (· ≠ frame) ++ if owner = track then [frame] else []
  | left frame => frames.filter (· ≠ frame)

theorem standing_concat (track : Row) (log : List MembershipEvent) (event : MembershipEvent) :
    standing track (log ++ [event]) = event.update track (standing track log) := by
  induction log with
  | nil => cases event <;> simp [standing, update]
  | cons first log ih =>
    cases first with
    | left frame => exact ih
    | joined owner frame =>
      simp only [List.cons_append, standing, List.forall_mem_append, List.forall_mem_singleton, ih]
      -- What stood stands on unless the new event is about it.
      by_cases hstood : owner = track ∧ ∀ other ∈ log, other.frame ≠ frame
      · by_cases hevent : event.frame = frame
        · cases event <;> simp_all [update, MembershipEvent.frame]
        · cases event <;> simp_all [update, MembershipEvent.frame, eq_comm]
      · have hnot : ¬ (owner = track ∧ (∀ other ∈ log, other.frame ≠ frame) ∧
            event.frame ≠ frame) := fun h => hstood ⟨h.1, h.2.1⟩
        rw [if_neg hstood, if_neg hnot]

theorem standing_append_toList (track : Row) (log : List MembershipEvent)
    (event : Option MembershipEvent) :
    standing track (log ++ event.toList) =
      event.elim (standing track log) (update track (standing track log)) := by
  cases event with
  | none => simp
  | some event => exact standing_concat track log event

theorem mem_update {track row : Row} {frames : List Row} {event : MembershipEvent} :
    row ∈ event.update track frames ↔
      event = .joined track row ∨ event.frame ≠ row ∧ row ∈ frames := by
  cases event with
  | left frame =>
    simp only [update, MembershipEvent.frame, List.mem_filter, decide_eq_true_eq, reduceCtorEq,
      false_or, ne_eq, @eq_comm _ row, and_comm]
  | joined owner frame =>
    by_cases howner : owner = track <;>
      simp [update, MembershipEvent.frame, howner, @eq_comm _ row, and_comm, or_comm]

/-- Of the events of a row the last one decides. -/
theorem mem_standing (track row : Row) (log : List MembershipEvent) :
    row ∈ standing track log ↔
      (log.filter (·.frame = row)).getLast? = some (.joined track row) := by
  induction log using List.reverseRecOn with
  | nil => simp [standing]
  | append_singleton log event ih =>
    rw [standing_concat, mem_update, ih, List.filter_append]
    by_cases hrow : event.frame = row
    · simp [hrow]
    · have hne : event ≠ .joined track row := by
        rintro rfl
        exact hrow rfl
      simp [hrow, hne]

end MembershipEvent

/-- The event of a call, if it succeeds and makes a row a frame, or a row is no frame any more. To
add a frame to the track that has it is no event, and neither is to detach what is no frame. -/
def Edit.membershipEvent (s : Store) (e : Edit) : Option MembershipEvent :=
  if e.succeeds s then
    match e with
    | addFrame track frame =>
      if s.owners[frame]? = some track then none else some (.joined track frame)
    | detachFrame frame => if s.owners[frame]? = none then none else some (.left frame)
    | deleteRow row => if s.isLive row then some (.left row) else none
    | _ => none
  else none

/-- The events of a run. -/
def Store.membershipLog (s : Store) : List Edit → List MembershipEvent
  | [] => []
  | e :: es => (e.membershipEvent s).toList ++ (e.after s).membershipLog es

def Change.membershipEvent (s : Store) : Change → Option MembershipEvent
  | join track frame => some (.joined track frame)
  | leave frame => if s.owners[frame]? = none then none else some (.left frame)
  | drop row => some (.left row)
  | _ => none

theorem Edit.membershipEvent_eq {s : Store} (hs : s.WellFormed) (e : Edit) :
    e.membershipEvent s = (e.change s).bind (Change.membershipEvent s) := by
  cases e with
  | createRow => rfl
  | deleteRow row =>
    simp only [membershipEvent, succeeds, perform, Store.deleteRow_apply, change]
    cases hm : s.mayDelete row with
    | error e => rfl
    | ok deletes =>
      cases deletes with
      | true => simp [((Store.mayDelete_eq_true ..).mp hm).1, Change.membershipEvent]
      | false => simp [(Store.mayDelete_eq_false.mp hm).1]
  | addFrame track frame =>
    simp only [membershipEvent, succeeds, perform, Store.addFrame_apply, change]
    cases hm : s.mayJoin track frame with
    | error e => rfl
    | ok joins =>
      cases joins with
      | true =>
        have hfree := ((Store.mayJoin_eq_true ..).mp hm).2.2.2.1
        simp [hfree, Change.membershipEvent]
      | false =>
        have howner := ((Store.owningTrack_eq_ok ..).mp ((Store.mayJoin_eq_false hs).mp hm)).2
        simp [howner]
  | detachFrame frame =>
    simp only [membershipEvent, succeeds, perform, Store.detachFrame_apply, Store.owningTrack,
      change]
    cases s.checkRow frame <;> rfl
  | register d =>
    simp only [membershipEvent, ite_self, change]
    split <;> rfl
  | setRaw field row bytes =>
    simp only [membershipEvent, ite_self, change]
    split <;> rfl
  | setValue t field row v =>
    simp only [membershipEvent, ite_self, change]
    split <;> rfl
  | removeAt field row =>
    simp only [membershipEvent, ite_self, change]
    split <;> rfl
  | copyValue field src dst =>
    simp only [membershipEvent, ite_self, change]
    split
    next column _ _ => cases column[src]? <;> rfl
    next => rfl

namespace Store

/-- What a change does to the frames of a track is what its event says. -/
theorem framesOf_apply_event {s : Store} (hs : s.Membership) {c : Change} (hc : c.Allowed s)
    (track : Row) :
    (c.apply s).framesOf track =
      (c.membershipEvent s).elim (s.framesOf track) (·.update track (s.framesOf track)) := by
  cases c with
  | join owner frame =>
    have hold : (s.framesOf track).filter (· ≠ frame) = s.framesOf track :=
      hs.filter_framesOf (by simp [hc.2.2.2.1])
    rw [show (Change.apply s (.join owner frame)).framesOf track = _ from framesOf_join ..]
    simp only [Change.membershipEvent, Option.elim_some, MembershipEvent.update, hold]
    by_cases howner : owner = track
    · simp [howner]
    · simp [howner, Ne.symm howner]
  | leave frame =>
    by_cases hfree : s.owners[frame]? = none
    · have hsame : s.leave frame = s := by simp only [leave, hfree]
      simp only [Change.membershipEvent, if_pos hfree, Change.apply, hsame]
      rfl
    · simp only [Change.membershipEvent, if_neg hfree]
      exact hs.framesOf_leave frame track
  | drop row => exact hs.framesOf_drop hc.2 track
  | _ => rfl

theorem framesOf_after {s : Store} (hs : s.WellFormed) (e : Edit) (track : Row) :
    (e.after s).framesOf track =
      (e.membershipEvent s).elim (s.framesOf track) (·.update track (s.framesOf track)) := by
  rw [Edit.membershipEvent_eq hs, Edit.after_eq]
  cases h : e.change s with
  | none => rfl
  | some c => exact framesOf_apply_event hs.membership (Edit.change_allowed h) track

/-- A run goes on with the log: what the log before it accounts for, the longer log does. -/
theorem framesOf_run {s : Store} (hs : s.WellFormed) {track : Row} {log : List MembershipEvent}
    (h : s.framesOf track = MembershipEvent.standing track log) (es : List Edit) :
    (s.run es).framesOf track = MembershipEvent.standing track (log ++ s.membershipLog es) := by
  induction es generalizing s log with
  | nil => simpa [membershipLog, run] using h
  | cons e es ih =>
    have hafter : (e.after s).framesOf track =
        MembershipEvent.standing track (log ++ (e.membershipEvent s).toList) := by
      rw [framesOf_after hs, h, MembershipEvent.standing_append_toList]
    have hrun : (s.run (e :: es)).framesOf track = ((e.after s).run es).framesOf track := rfl
    rw [hrun, ih (hs.after e) hafter, membershipLog, List.append_assoc]

/-- What joining and leaving do to a store, and what its lists of frames keep of the log. -/
structure RecordsMembership (s : Store) (log : List MembershipEvent) : Prop where
  added_iff : ∀ track frame, (∃ t, addFrame track frame s = .ok () t) ↔
    s.isLive track = true ∧ s.isLive frame = true ∧ track ≠ frame ∧
      (s.owners[frame]? = some track ∨
        s.owners[frame]? = none ∧ s.framesOf frame = [] ∧ s.owners[track]? = none)
  added_again : ∀ track frame : Row, s.owners[frame]? = some track →
    addFrame track frame s = .ok () s
  added : ∀ (track frame : Row) t, addFrame track frame s = .ok () t →
    s.owners[frame]? ≠ some track → s.Joined track frame t
  /-- Also where one of the rows is not on its level. -/
  other_owner : ∀ track frame owner : Row, s.isLive track = true → track ≠ frame →
    s.owners[frame]? = some owner → owner ≠ track →
      addFrame track frame s = .error (.frameOwnership frame owner) s
  detached : ∀ frame : Row, s.isLive frame = true →
    ∃ t, detachFrame frame s = .ok s.owners[frame]? t ∧ s.Left frame t
  deleted : ∀ frame t, s.isLive frame = true → deleteRow frame s = .ok () t →
    ∀ track, t.framesOf track = (s.framesOf track).filter (· ≠ frame)
  frames : ∀ track, s.isLive track = true →
    s.framesAt track = .ok (MembershipEvent.standing track log)
  latest : ∀ track frame, frame ∈ MembershipEvent.standing track log ↔
    (log.filter (·.frame = frame)).getLast? = some (.joined track frame)
  /-- What joins last is last, wherever it stood before. -/
  added_behind : ∀ (track frame : Row) t, s.owners[frame]? = some track →
    detachFrame frame s = .ok (some track) t → ∃ u, addFrame track frame t = .ok () u ∧
      u.framesOf track = (s.framesOf track).filter (· ≠ frame) ++ [frame]
  restored : ∀ (track frame : Row) t, addFrame track frame s = .ok () t →
    s.owners[frame]? ≠ some track → ∃ u, detachFrame frame t = .ok (some track) u ∧
      ∀ row, u.framesAt row = s.framesAt row ∧ u.owningTrack row = s.owningTrack row

theorem WellFormed.recordsMembership {s : Store} {log : List MembershipEvent} (hs : s.WellFormed)
    (hlog : ∀ track, s.framesOf track = MembershipEvent.standing track log) :
    s.RecordsMembership log := by
  have hjoin {track frame : Row} {t : Store} (h : addFrame track frame s = .ok () t)
      (hne : s.owners[frame]? ≠ some track) :
      Change.Allowed s (.join track frame) ∧ t = s.join track frame := by
    obtain ⟨htrack, hframe, hrows, ho | hfree⟩ := (addFrame_eq_ok_iff hs).mp ⟨t, h⟩
    · exact absurd ho hne
    · have hallowed : Change.Allowed s (.join track frame) := ⟨htrack, hframe, hrows, hfree⟩
      rw [addFrame_eq_join hallowed] at h
      cases h
      exact ⟨hallowed, rfl⟩
  constructor
  case added_iff => exact fun track frame => addFrame_eq_ok_iff hs
  case added_again => exact fun track frame => addFrame_of_owner hs
  case added =>
    intro track frame t h hne
    obtain ⟨-, rfl⟩ := hjoin h hne
    exact joined_join ..
  case other_owner =>
    exact fun track frame owner htrack hne => addFrame_of_other_owner hs htrack hne
  case detached =>
    exact fun frame hlive => ⟨_, detachFrame_of_live hlive, left_leave hs.membership frame⟩
  case deleted =>
    intro frame t hlive h track
    obtain ⟨hallowed, rfl⟩ := eq_drop_of_deleteRow hlive h
    exact hs.membership.framesOf_drop hallowed.2 track
  case frames => exact fun track hlive => (framesAt_eq_ok ..).mpr ⟨hlive, hlog track⟩
  case latest => exact fun track frame => MembershipEvent.mem_standing ..
  case added_behind =>
    intro track frame t ho h
    rw [detachFrame_of_live (hs.membership.owner_live track frame ho).1, ho] at h
    cases h
    have hleft := left_leave hs.membership frame
    refine ⟨_, addFrame_eq_join (hleft.rejoins hs.membership ho), ?_⟩
    rw [(joined_join ..).frames_track, hleft.frames]
  case restored =>
    intro track frame t h hne
    obtain ⟨hallowed, rfl⟩ := hjoin h hne
    have hjoined := joined_join s track frame
    have hleft := left_leave (hs.membership.join hallowed) frame
    have hlive : (s.join track frame).isLive frame = true := hallowed.2.1
    have hdetach := detachFrame_of_live hlive
    rw [hjoined.owner_frame] at hdetach
    have hcontents := hjoined.toSameContents.trans hleft.toSameContents
    refine ⟨_, hdetach, fun row => ?_⟩
    obtain ⟨hframes, howner⟩ := hjoined.left hs.membership hallowed.2.2.2.1 hleft row
    exact ⟨hcontents.framesAt hframes, hcontents.owningTrack howner⟩

/-- After every run a track has the frames that stand in the log, and joining and leaving go on with
them. -/
theorem frames_history_run (config : Config) (es : List Edit) :
    ((withConfig config).run es).RecordsMembership ((withConfig config).membershipLog es) := by
  have hnew : (withConfig config).WellFormed := wellFormed_withConfig config
  refine (hnew.run es).recordsMembership fun track => ?_
  have hempty : (withConfig config).framesOf track = MembershipEvent.standing track [] := by
    simp [withConfig, framesOf, MembershipEvent.standing]
  exact framesOf_run hnew hempty es

end Store
end TrackStore
