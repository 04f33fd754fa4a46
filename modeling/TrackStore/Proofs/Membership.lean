import TrackStore.Proofs.Effect
import Mathlib.Data.List.Nodup

/-! # Frames and owners

The lists of frames and the table of owners say the same: a frame has one owner, membership is one
level deep, and only live rows take part. Every call keeps this, so it holds after every run.
-/
namespace TrackStore.Store

/-- Frames and owners fit together: one owner to a frame, one level deep, among live rows. -/
structure Membership (s : Store) : Prop where
  owner_iff : ∀ track frame, s.owners[frame]? = some track ↔ frame ∈ s.framesOf track
  nodup : ∀ track, (s.framesOf track).Nodup
  keys_live : ∀ track, track ∈ s.frames → s.isLive track = true
  owner_live : ∀ track frame, s.owners[frame]? = some track →
    s.isLive frame = true ∧ s.isLive track = true
  one_level : ∀ track frame, s.owners[frame]? = some track → s.framesOf frame = []

namespace Membership

theorem self_ne {s : Store} (h : s.Membership) (row : Row) : s.owners[row]? ≠ some row := by
  intro ho
  have hmem := (h.owner_iff row row).mp ho
  rw [h.one_level row row ho] at hmem
  cases hmem

theorem not_mem_framesOf {s : Store} (h : s.Membership) (track : Row) : track ∉ s.framesOf track :=
  fun hmem => h.self_ne track ((h.owner_iff track track).mpr hmem)

theorem frame_live {s : Store} (h : s.Membership) {track frame : Row}
    (hf : frame ∈ s.framesOf track) : s.isLive frame = true :=
  (h.owner_live track frame ((h.owner_iff track frame).mpr hf)).1

theorem track_unique {s : Store} (h : s.Membership) {track other frame : Row}
    (hf : frame ∈ s.framesOf track) (hf' : frame ∈ s.framesOf other) : track = other := by
  have howner := (h.owner_iff track frame).mpr hf
  rw [(h.owner_iff other frame).mpr hf'] at howner
  exact (Option.some.inj howner).symm

/-- A row without frames owns nothing. -/
theorem owners_ne {s : Store} (h : s.Membership) {row : Row} (hf : s.framesOf row = [])
    (frame : Row) : s.owners[frame]? ≠ some row := by
  intro ho
  have hmem := (h.owner_iff row frame).mp ho
  rw [hf] at hmem
  cases hmem

theorem filter_framesOf {s : Store} (h : s.Membership) {track frame : Row}
    (ho : s.owners[frame]? ≠ some track) :
    (s.framesOf track).filter (· ≠ frame) = s.framesOf track := by
  have hnot : frame ∉ s.framesOf track := mt (h.owner_iff track frame).mpr ho
  rw [List.filter_eq_self]
  intro other hother
  exact decide_eq_true fun he => hnot (he ▸ hother)

/-- A row is listed by its owner only, so it is taken out of every list. -/
theorem framesOf_leave {s : Store} (h : s.Membership) (frame track : Row) :
    (s.leave frame).framesOf track = (s.framesOf track).filter (· ≠ frame) := by
  rw [Store.framesOf_leave]
  by_cases ho : s.owners[frame]? = some track
  · rw [if_pos ho]
  · rw [if_neg ho, h.filter_framesOf ho]

theorem join {s : Store} (h : s.Membership) {track frame : Row}
    (hc : Change.Allowed s (.join track frame)) : (s.join track frame).Membership := by
  obtain ⟨htrack, hframe, hne, hfree, hnone, htop⟩ := hc
  constructor
  · intro t f
    rw [owners_join, framesOf_join]
    by_cases hf : f = frame
    · subst hf
      have hold : ∀ t, f ∉ s.framesOf t := fun t hm => by simp [(h.owner_iff t f).mpr hm] at hfree
      by_cases ht : t = track
      · simp [ht]
      · simp [ht, hold, Ne.symm ht]
    · by_cases ht : t = track
      · subst ht
        simp [hf, h.owner_iff]
      · simp [hf, ht, h.owner_iff]
  · intro t
    rw [framesOf_join]
    split
    · have hold : frame ∉ s.framesOf track := fun hm => by
        simp [(h.owner_iff track frame).mpr hm] at hfree
      exact List.nodup_append.mpr ⟨h.nodup track, List.nodup_singleton frame,
        fun a ha b hb => by rintro rfl; exact hold (List.mem_singleton.mp hb ▸ ha)⟩
    · exact h.nodup t
  · intro t ht
    rcases (mem_frames_apply s (.join track frame) t).mp ht with rfl | ht
    · exact htrack
    · exact h.keys_live t ht
  · intro t f ho
    rw [owners_join] at ho
    split at ho
    · cases ho
      exact ⟨‹f = frame› ▸ hframe, htrack⟩
    · exact h.owner_live t f ho
  · intro t f ho
    rw [owners_join] at ho
    rw [framesOf_join]
    by_cases hf : f = frame
    · subst hf
      simp [Ne.symm hne, hnone]
    · have hft : f ≠ track := by
        rintro rfl
        simp [hf, htop] at ho
      simp only [hf, if_false] at ho
      simp only [hft, if_false]
      exact h.one_level t f ho

theorem leave {s : Store} (h : s.Membership) (frame : Row) : (s.leave frame).Membership := by
  have owner_of {t f : Row} (ho : (s.leave frame).owners[f]? = some t) :
      f ≠ frame ∧ s.owners[f]? = some t := by
    rw [owners_leave] at ho
    split at ho
    · cases ho
    · exact ⟨‹_›, ho⟩
  have hlive : ∀ row, (s.leave frame).isLive row = s.isLive row :=
    isLive_apply s (.leave frame)
  constructor
  · intro t f
    rw [owners_leave, h.framesOf_leave]
    by_cases hf : f = frame <;> simp [hf, h.owner_iff]
  · intro t
    rw [h.framesOf_leave]
    exact (h.nodup t).filter _
  · intro t ht
    rw [hlive]
    exact h.keys_live t ((mem_frames_apply s (.leave frame) t).mp ht)
  · intro t f ho
    rw [hlive, hlive]
    exact h.owner_live t f (owner_of ho).2
  · intro t f ho
    rw [h.framesOf_leave, h.one_level t f (owner_of ho).2, List.filter_nil]

theorem drop {s : Store} (h : s.Membership) {row : Row}
    (hc : Change.Allowed s (.drop row)) : (s.drop row).Membership := by
  -- Without frames the row has only itself to take out, and that is what leaving does.
  have hleave := h.leave row
  have owner_eq (f : Row) : (s.drop row).owners[f]? = (s.leave row).owners[f]? := by
    rw [owners_drop, owners_leave]
  have hlive (r : Row) (hr : r ≠ row) (hl : s.isLive r = true) : (s.drop row).isLive r = true := by
    rw [show (s.drop row).isLive r = _ from isLive_apply s (.drop row) r]
    simp [hr, hl]
  constructor
  · intro t f
    rw [owner_eq, framesOf_drop hc.2]
    exact hleave.owner_iff t f
  · intro t
    rw [framesOf_drop hc.2]
    exact hleave.nodup t
  · intro t ht
    obtain ⟨hne, ht⟩ := (mem_frames_apply s (.drop row) t).mp ht
    exact hlive t hne (h.keys_live t ht)
  · intro t f ho
    rw [owners_drop] at ho
    split at ho
    · cases ho
    · obtain ⟨hf, ht⟩ := h.owner_live t f ho
      have htrow : t ≠ row := by
        rintro rfl
        exact h.owners_ne hc.2 f ho
      exact ⟨hlive f ‹_› hf, hlive t htrow ht⟩
  · intro t f ho
    rw [framesOf_drop hc.2]
    exact hleave.one_level t f (owner_eq f ▸ ho)

theorem framesOf_drop {s : Store} (h : s.Membership) {row : Row} (hnone : s.framesOf row = [])
    (track : Row) : (s.drop row).framesOf track = (s.framesOf track).filter (· ≠ row) :=
  (Store.framesOf_drop hnone track).trans (h.framesOf_leave row track)

theorem apply {s : Store} (h : s.Membership) {c : Change} (hc : c.Allowed s) :
    (c.apply s).Membership := by
  cases c with
  | issue =>
    have hlive (row : Row) (hl : s.isLive row = true) :
        (Change.issue.apply s).isLive row = true := by
      rw [isLive_apply]
      simp [hl]
    exact { h with
      keys_live := fun t ht => hlive t (h.keys_live t ht)
      owner_live := fun t f ho => (h.owner_live t f ho).imp (hlive f) (hlive t) }
  | join track frame => exact h.join hc
  | leave frame => exact h.leave frame
  | drop row => exact h.drop hc
  | declare d => exact ⟨h.owner_iff, h.nodup, h.keys_live, h.owner_live, h.one_level⟩
  | write field row bytes => exact ⟨h.owner_iff, h.nodup, h.keys_live, h.owner_live, h.one_level⟩
  | clear field row => exact ⟨h.owner_iff, h.nodup, h.keys_live, h.owner_live, h.one_level⟩

end Membership

theorem membership_withConfig (config : Config) : (withConfig config).Membership := by
  constructor <;> simp [withConfig, framesOf]

/-- Frames and owners after any run. An empty list of frames may stay behind at a live row. -/
theorem membership_run (config : Config) (es : List Edit) :
    let s := (withConfig config).run es
    (∀ track frame : Row, s.owners[frame]? = some track ↔
      ∃ frames, s.frames[track]? = some frames ∧ frame ∈ frames) ∧
    (∀ (track : Row) (frames : List Row), s.frames[track]? = some frames → frames.Nodup) ∧
    (∀ (track other : Row) (frames others : List Row), s.frames[track]? = some frames →
      s.frames[other]? = some others → ∀ frame ∈ frames, frame ∈ others → track = other) ∧
    (∀ (track : Row) (frames : List Row), s.frames[track]? = some frames →
      s.isLive track = true ∧ ∀ frame ∈ frames, s.isLive frame = true) ∧
    (∀ track frame : Row, s.owners[frame]? = some track →
      s.isLive frame = true ∧ s.isLive track = true) ∧
    (∀ (row track : Row) (frames : List Row), s.owners[row]? = some track →
      s.frames[row]? = some frames → frames = []) ∧
    ∀ row : Row, s.owners[row]? ≠ some row := by
  intro s
  have h : s.Membership := run_keeps (fun _ _ hc h => h.apply hc) (membership_withConfig config) es
  have hlist {track frames} (hf : s.frames[track]? = some frames) : s.framesOf track = frames := by
    simp [framesOf, Std.ExtTreeMap.getD_eq_getD_getElem?, hf]
  refine ⟨?_, ?_, ?_, ?_, h.owner_live, ?_, h.self_ne⟩
  · intro track frame
    rw [h.owner_iff, framesOf, Std.ExtTreeMap.getD_eq_getD_getElem?]
    cases s.frames[track]? <;> simp
  · intro track frames hf
    exact hlist hf ▸ h.nodup track
  · intro track other frames others hf ho frame hframe hother
    have htrack := (h.owner_iff track frame).mpr (hlist hf ▸ hframe)
    rw [(h.owner_iff other frame).mpr (hlist ho ▸ hother)] at htrack
    exact (Option.some.inj htrack).symm
  · intro track frames hf
    refine ⟨h.keys_live track (Std.ExtTreeMap.mem_iff_isSome_getElem?.mpr (by simp [hf])), ?_⟩
    intro frame hframe
    exact h.frame_live (hlist hf ▸ hframe)
  · intro row track frames ho hf
    exact hlist hf ▸ h.one_level track row ho

end TrackStore.Store
