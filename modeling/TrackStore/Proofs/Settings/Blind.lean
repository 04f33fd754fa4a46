import TrackStore.Proofs.Atomicity
import TrackStore.Proofs.Settings.Alike

/-! # Programs that are blind to the settings

A program is blind to what a relation of states leaves open when from related states it gives the
same answer, or the same error, and leaves related states behind. Programs that are put together
from blind ones are blind, so it is enough to look at the elementary calls. The one that need not be
blind to the settings is the deletion of a row that was deleted before.
-/
namespace TrackStore

/-- The same answer or the same error, and states that are related. -/
inductive SameResult {ε σ α : Type} (R : σ → σ → Prop) :
    EStateM.Result ε σ α → EStateM.Result ε σ α → Prop
  | ok (a : α) {s t : σ} : R s t → SameResult R (.ok a s) (.ok a t)
  | error (e : ε) {s t : σ} : R s t → SameResult R (.error e s) (.error e t)

/-- From related states the program has the same result, up to the states. -/
structure Blind {ε σ α : Type} (R : σ → σ → Prop) (p : EStateM ε σ α) : Prop where
  result : ∀ {s t : σ}, R s t → SameResult R (p s) (p t)

section Rules
variable {ε σ α β : Type} {R : σ → σ → Prop}

theorem SameResult.bind {p : EStateM ε σ α} {next : α → EStateM ε σ β} {s t : σ}
    (hp : SameResult R (p s) (p t))
    (hnext : ∀ a s' t', p s = .ok a s' → R s' t' → SameResult R (next a s') (next a t')) :
    SameResult R ((p >>= next) s) ((p >>= next) t) := by
  simp only [Bind.bind, EStateM.bind]
  generalize hs : p s = x at hp ⊢
  generalize p t = y at hp ⊢
  cases hp with
  | ok a h => exact hnext a _ _ hs h
  | error e h => exact .error e h

/-- What a handler finds is the state that the error left behind. -/
theorem SameResult.tryCatch {p : EStateM ε σ α} {handle : ε → EStateM ε σ α} {s t : σ}
    (hp : SameResult R (p s) (p t))
    (hhandle : ∀ e s' t', p s = .error e s' → R s' t' →
      SameResult R (handle e s') (handle e t')) :
    SameResult R (MonadExceptOf.tryCatch p handle s) (MonadExceptOf.tryCatch p handle t) := by
  simp only [MonadExceptOf.tryCatch, EStateM.tryCatch, EStateM.Backtrackable.restore,
    EStateM.dummyRestore]
  generalize hs : p s = x at hp ⊢
  generalize p t = y at hp ⊢
  cases hp with
  | ok a h => exact .ok a h
  | error e h => exact hhandle e _ _ hs h

namespace Blind

theorem pure (a : α) : Blind R (Pure.pure a : EStateM ε σ α) := ⟨fun h => .ok a h⟩

theorem bind {p : EStateM ε σ α} {next : α → EStateM ε σ β} (hp : Blind R p)
    (hnext : ∀ a, Blind R (next a)) : Blind R (p >>= next) :=
  ⟨fun h => (hp.result h).bind fun a _ _ _ h' => (hnext a).result h'⟩

end Blind

end Rules

namespace Store

variable {cs : Config × Config}

theorem blind_query {α : Type} {read : Store → Except Error α}
    (h : ∀ {s t : Store}, Alike cs s t → read s = read t) : Blind (Alike cs) (query read) := by
  refine ⟨fun {s t} hst => ?_⟩
  rw [query_apply, query_apply, ← h hst]
  cases read s with
  | ok a => exact .ok a hst
  | error e => exact .error e hst

section Calls
variable {s t : Store} {e : Edit}

/-- The check of a call reads nothing that alike stores may differ in, unless the call deletes a row
that was deleted before. -/
theorem Alike.verdict (h : Alike cs s t) (he : ∀ row, e = .deleteRow row → ¬ s.Retired row) :
    e.verdict s = e.verdict t := by
  cases e with
  | createRow => exact congrArg Except.ok h.rows.fst_allocate
  | deleteRow row => simp only [Edit.verdict, h.mayDelete (he row rfl)]
  | register d => simp only [Edit.verdict, h.registry]
  | setRaw field row bytes => simp only [Edit.verdict, h.columnAt]
  | setValue ty field row v => simp only [Edit.verdict, h.checkType, h.columnAt]
  | removeAt field row => simp only [Edit.verdict, h.hasValue]
  | copyValue field src dst => simp only [Edit.verdict, h.checkRow, h.columnAt]
  | addFrame track frame => simp only [Edit.verdict, h.mayJoin]
  | detachFrame frame => simp only [Edit.verdict, h.owningTrack]

theorem Alike.change (h : Alike cs s t) (he : ∀ row, e = .deleteRow row → ¬ s.Retired row) :
    e.change s = e.change t := by
  cases e with
  | createRow => rfl
  | deleteRow row => simp only [Edit.change, h.mayDelete (he row rfl)]
  | register d => simp only [Edit.change, h.registry]
  | setRaw field row bytes => simp only [Edit.change, h.columnAt]
  | setValue ty field row v => simp only [Edit.change, h.checkType, h.columnAt]
  | removeAt field row => simp only [Edit.change, h.columnAt]
  | copyValue field src dst => simp only [Edit.change, h.checkRow, h.columnAt]
  | addFrame track frame => simp only [Edit.change, h.mayJoin]
  | detachFrame frame => simp only [Edit.change, h.checkRow]

/-- A call has one result on alike stores, unless it deletes a row that was deleted before. -/
theorem Alike.perform (h : Alike cs s t) (he : ∀ row, e = .deleteRow row → ¬ s.Retired row) :
    SameResult (Alike cs) (e.perform s) (e.perform t) := by
  rw [Edit.perform_eq, Edit.perform_eq, ← h.verdict he, ← h.change he]
  cases e.verdict s with
  | error err => exact .error err h
  | ok answer =>
    cases hc : e.change s with
    | none => exact .ok answer h
    | some c => exact .ok answer (h.apply (Edit.change_allowed hc))

end Calls

theorem blind_edit {e : Edit} (he : ∀ row, e ≠ .deleteRow row) : Blind (Alike cs) e.perform :=
  ⟨fun h => h.perform fun row hdelete => absurd hdelete (he row)⟩

theorem Alike.deleteRow_live {s t : Store} (h : Alike cs s t) {row : Row}
    (hlive : s.isLive row = true) : SameResult (Alike cs) (deleteRow row s) (deleteRow row t) := by
  refine h.perform (e := .deleteRow row) ?_
  rintro _ ⟨⟩ hr
  simp [hr.not_live] at hlive

end Store
end TrackStore
