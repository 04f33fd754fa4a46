import TrackStore.Config.Text
import TrackStore.Store.Basic
import TrackStore.Toml.Document.Lemmas

/-! # Settings written and read

Settings whose number a document can hold are written, and reading the text gives them back unless
they ask for more room than the maximum. The same holds of some of their lines in any order, with
the defaults for those left out.
-/

namespace TrackStore.Config

open Toml

/-- One of the settings that a document can give. -/
inductive Setting where
  | capacity
  | doubleDelete
  | validate
deriving DecidableEq, Repr

namespace Setting

def key : Setting → String
  | capacity => capacityKey
  | doubleDelete => doubleDeleteKey
  | validate => validateKey

def value (c : Config) : Setting → Value
  | capacity => .integer c.initialRowCapacity
  | doubleDelete => .text c.doubleDelete.name
  | validate => .boolean c.validateCoordinates

def valueText (c : Config) : Setting → String
  | capacity => toString c.initialRowCapacity
  | doubleDelete => "\"" ++ c.doubleDelete.name ++ "\""
  | validate => toString c.validateCoordinates

def line (c : Config) (s : Setting) : String := s.key ++ " = " ++ s.valueText c ++ "\n"

end Setting

/-- Some of the settings, each on a line of its own, in a given order. -/
def written (c : Config) (ss : List Setting) : String := .join (ss.map (Setting.line c))

/-- Some of the settings as they are, and the defaults of the others. -/
def restrict (c : Config) (ss : List Setting) : Config where
  initialRowCapacity :=
    if .capacity ∈ ss then c.initialRowCapacity else ({} : Config).initialRowCapacity
  doubleDelete := if .doubleDelete ∈ ss then c.doubleDelete else ({} : Config).doubleDelete
  validateCoordinates :=
    if .validate ∈ ss then c.validateCoordinates else ({} : Config).validateCoordinates

variable {c : Config} {ss : List Setting}

theorem isBare_key (s : Setting) : IsBare s.key := by
  have hne : s.key.toList ≠ [] := by cases s <;> decide
  have hbare : s.key.toList.all isBareKey = true := by cases s <;> decide
  exact ⟨hne, List.all_eq_true.mp hbare⟩

theorem key_injective {s t : Setting} (h : s.key = t.key) : s = t := by
  cases s <;> cases t <;> first | rfl | exact absurd h (by decide)

theorem isVerbatim_name (p : DoubleDelete) : ∀ x ∈ p.name.toList, IsVerbatim x := by
  have hname : p.name.toList.all (decide <| IsVerbatim ·) = true := by cases p <;> decide
  exact fun x hx => of_decide_eq_true (List.all_eq_true.mp hname x hx)

theorem writes_valueText (h : c.initialRowCapacity ≤ maxWritten) (s : Setting) :
    Writes (s.valueText c).toList (s.value c) := by
  cases s with
  | capacity =>
    have hmax : (c.initialRowCapacity : Int) ≤ maxInteger := by
      unfold maxWritten at h
      unfold maxInteger
      omega
    have htext : (Setting.valueText c .capacity).toList = Nat.toDigits 10 c.initialRowCapacity := by
      rw [Setting.valueText, Nat.toString_eq_ofList_toDigits, String.toList_ofList]
    rw [htext]
    exact writes_integer hmax
  | doubleDelete =>
    have htext : (Setting.valueText c .doubleDelete).toList =
        '"' :: (c.doubleDelete.name.toList ++ ['"']) := by
      simp [Setting.valueText]
    rw [htext]
    exact writes_text (isVerbatim_name c.doubleDelete)
  | validate => exact writes_boolean c.validateCoordinates

theorem written_eq (c : Config) (ss : List Setting) :
    c.written ss = .ofList (ss.flatMap fun s => entryText s.key (s.valueText c).toList) := by
  have hlines (s : Setting) :
      (Setting.line c s).toList = entryText s.key (s.valueText c).toList := by
    simp [Setting.line, entryText]
  refine String.toList_inj.mp ?_
  rw [written, String.toList_join, String.toList_ofList, List.flatMap_map]
  exact congrArg (ss.flatMap ·) (funext hlines)

/-- The three lines of a written document. -/
theorem toText_eq (h : c.initialRowCapacity ≤ maxWritten) :
    c.toText = .ok (c.written [.capacity, .doubleDelete, .validate]) := by
  rw [toText, if_neg (Nat.not_lt_of_le h)]
  refine congrArg Except.ok (String.toList_inj.mp ?_)
  simp [written, Setting.line, Setting.key, Setting.valueText]

theorem read_written (h : c.initialRowCapacity ≤ maxWritten) (hss : ss.Nodup) :
    read (c.written ss) = some (ss.map fun s => (s.key, s.value c)) := by
  have hkeys : (ss.map Setting.key).Nodup :=
    hss.map fun _ _ => key_injective
  rw [written_eq]
  exact read_entries (fun s _ => isBare_key s) (fun s _ => writes_valueText h s) hkeys

theorem find?_written (c : Config) (ss : List Setting) (s : Setting) :
    Table.find? (ss.map fun s => (s.key, s.value c)) s.key =
      if s ∈ ss then some (s.value c) else none := by
  induction ss with
  | nil => rfl
  | cons t ss ih =>
    by_cases hst : s = t
    · subst hst
      simp [Table.find?]
    · have hkey : (s.key == t.key) = false := beq_eq_false_iff_ne.mpr (mt key_injective hst)
      rw [Table.find?] at ih ⊢
      rw [List.map_cons, List.lookup_cons, hkey]
      simpa [hst] using ih

/-- The value of a setting is read back where it is written, and the default elsewhere. -/
theorem field_written {α : Type} (s : Setting) {ofToml : Value → Option α} {a : α}
    (h : ofToml (s.value c) = some a) (ss : List Setting) (default : α) :
    field (ss.map fun s => (s.key, s.value c)) s.key default ofToml =
      some (if s ∈ ss then a else default) := by
  rw [field, find?_written]
  by_cases hs : s ∈ ss
  · simp only [if_pos hs, h]
  · simp only [if_neg hs]

theorem ofToml_name (p : DoubleDelete) : DoubleDelete.ofToml (.text p.name) = some p := by
  cases p <;> decide

theorem ofTable_written (c : Config) (ss : List Setting) :
    ofTable (ss.map fun s => (s.key, s.value c)) = some (c.restrict ss) := by
  let t : Table := ss.map fun s => (s.key, s.value c)
  have hnumber : capacityOfToml (Setting.value c .capacity) = some c.initialRowCapacity := by
    simp [Setting.value, capacityOfToml]
  have htruth : boolOfToml (Setting.value c .validate) = some c.validateCoordinates := rfl
  have hcapacity : field t capacityKey ({} : Config).initialRowCapacity capacityOfToml =
      some (c.restrict ss).initialRowCapacity := field_written .capacity hnumber ss _
  have hname := ofToml_name c.doubleDelete
  have hdelete : field t doubleDeleteKey ({} : Config).doubleDelete DoubleDelete.ofToml =
      some (c.restrict ss).doubleDelete := field_written .doubleDelete hname ss _
  have hvalidate : field t validateKey ({} : Config).validateCoordinates boolOfToml =
      some (c.restrict ss).validateCoordinates := field_written .validate htruth ss _
  rw [ofTable, hcapacity, Option.bind_eq_bind, Option.bind_some, hdelete, Option.bind_eq_bind,
    Option.bind_some, hvalidate]
  rfl

theorem ofText_eq (text : String) :
    ofText text = match (read text).bind ofTable with
      | some c => c.validate.map fun _ => c
      | none => .error .malformed := by
  unfold ofText
  cases (read text).bind ofTable with
  | none => rfl
  | some c => cases h : c.validate <;> simp [h, bind, Except.bind, Except.map, pure, Except.pure]

theorem ofText_written (h : c.initialRowCapacity ≤ maxWritten) (hss : ss.Nodup) :
    ofText (c.written ss) = (c.restrict ss).validate.map fun _ => c.restrict ss := by
  rw [ofText_eq, read_written h hss, Option.bind_some, ofTable_written]

theorem restrict_all (c : Config) : c.restrict [.capacity, .doubleDelete, .validate] = c := by
  simp [restrict]

theorem validate_of_le (h : c.initialRowCapacity ≤ maxRowCapacity) : c.validate = .ok () := by
  rw [validate, if_neg (Nat.not_lt_of_le h)]

theorem validate_of_lt (h : maxRowCapacity < c.initialRowCapacity) :
    c.validate = .error (.capacityTooGreat c.initialRowCapacity maxRowCapacity) := by
  rw [validate, if_pos h]

theorem le_of_validate (h : c.validate = .ok ()) : c.initialRowCapacity ≤ maxRowCapacity := by
  by_contra hgt
  rw [validate_of_lt (Nat.lt_of_not_le hgt)] at h
  cases h

/-- Settings that were left out ask for their default room, which is below the maximum. -/
theorem restrict_capacity_le (h : c.initialRowCapacity ≤ maxRowCapacity) (ss : List Setting) :
    (c.restrict ss).initialRowCapacity ≤ maxRowCapacity := by
  simp only [restrict]
  split
  · exact h
  · decide

theorem le_of_ofText {text : String} (h : ofText text = .ok c) :
    c.initialRowCapacity ≤ maxRowCapacity := by
  rw [ofText_eq] at h
  split at h
  next d _ =>
    cases hvalid : d.validate with
    | error e =>
      rw [hvalid] at h
      cases h
    | ok _ =>
      rw [hvalid] at h
      cases h
      exact le_of_validate hvalid
  next => cases h

theorem build_eq (c : Config) :
    Store.build c = (c.validate.mapError Error.config).map fun _ => Store.withConfig c := by
  unfold Store.build
  cases c.validate <;> rfl

/-- Settings within the maximum are read back from their text, and from any of its lines with the
defaults for the others. Greater ones that a document can hold are written, but refused with their
number in reading, in building a store and in the check itself; still greater ones are not written.
Whatever is accepted is within the maximum. -/
theorem text_round_trip (c : Config) :
    (c.initialRowCapacity ≤ 2 ^ 26 →
      (∃ text, c.toText = .ok text ∧ ofText text = .ok c) ∧
      ∀ ss : List Setting, ss.Nodup → ofText (c.written ss) = .ok (c.restrict ss)) ∧
    (2 ^ 26 < c.initialRowCapacity → c.initialRowCapacity ≤ 2 ^ 63 - 1 →
      let refused := ConfigError.capacityTooGreat c.initialRowCapacity (2 ^ 26)
      (∃ text, c.toText = .ok text ∧ ofText text = .error refused) ∧
      Store.build c = .error (.config refused) ∧ c.validate = .error refused ∧
      (Error.config refused).message? = some ("Configuration error: initial_row_capacity " ++
        toString c.initialRowCapacity ++ " exceeds the maximum of " ++ toString (2 ^ 26))) ∧
    (2 ^ 63 - 1 < c.initialRowCapacity → c.toText = .error .unwritable) ∧
    (∀ text accepted, ofText text = .ok accepted → accepted.initialRowCapacity ≤ 2 ^ 26) ∧
    ∀ s, Store.build c = .ok s → c.initialRowCapacity ≤ 2 ^ 26 ∧ s = Store.withConfig c := by
  have hall : ([.capacity, .doubleDelete, .validate] : List Setting).Nodup := by decide
  refine ⟨fun h => ?_, fun hgt hle => ?_, fun hgt => if_pos hgt, fun _ _ => le_of_ofText,
    fun s hs => ?_⟩
  · have hwritten : c.initialRowCapacity ≤ maxWritten := by
      unfold maxWritten
      omega
    have hread (ss : List Setting) (hss : ss.Nodup) :
        ofText (c.written ss) = .ok (c.restrict ss) := by
      rw [ofText_written hwritten hss, validate_of_le (restrict_capacity_le h ss)]
      rfl
    exact ⟨⟨_, toText_eq hwritten, (hread _ hall).trans (congrArg _ (restrict_all c))⟩, hread⟩
  · have hrefused := validate_of_lt hgt
    refine ⟨⟨_, toText_eq hle, ?_⟩, ?_, hrefused, ?_⟩
    · rw [ofText_written hle hall, restrict_all, hrefused]
      rfl
    · rw [build_eq, hrefused]
      rfl
    · simp only [Error.message?, String.append_assoc]
      rfl
  · rw [build_eq] at hs
    cases hvalid : c.validate with
    | error e =>
      rw [hvalid] at hs
      cases hs
    | ok _ =>
      rw [hvalid] at hs
      cases hs
      exact ⟨le_of_validate hvalid, rfl⟩

/-- At the maximum two lines in another order are read, with the default policy; one above it the
whole text is refused. -/
theorem text_round_trip_maximum :
    let c : Config := ⟨67108864, .error, false⟩
    let above : Config := ⟨67108865, .error, false⟩
    c.written [.validate, .capacity] =
        "validate_coordinates = false\ninitial_row_capacity = 67108864\n" ∧
      ofText (c.written [.validate, .capacity]) = .ok ⟨67108864, .ignore, false⟩ ∧
      (∃ text, above.toText = .ok text ∧
        ofText text = .error (.capacityTooGreat 67108865 67108864)) ∧
      toText ⟨2 ^ 63, .ignore, true⟩ = .error .unwritable := by
  intro c above
  have hlines := ((text_round_trip c).1 (by decide)).2 [.validate, .capacity] (by decide)
  have habove := ((text_round_trip above).2.1 (by decide) (by decide)).1
  exact ⟨by decide +kernel, hlines.trans (by decide +kernel), habove,
    (text_round_trip ⟨2 ^ 63, .ignore, true⟩).2.2.1 (by decide)⟩

end TrackStore.Config
