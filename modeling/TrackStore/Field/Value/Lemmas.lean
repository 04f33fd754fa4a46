import TrackStore.Field.Value
import TrackStore.Wire.Codec.Lemmas

/-! # Field values and their bytes

The codec of every field type is exact on the values whose lengths can be written.
-/

namespace TrackStore

namespace Codec

theorem exact_binary32 : binary32.Exact fun _ => True :=
  (exact_word 4).iso (fun _ => rfl) fun _ => rfl

theorem exact_binary64 : binary64.Exact fun _ => True :=
  (exact_word 8).iso (fun _ => rfl) fun _ => rfl

theorem exact_box : box.Exact fun _ => True := by
  have hparts := exact_binary64.pair (exact_binary64.pair (exact_binary64.pair exact_binary64))
  simp only [and_true] at hparts
  exact hparts.iso (fun _ => rfl) fun _ => rfl

theorem exact_coordinate : coordinate.Exact fun _ => True := by
  have hparts := exact_binary64.pair exact_binary64
  simp only [and_true] at hparts
  exact hparts.iso (fun _ => rfl) fun _ => rfl

theorem exact_fileFormat : (choice FileFormat.all).Exact fun _ => True :=
  exact_choice (by decide) (fun v => by cases v <;> decide) (by decide)

theorem exact_doubleDelete : (choice DoubleDelete.all).Exact fun _ => True :=
  exact_choice (by decide) (fun v => by cases v <;> decide) (by decide)

end Codec

namespace FieldType

/-- Every text and every list in the value is short enough for its count. -/
def Fits : (t : FieldType) → t.Value → Prop
  | text, s => s.utf8ByteSize < 2 ^ 64
  | option item, v => ∀ a ∈ v, item.Fits a
  | list item, items => items.length < 2 ^ 64 ∧ ∀ a ∈ items, item.Fits a
  | array _ item, items => ∀ a ∈ items.val, item.Fits a
  | pair first second, v => first.Fits v.1 ∧ second.Fits v.2
  | _, _ => True

theorem exact_codec (t : FieldType) : t.codec.Exact t.Fits := by
  induction t with
  | unit => exact Codec.exact_unit
  | bool => exact Codec.exact_bool
  | unsigned width => exact Codec.exact_word width.bytes
  | signed width => exact Codec.exact_word width.bytes
  | binary32 => exact Codec.exact_binary32
  | binary64 => exact Codec.exact_binary64
  | char => exact Codec.exact_char
  | text => exact Codec.exact_text
  | option item ih => exact ih.option
  | list item ih => exact ih.list
  | array length item ih => exact ih.array length
  | pair first second ihfirst ihsecond => exact ihfirst.pair ihsecond
  | box => exact Codec.exact_box
  | coordinate => exact Codec.exact_coordinate
  | fileFormat => exact Codec.exact_fileFormat
  | doubleDelete => exact Codec.exact_doubleDelete

variable {t : FieldType}

theorem decode_eq_ok (bytes : Bytes) (v : t.Value) :
    t.decode bytes = .ok v ↔ t.Fits v ∧ ∃ rest, bytes = t.encode v ++ rest := by
  constructor
  · intro h
    cases hrun : t.codec.decode.run bytes with
    | error e => simp [decode, hrun, Except.map] at h
    | ok read =>
      obtain ⟨w, rest⟩ := read
      simp only [decode, hrun, Except.map, Except.ok.injEq] at h
      subst h
      obtain ⟨hfits, he⟩ := (t.exact_codec bytes w rest).mp hrun
      exact ⟨hfits, rest, he⟩
  · rintro ⟨hfits, rest, he⟩
    have hrun := (t.exact_codec bytes v rest).mpr ⟨hfits, he⟩
    simp [decode, hrun, Except.map]

theorem decode_encode {v : t.Value} (h : t.Fits v) : t.decode (t.encode v) = .ok v :=
  (decode_eq_ok ..).mpr ⟨h, [], (List.append_nil _).symm⟩

end FieldType
end TrackStore
