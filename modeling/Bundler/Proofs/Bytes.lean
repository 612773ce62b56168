import Bundler.Text.Cut
import Mathlib.Data.List.Basic

/-!
# Bytes of a text

A cut at a byte offset exists where a character starts or the text ends, and it cuts the bytes of the
text at that offset.
-/

namespace Bundler.Text

/-- The bytes of the UTF-8 form. -/
def bytes (text : String) : List UInt8 := text.toUTF8.data.toList

theorem bytes_ofList (text : List Char) : bytes (String.ofList text) = text.flatMap String.utf8EncodeChar := by
  simp [bytes, List.utf8Encode, String.toUTF8]

theorem length_flatMap_encode (text : List Char) : (text.flatMap String.utf8EncodeChar).length = size text := by
  induction text with
  | nil => rfl
  | cons c cs ih => simp [ih, String.length_utf8EncodeChar]

theorem bytes_append (a b : List Char) :
    bytes (String.ofList (a ++ b)) = bytes (String.ofList a) ++ bytes (String.ofList b) := by
  simp only [bytes_ofList, List.flatMap_append]

theorem length_bytes (text : String) : (bytes text).length = size text.toList := by
  rw [← length_flatMap_encode, ← bytes_ofList, String.ofList_toList]

theorem utf8ByteSize_eq (text : String) : text.utf8ByteSize = size text.toList := by
  rw [← length_bytes]
  rfl

/-! ## Cuts -/

theorem isValid_iff {text : String} {offset : Nat} :
    String.Pos.Raw.IsValid text ⟨offset⟩ ↔ ∃ a b, text.toList = a ++ b ∧ offset = size a := by
  rw [String.Pos.Raw.isValid_iff_exists_append]
  constructor
  · rintro ⟨a, b, rfl, h⟩
    refine ⟨a.toList, b.toList, String.toList_append, ?_⟩
    rw [← utf8ByteSize_eq]
    exact congrArg String.Pos.Raw.byteIdx h
  · rintro ⟨a, b, h, rfl⟩
    refine ⟨String.ofList a, String.ofList b, ?_, ?_⟩
    · rw [← String.ofList_append, ← h, String.ofList_toList]
    · rw [String.Pos.Raw.ext_iff, String.byteIdx_rawEndPos, utf8ByteSize_eq, String.toList_ofList]

theorem bytes_eq_append {text : String} {a b : List Char} (h : text.toList = a ++ b) :
    bytes text = bytes (String.ofList a) ++ bytes (String.ofList b) := by
  rw [← bytes_append, ← h, String.ofList_toList]

theorem length_bytes_ofList (text : List Char) : (bytes (String.ofList text)).length = size text := by
  rw [length_bytes, String.toList_ofList]

theorem le_length_of_isValid {text : String} {offset : Nat} (h : String.Pos.Raw.IsValid text ⟨offset⟩) :
    offset ≤ (bytes text).length := by
  obtain ⟨a, b, hab, rfl⟩ := isValid_iff.1 h
  rw [bytes_eq_append hab, List.length_append, length_bytes_ofList]
  exact Nat.le_add_right _ _

theorem exists_drop? {text : String} {offset : Nat} (h : String.Pos.Raw.IsValid text ⟨offset⟩) :
    ∃ rest, drop? offset text.toList = some rest ∧ bytes (String.ofList rest) = (bytes text).drop offset := by
  obtain ⟨a, b, hab, rfl⟩ := isValid_iff.1 h
  refine ⟨b, ?_, ?_⟩
  · rw [drop?, hab, cut?_size]
    rfl
  · rw [bytes_eq_append hab, List.drop_left' (length_bytes_ofList a)]

theorem exists_slice? {text : String} {start stop : Nat} (hle : start ≤ stop)
    (hstart : String.Pos.Raw.IsValid text ⟨start⟩) (hstop : String.Pos.Raw.IsValid text ⟨stop⟩) :
    ∃ part, slice? start stop text.toList = some part ∧
      bytes (String.ofList part) = ((bytes text).take stop).drop start := by
  obtain ⟨a, after, hafter, rfl⟩ := isValid_iff.1 hstart
  obtain ⟨b, rest, hrest, rfl⟩ := isValid_iff.1 hstop
  -- The longer beginning is the shorter one and what stands between the offsets.
  obtain ⟨part, rfl, rfl⟩ : ∃ part, b = a ++ part ∧ after = part ++ rest := by
    rcases List.append_eq_append_iff.1 (hafter.symm.trans hrest) with ⟨part, hb, hafter⟩ | ⟨part, ha, hrest⟩
    · exact ⟨part, hb, hafter⟩
    · have hempty : size part = 0 := by
        rw [ha, size_append] at hle
        omega
      have hnil : part = [] := List.eq_nil_of_length_eq_zero (by have := length_le_size part; omega)
      exact ⟨[], by simp [ha, hnil], by simp [hrest, hnil]⟩
  refine ⟨part, ?_, ?_⟩
  · have hdiff : size (a ++ part) - size a = size part := by
      rw [size_append]
      omega
    simp only [slice?, hle, hafter, cut?_size, hdiff, guard, if_true, pure, bind, Option.bind]
  · rw [bytes_eq_append hrest, List.take_left' (length_bytes_ofList _), bytes_append,
      List.drop_left' (length_bytes_ofList a)]

end Bundler.Text
