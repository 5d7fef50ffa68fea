import UnitReview.Host.OsText
import UnitReview.Proofs.Text.Utf8

/-!
# Texts among the texts of the system

A text is passed on as its UTF-8 form and comes back as it was, both exactly (`text?_ofString`) and
for show (`display_ofString`). What comes back exactly is nothing else than a text that was passed
on (`text?_eq_some`).
-/

set_option autoImplicit false

namespace UnitReview.Host.OsText

theorem bytes_ofString (s : String) : (ofString s).bytes = Text.encode s.toList := by
  have hs : s.toByteArray = s.toList.utf8Encode := by
    rw [← String.toByteArray_ofList, String.ofList_toList]
  rw [ofString, hs, List.utf8Encode, List.toList_data_toByteArray]
  rfl

@[simp]
theorem text?_ofString (s : String) : (ofString s).text? = some s := by
  rw [text?, bytes_ofString, Text.decode?_encode, Option.map_some, String.ofList_toList]

/-- **Exactly the texts come back exactly.** -/
theorem text?_eq_some {t : OsText} {s : String} : t.text? = some s ↔ t = s := by
  constructor
  · intro h
    obtain ⟨cs, hcs, rfl⟩ := Option.map_eq_some_iff.1 h
    apply OsText.ext
    rw [bytes_ofString, String.toList_ofList, Text.encode_of_decode? hcs]
  · rintro rfl
    exact text?_ofString s

theorem ofString_inj {s s' : String} : ofString s = ofString s' ↔ s = s' := by
  rw [← text?_eq_some, text?_ofString, Option.some.injEq]

theorem isText_iff {t : OsText} : t.isText = true ↔ ∃ s : String, t = s := by
  simp only [isText, Option.isSome_iff_exists, text?_eq_some]

theorem isText_iff_encode {t : OsText} : t.isText = true ↔ ∃ cs, t.bytes = Text.encode cs := by
  rw [isText_iff]
  constructor
  · rintro ⟨s, rfl⟩
    exact ⟨s.toList, bytes_ofString s⟩
  · rintro ⟨cs, hcs⟩
    refine ⟨String.ofList cs, OsText.ext ?_⟩
    rw [hcs, bytes_ofString, String.toList_ofList]

theorem isText_append {a b : OsText} (ha : a.isText = true) (hb : b.isText = true) :
    (a ++ b).isText = true := by
  obtain ⟨cs, hcs⟩ := isText_iff_encode.1 ha
  obtain ⟨ds, hds⟩ := isText_iff_encode.1 hb
  refine isText_iff_encode.2 ⟨cs ++ ds, ?_⟩
  show a.bytes ++ b.bytes = _
  rw [hcs, hds, Text.encode, Text.encode, Text.encode, List.flatMap_append]

end UnitReview.Host.OsText
