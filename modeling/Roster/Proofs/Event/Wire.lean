import Roster.Event.Consumer
import Roster.Event.Producer
import Roster.Proofs.Json.Reading
import Roster.Proofs.Payload.Accepted
import Mathlib.Tactic

/-!
# Events survive the wire

The document of an event is a flat object that the strict reading takes, so a consumer decodes the
bytes that a producer has sent into the event that went in.  Only a year that is too long to be
read could be in the way, and none that is stored is.
-/

namespace Roster
namespace Event

open Json Outcome Payload

variable {event : Event}

def fields (event : Event) : Fields :=
  [("id", .text event.id), ("name", .text event.name), ("year", .int event.year),
    ("event", .text event.event)]

theorem areSimple_fields (hyear : event.year.natAbs < 10 ^ maxIntegerDigits) :
    AreSimple event.fields := by
  intro field hfield
  unfold fields at hfield
  simp only [List.mem_cons, List.not_mem_nil, or_false] at hfield
  rcases hfield with rfl | rfl | rfl | rfl
  · exact ⟨⟨_, rfl⟩, _, rfl⟩
  · exact ⟨⟨_, rfl⟩, _, rfl⟩
  · exact ⟨⟨_, rfl⟩, hyear⟩
  · exact ⟨⟨_, rfl⟩, _, rfl⟩

theorem checkString_ofString (text : String) :
    checkString (.text (LooseText.ofString text)) = .ok text := by
  simp [checkString, checkText, ok_bind, LooseText.encode_ofString, pure, Except.pure]

theorem ofFields_fields (event : Event) : ofFields event.fields = .ok event := by
  have hid : required event.fields "id" checkString = .ok event.id :=
    required_eq_ok_iff.mpr ⟨_, rfl, checkString_ofString _⟩
  have hname : required event.fields "name" checkString = .ok event.name :=
    required_eq_ok_iff.mpr ⟨_, rfl, checkString_ofString _⟩
  have hyear : required event.fields "year" checkInteger = .ok event.year :=
    required_eq_ok_iff.mpr ⟨_, rfl, rfl⟩
  have hevent : withDefault event.fields "event" "created" checkString = .ok event.event :=
    withDefault_eq_ok_iff.mpr (.inr ⟨_, rfl, checkString_ofString _⟩)
  unfold ofFields
  rw [hid, hname, hyear, hevent]
  rfl

theorem readStrict?_document (hyear : event.year.natAbs < 10 ^ maxIntegerDigits) :
    readStrict? (LooseText.ofString event.document) = some (.object event.fields) := by
  have htext : LooseText.ofString event.document =
      write (compact false) (.object event.fields) :=
    ofString_write_object false (areSimple_fields hyear)
  rw [htext]
  exact readStrict?_write_object false (areSimple_fields hyear) (List.cons_ne_nil _ _)

theorem ofBytes_document (hyear : event.year.natAbs < 10 ^ maxIntegerDigits) :
    ofBytes (some (utf8 event.document)) = .ok event := by
  unfold ofBytes
  simp only [readUtf8?_utf8, Option.bind_some, readStrict?_document hyear, ofFields_fields]

theorem natAbs_lt_of_fitsInt64 {year : Int} (hfits : fitsInt64 year = true) :
    year.natAbs < 10 ^ maxIntegerDigits := by
  have hdigits : 10 ^ 19 ≤ 10 ^ maxIntegerDigits :=
    Nat.pow_le_pow_right (by decide) (by decide)
  apply Nat.lt_of_lt_of_le _ hdigits
  simp only [fitsInt64, Bool.and_eq_true, decide_eq_true_eq] at hfits
  unfold minInt64 maxInt64 at hfits
  omega

end Event

/-- A consumer decodes the value of an event into that event. -/
theorem Consumer.decode_document {event : Event} (hyear : fitsInt64 event.year = true) :
    decode (some (utf8 event.document)) = (.ok event, [received event]) := by
  simp only [decode, Event.ofBytes_document (Event.natAbs_lt_of_fitsInt64 hyear)]

end Roster
