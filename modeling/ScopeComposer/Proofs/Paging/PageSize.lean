import ScopeComposer.Proofs.Compose.ReadBack
import ScopeComposer.Proofs.Scope.Compact
import ScopeComposer.Proofs.Scope.Faults

/-!
# Accepted page sizes

Which values are accepted as a page size, said without the reading of numerals: the integers from 1
to 100, as numbers or spelled out. A page size reaches the library in four ways (a number or a text
that is checked, an integer by itself, a field of a record that is decoded), and all four accept the
same integers and refuse the others with the same words.
-/

namespace ScopeComposer

open Json Text

/-- A value that gives a number: that integer itself, or an unsigned numeral of it as a text, which
may have blank characters around it. A double is no integer, whatever its value. -/
inductive Json.Gives (n : Nat) : Json → Prop where
  /-- The integer. -/
  | integer : Gives n (.int n)
  /-- A numeral of the integer. -/
  | numeral {text : String} (h : UnsignedNumeral (trim text).toList n) : Gives n (.str text)

namespace PageSize

/-! ## Checked values -/

theorem ofInt?_eq_some_iff {z : Int} {size : PageSize} :
    ofInt? z = some size ↔ z = size.value := by
  have hone := size.one_le
  have hmax := size.le_hundred
  unfold ofInt?
  constructor
  · intro h
    split at h
    · obtain rfl := Option.some.inj h
      change z = z.toNat
      omega
    · cases h
  · rintro rfl
    rw [dif_pos (by omega)]
    rfl

/-- A sign makes no difference to a number that is not zero, except that it may not be a minus. -/
theorem signedNumeral_iff {cs : List Char} {n : Nat} (h : 1 ≤ n) :
    SignedNumeral cs n ↔ UnsignedNumeral cs n := by
  refine ⟨?_, .unsigned⟩
  generalize hz : (n : Int) = z
  rintro (⟨-⟩ | hcs)
  · omega
  · obtain rfl := Int.ofNat.inj hz
    exact hcs

theorem pageSizeInteger?_eq_some_iff {value : Json} {n : Nat} (h : 1 ≤ n) :
    pageSizeInteger? value = some (n : Int) ↔ value.Gives n := by
  constructor
  · unfold pageSizeInteger?
    split
    · rintro ⟨⟩
      exact .integer
    · rw [readSigned_eq_some_iff, signedNumeral_iff h]
      exact .numeral
    · nofun
  · rintro (_ | hcs)
    · rfl
    · exact readSigned_eq_some_iff.2 ((signedNumeral_iff h).2 hcs)

theorem ofJson_eq_ok_iff {value : Json} {size : PageSize} :
    ofJson value = .ok size ↔ value.Gives size.value := by
  have hsize : (pageSizeInteger? value).bind ofInt? = some size ↔ value.Gives size.value := by
    rw [← pageSizeInteger?_eq_some_iff size.one_le, Option.bind_eq_some_iff]
    simp only [ofInt?_eq_some_iff]
    simp
  rw [← hsize]
  unfold ofJson
  cases (pageSizeInteger? value).bind ofInt? <;> simp

theorem ofJson_str_eq_ok_iff {text : String} {size : PageSize} :
    ofJson (.str text) = .ok size ↔ SignedNumeral (trim text).toList size.value := by
  rw [ofJson_eq_ok_iff, signedNumeral_iff size.one_le]
  exact ⟨fun | .numeral h => h, .numeral⟩

/-! ## Decoded values -/

theorem decoder_run_int (m : Int64) :
    decoder.run (.int m.toInt) = (ofInt m.toInt).mapError fun e => .refused e.message := by
  have hrange : -(signedBound : Int) ≤ m.toInt ∧ m.toInt < signedBound :=
    ⟨m.le_toInt, m.toInt_lt⟩
  have hint : Decoder.int64.run (.int m.toInt) = .ok m.toInt := if_pos hrange
  unfold decoder
  simp only [Decoder.andThen, hint, bind, Except.bind]
  cases ofInt m.toInt <;> rfl

end PageSize

/-- Nothing but its page size can be at fault in a window of which nothing else is given. -/
theorem PageWindow.decoder_run_pageSize (value : Json) :
    decoder.run (.obj [("pageSize", value)]) =
      (PageSize.decoder.run value).map PageWindow.first := by
  cases h : PageSize.decoder.run value <;>
    simp [decoder, Record.decoder, Record.orElse, Functor.map, Record.map, Seq.seq, Record.seq,
      Record.pure, Record.field, Record.checkMembers, Absence.orElse, first, h, bind, Except.bind,
      pure, Except.pure, Except.map]

/-- Nothing but its page size can be at fault in a request of which otherwise only the scope is
given. -/
theorem ScopeRequest.decoder_run_pageSize {S : Type} [DecidableEq S] [Tag S] (t : S)
    (value : Json) : decoder.run (.obj [("scopeName", Tag.toJson t), ("pageSize", value)]) =
      (PageSize.decoder.run value).map fun size => first size t := by
  have ht : Tag.decoder.ReadsBack .declared (Tag.toJson t) t := Tag.readsBack t
  have hrun : Tag.decoder.run (Tag.toJson t) = .ok t := ht
  cases h : PageSize.decoder.run value <;>
    simp [decoder, Record.decoder, Record.required, Record.orElse, Functor.map, Record.map,
      Seq.seq, Record.seq, Record.pure, Record.field, Record.checkMembers, Absence.orElse,
      Slot.name, hrun, first, h, bind, Except.bind, pure, Except.pure, Except.map]

/-! ## The four ways -/

/-- A value is accepted as a page size just if it gives an integer from 1 to 100, and then it stands
for that integer; any other value is reported as it was given. An integer of 64 bits is accepted or
refused, and in the same words, whether it comes as a number, as a text, by itself or in a record.
-/
theorem PageSize.accepted_in_every_form :
    (∀ (value : Json) (n : Nat), (∃ size, ofJson value = .ok size ∧ size.value = n) ↔
      1 ≤ n ∧ n ≤ 100 ∧ value.Gives n) ∧
    (∀ value : Json, (∃ size, ofJson value = .ok size) ∨
      ofJson value = .error (.invalidPageSize
        (match value with
        | .str text => text
        | other => other.compact))) ∧
    ∀ m : Int64,
      ofJson (.int m.toInt) = ofInt m.toInt ∧
      ofJson (.str (toString m.toInt)) = ofInt m.toInt ∧
      (decoder.run (.int m.toInt)).mapError DecodeError.message =
        (ofInt m.toInt).mapError ValidationError.message ∧
      (PageWindow.decoder.run (.obj [("pageSize", .int m.toInt)])).mapError DecodeError.message =
        ((ofInt m.toInt).map PageWindow.first).mapError ValidationError.message ∧
      ∀ (S : Type) [DecidableEq S] [Tag S] (t : S),
        (ScopeRequest.decoder.run
          (.obj [("scopeName", Tag.toJson t), ("pageSize", .int m.toInt)])).mapError
            DecodeError.message =
          ((ofInt m.toInt).map fun size => ScopeRequest.first size t).mapError
            ValidationError.message := by
  refine ⟨fun value n => ⟨?_, ?_⟩, fun value => ?_, fun m => ?_⟩
  · rintro ⟨size, haccepted, rfl⟩
    exact ⟨size.one_le, size.le_hundred, ofJson_eq_ok_iff.1 haccepted⟩
  · rintro ⟨hone, hmax, hgives⟩
    exact ⟨⟨n, hone, hmax⟩, ofJson_eq_ok_iff.2 hgives, rfl⟩
  · cases hresult : ofJson value with
    | ok size => exact .inl ⟨size, rfl⟩
    | error e =>
      obtain ⟨-⟩ := ofJson_eq_error_iff.1 hresult
      right
      unfold givenPageSize
      rfl
  · have hnumber : ofJson (.int m.toInt) = ofInt m.toInt := by
      unfold ofJson ofInt
      rfl
    have hdecoded := decoder_run_int m
    refine ⟨hnumber, (ReceivedRequest.ofJson_toString m.toInt).trans hnumber, ?_, ?_, ?_⟩
    · rw [hdecoded]
      cases ofInt m.toInt <;> rfl
    · rw [PageWindow.decoder_run_pageSize, hdecoded]
      cases ofInt m.toInt <;> rfl
    · intro S _ _ t
      rw [ScopeRequest.decoder_run_pageSize, hdecoded]
      cases ofInt m.toInt <;> rfl

example : PageSize.ofJson (.str "\u00a0+0007 ") = .ok ⟨7, by decide, by decide⟩ := by decide

end ScopeComposer
